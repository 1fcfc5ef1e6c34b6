import FileQuery.Execution.Conversion
import FileQuery.Proofs.Path.Steps

/-!
# What matches are converted to, one by one or at the same time

A match is converted to a file next to it. The name of that file has the extension of the format,
so no match that is converted has it. But two matches may be converted to one file: their names
need only be the same up to the first dot.
-/

namespace FileQuery

namespace MediaFormat

variable {format : MediaFormat}

/-- A format whose extension is one of its kind. -/
def Listed (format : MediaFormat) : Prop := format.extension ∈ format.kind.extensions

/-- A format that is read is listed. -/
theorem listed_of_ofText? {written : String} (reads : ofText? written = some format) :
    format.Listed := by
  obtain ⟨kind, found, rfl⟩ := Option.map_eq_some_iff.mp reads
  simpa [Listed] using List.find?_some found

/-- The extensions of formats are not empty, and have neither dots nor slashes. -/
theorem extension_spelling (kind : MediaKind) :
    ∀ extension ∈ kind.extensions, extension ≠ "" ∧ '.' ∉ extension.toList ∧
      '/' ∉ extension.toList := by
  cases kind <;> decide

theorem Listed.nonempty (listed : format.Listed) : format.extension ≠ "" :=
  (extension_spelling format.kind _ listed).1

theorem Listed.undotted (listed : format.Listed) : '.' ∉ format.extension.toList :=
  (extension_spelling format.kind _ listed).2.1

theorem Listed.unslashed (listed : format.Listed) : '/' ∉ format.extension.toList :=
  (extension_spelling format.kind _ listed).2.2

end MediaFormat

namespace Path

/-- A name that ends with a dot and a text without dots is split there. -/
theorem splitName_dotted {before extension : String} (nonempty : before ≠ "")
    (undotted : '.' ∉ extension.toList) :
    splitName (before ++ "." ++ extension) = (before, some extension) := by
  have characters : (before ++ "." ++ extension).toList =
      before.toList ++ '.' :: extension.toList := by simp
  have after : ((before ++ "." ++ extension).toList.reverse.takeWhile (· ≠ '.')).reverse =
      extension.toList := by
    have stops : (extension.toList.reverse ++ '.' :: before.toList.reverse).takeWhile
        (fun c => decide (c ≠ '.')) = extension.toList.reverse := by
      rw [List.takeWhile_append_of_pos]
      · simp
      · intro c member
        have differs : c ≠ '.' := fun dot => undotted (dot ▸ List.mem_reverse.mp member)
        simpa using differs
    rw [characters, List.reverse_append, List.reverse_cons, List.append_assoc]
    exact (congrArg List.reverse stops).trans (List.reverse_reverse _)
  have some_before : before.toList ≠ [] := by
    simpa using nonempty
  have shorter : before.toList.length + (extension.toList.length + 1) - extension.toList.length -
      1 = before.toList.length := by omega
  have taken : (before.toList ++ '.' :: extension.toList).take
      (before.toList.length + (extension.toList.length + 1) - extension.toList.length - 1) =
        before.toList := by
    rw [shorter, List.take_left]
  unfold splitName
  dsimp only
  rw [after, characters, List.length_append, List.length_cons, taken, if_neg]
  · simp
  · rintro (long | none)
    · omega
    · exact some_before none

end Path

namespace Conversion

variable {format : MediaFormat} {base : Path} {name : String}

/-- The name of what a file of a name is converted to. -/
def outputName (format : MediaFormat) (name : String) : String :=
  stem name ++ "." ++ format.extension

theorem stem_ne_empty (nonempty : name ≠ "") : stem name ≠ "" := by
  unfold stem
  dsimp only
  split
  · exact nonempty
  · rename_i some_left
    simpa using some_left

theorem stem_unslashed (unslashed : '/' ∉ name.toList) : '/' ∉ (stem name).toList := by
  unfold stem
  dsimp only
  split
  · exact unslashed
  · intro slash
    rw [String.toList_ofList] at slash
    exact unslashed ((List.takeWhile_prefix _).subset slash)

/-- What a file is converted to has a name. -/
theorem isName_outputName (listed : format.Listed) (isName : IsName name) :
    IsName (outputName format name) := by
  have characters : (outputName format name).toList =
      (stem name).toList ++ '.' :: format.extension.toList := by simp [outputName]
  have some_stem : (stem name).toList ≠ [] := by
    simpa using stem_ne_empty isName.nonempty
  have some_extension : format.extension.toList ≠ [] := by
    simpa using listed.nonempty
  have length : 2 < (outputName format name).toList.length := by
    have long := List.length_pos_iff.mpr some_stem
    have long' := List.length_pos_iff.mpr some_extension
    rw [characters, List.length_append, List.length_cons]
    omega
  refine ⟨?_, ?_, ?_, ?_⟩
  · rintro empty
    simp [empty] at length
  · rintro here
    simp [here] at length
  · rintro parent
    simp [parent] at length
  · rw [characters, List.mem_append, List.mem_cons]
    rintro (inStem | slash | inExtension)
    · exact stem_unslashed isName.unslashed inStem
    · exact absurd slash (by decide)
    · exact listed.unslashed inExtension

/-- What an entry of a folder is converted to is an entry of the folder. -/
theorem output_child (format : MediaFormat) (base : Path) (isName : IsName name) :
    output format (base.child name) = base.trimmed.child (outputName format name) := by
  rw [output, Path.withFileName, Path.fileName?_child base isName, Path.parent?_child base isName]
  rfl

/-- The file that a match is converted to has the extension of the format. -/
theorem extension?_outputName (listed : format.Listed) (parent : Path) (isName : IsName name) :
    (parent.child (outputName format name)).extension? = some format.extension := by
  have split := Path.splitName_dotted (stem_ne_empty isName.nonempty) listed.undotted
  rw [Path.extension?, Path.fileName?_child parent (isName_outputName listed isName)]
  simp [outputName, split]

/-- A file that a match is converted to has the format, and so is not converted itself. -/
theorem isFormat_outputName (listed : format.Listed) (base : Path) (isName : IsName name) :
    isFormat format (base.child (outputName format name)) = true := by
  rw [isFormat, extension?_outputName listed base isName]
  simp

/-- No match that is converted has the name of a file that a match is converted to. -/
theorem ne_outputName (listed : format.Listed) {other : String} (isName : IsName other)
    (converted : isFormat format (base.child name) = false) :
    name ≠ outputName format other := by
  rintro rfl
  rw [isFormat_outputName listed base isName] at converted
  contradiction

end Conversion

/-!
## Conversions at the same time

Each conversion reads its input, and later writes its output. A schedule says which conversion
takes its next step when, so every order and every interleaving of the steps is a schedule. To
convert matches one after another is the schedule in which each takes both steps at once.
-/

/-- What makes a file of another one: from both paths, the kind and the bytes that were read come
    the bytes to write, or the reason why none are written. -/
abbrev Codec := Path → Path → MediaKind → List UInt8 → Except ConversionError (List UInt8)

namespace Codec

/-- Whether what is made depends only on the bytes that were read, and on the kind and the extension
    that were asked for. -/
def Steady (codec : Codec) : Prop :=
  ∀ ⦃input input' output output' : Path⦄ ⦃kind : MediaKind⦄ ⦃bytes content content' : List UInt8⦄,
    output.extension? = output'.extension? → codec input output kind bytes = .ok content →
      codec input' output' kind bytes = .ok content' → content' = content

/-- Makes a file of bytes that were read. -/
def finish (codec : Codec) (input output : Path) (kind : MediaKind) (bytes : List UInt8) :
    Changes ConversionError Unit := fun tree =>
  match codec input output kind bytes with
  | .error error => (.error error, tree)
  | .ok content =>
    match tree.write output content with
    | .error error => (.error (.file error), tree)
    | .ok changed => (.ok (), changed)

/-- The converter that reads a file and makes another one of it. -/
def converter (codec : Codec) : Converter := fun input output kind tree =>
  match tree.read input with
  | .error error => (.error (.file error), tree)
  | .ok bytes => codec.finish input output kind bytes tree

end Codec

/-- How far a conversion is. -/
inductive Progress
  | waiting
  /-- It has read its input. -/
  | holding (bytes : List UInt8)
  | finished (result : Except ConversionError Unit)

/-- A file tree, and how far each conversion is. -/
structure Fanout where
  tree : FileTree
  progress : Path → Progress

namespace Fanout

/-- Before any conversion has read anything. -/
def start (tree : FileTree) : Fanout := ⟨tree, fun _ => .waiting⟩

/-- The conversion of a file is as far as given, and the tree is the given one. -/
def advance (state : Fanout) (path : Path) (progress : Progress) (tree : FileTree) : Fanout :=
  ⟨tree, fun other => if other = path then progress else state.progress other⟩

/-- The conversion of a file takes its next step. -/
def step (codec : Codec) (format : MediaFormat) (state : Fanout) (path : Path) : Fanout :=
  match state.progress path with
  | .waiting =>
    match state.tree.read path with
    | .error error => state.advance path (.finished (.error (.file error))) state.tree
    | .ok bytes => state.advance path (.holding bytes) state.tree
  | .holding bytes =>
    match codec.finish path (Conversion.output format path) format.kind bytes state.tree with
    | (result, changed) => state.advance path (.finished result) changed
  | .finished _ => state

/-- The conversions take steps in the order of a schedule. -/
def run (codec : Codec) (format : MediaFormat) (state : Fanout) (schedule : List Path) : Fanout :=
  schedule.foldl (step codec format) state

/-- Whether the conversions of files are finished. -/
def Complete (state : Fanout) (jobs : List Path) : Prop :=
  ∀ path ∈ jobs, ∃ result, state.progress path = .finished result

/-- A report with what became of matches. -/
def report (state : Fanout) (format : MediaFormat) (root : Path) : List Path → Report → Report
  | [], report => report
  | path :: rest, report =>
    if Conversion.isFormat format path then
      state.report format root rest (report.skip root path)
    else
      match state.progress path with
      | .finished (.ok ()) => state.report format root rest report.succeed
      | .finished (.error error) =>
        state.report format root rest (report.fail root path error.message)
      | .waiting | .holding _ => state.report format root rest report

end Fanout

namespace Conversion

/-- The matches that are converted. -/
def jobs (format : MediaFormat) (found : List Path) : List Path :=
  found.filter (!isFormat format ·)

/-- The schedule in which each conversion takes both of its steps at once. -/
def inTurn (jobs : List Path) : List Path := jobs.flatMap fun path => [path, path]

end Conversion

namespace Fanout

open Conversion (output isFormat jobs inTurn convertAll)

variable {codec : Codec} {format : MediaFormat} {state : Fanout} {path other : Path}
  {progress : Progress} {tree : FileTree}

@[simp] theorem progress_advance_self :
    (state.advance path progress tree).progress path = progress := by
  simp [advance]

@[simp] theorem progress_advance_other (differs : other ≠ path) :
    (state.advance path progress tree).progress other = state.progress other := by
  simp [advance, differs]

@[simp] theorem tree_advance : (state.advance path progress tree).tree = tree := rfl

/-! ### One step -/

/-- A step of one conversion gets no other further. -/
theorem progress_step_other (differs : other ≠ path) :
    (state.step codec format path).progress other = state.progress other := by
  unfold step
  split
  · split <;> exact progress_advance_other differs
  · exact progress_advance_other differs
  · rfl

/-- A finished conversion takes no step. -/
theorem step_finished {result : Except ConversionError Unit}
    (finished : state.progress path = .finished result) :
    state.step codec format path = state := by
  simp [step, finished]

/-- What is finished stays finished. -/
theorem finished_step {result : Except ConversionError Unit}
    (finished : state.progress other = .finished result) :
    (state.step codec format path).progress other = .finished result := by
  by_cases same : other = path
  · subst same
    rwa [step_finished finished]
  · rwa [progress_step_other same]

/-- Two steps of a conversion are a conversion. -/
theorem step_step (codec : Codec) (format : MediaFormat)
    (waiting : state.progress path = .waiting) :
    (state.step codec format path).step codec format path =
      state.advance path
        (.finished (codec.converter path (output format path) format.kind state.tree).1)
        (codec.converter path (output format path) format.kind state.tree).2 := by
  have advance_twice (first second : Progress) (tree later : FileTree) :
      (state.advance path first tree).advance path second later =
        state.advance path second later := by
    unfold advance
    congr 1
    funext other
    by_cases same : other = path <;> simp [same]
  rw [Codec.converter]
  cases reads : state.tree.read path with
  | error error =>
    have first : state.step codec format path =
        state.advance path (.finished (.error (.file error))) state.tree := by
      simp [step, waiting, reads]
    rw [first, step_finished progress_advance_self]
  | ok bytes =>
    have first : state.step codec format path =
        state.advance path (.holding bytes) state.tree := by
      simp [step, waiting, reads]
    rw [first, step, progress_advance_self]
    exact advance_twice _ _ _ _

/-! ### Runs -/

variable {schedule rest found : List Path}

theorem run_append (schedule rest : List Path) :
    state.run codec format (schedule ++ rest) =
      (state.run codec format schedule).run codec format rest :=
  List.foldl_append

theorem finished_run {result : Except ConversionError Unit}
    (finished : state.progress other = .finished result) :
    (state.run codec format schedule).progress other = .finished result := by
  induction schedule generalizing state with
  | nil => exact finished
  | cons path rest inductionHypothesis => exact inductionHypothesis (finished_step finished)

/-- A conversion that takes two steps is finished. -/
theorem exists_finished (codec : Codec) (format : MediaFormat) (state : Fanout) (path : Path) :
    ∃ result, ((state.step codec format path).step codec format path).progress path =
      .finished result := by
  cases progress : state.progress path with
  | waiting => exact ⟨_, by rw [step_step codec format progress, progress_advance_self]⟩
  | holding bytes =>
    have first : ∃ result, (state.step codec format path).progress path = .finished result := by
      rw [step, progress]
      exact ⟨_, progress_advance_self⟩
    obtain ⟨result, finished⟩ := first
    exact ⟨result, finished_step finished⟩
  | finished result => exact ⟨result, finished_step (finished_step progress)⟩

/-- Conversions that take both of their steps are finished. -/
theorem complete_inTurn (codec : Codec) (format : MediaFormat) (state : Fanout)
    (files : List Path) : (state.run codec format (inTurn files)).Complete files := by
  intro path member
  obtain ⟨before, after, rfl⟩ := List.append_of_mem member
  obtain ⟨result, finished⟩ :=
    exists_finished codec format (state.run codec format (inTurn before)) path
  refine ⟨result, ?_⟩
  have split : inTurn (before ++ path :: after) =
      inTurn before ++ ([path, path] ++ inTurn after) := by
    simp [inTurn]
  rw [split, run_append, run_append]
  exact finished_run finished

/-! ### Reports -/

/-- The report depends only on how far the conversions of the matches are. -/
theorem report_congr {other : Fanout} {root : Path} {report : Report}
    (same : ∀ path ∈ jobs format found, other.progress path = state.progress path) :
    other.report format root found report = state.report format root found report := by
  induction found generalizing report with
  | nil => rfl
  | cons path rest inductionHypothesis =>
    rw [Fanout.report, Fanout.report]
    by_cases already : isFormat format path = true
    · have skipped : jobs format (path :: rest) = jobs format rest := by
        simp [jobs, already]
      rw [if_pos already, if_pos already]
      exact inductionHypothesis (skipped ▸ same)
    · have converted : jobs format (path :: rest) = path :: jobs format rest := by
        simp [jobs, already]
      rw [converted] at same
      obtain ⟨here, later⟩ := List.forall_mem_cons.mp same
      rw [if_neg already, if_neg already, here]
      split <;> exact inductionHypothesis later

/-- To convert matches one after another comes to the report and the tree to which it comes when
    each conversion takes both of its steps at once. -/
theorem convertAll_eq_run (codec : Codec) (format : MediaFormat) (state : Fanout) (root : Path)
    (report : Report) (distinct : found.Nodup)
    (waiting : ∀ path ∈ jobs format found, state.progress path = .waiting) :
    convertAll codec.converter format root found report state.tree =
      ((state.run codec format (inTurn (jobs format found))).report format root found report,
        (state.run codec format (inTurn (jobs format found))).tree) := by
  induction found generalizing state report with
  | nil => rfl
  | cons path rest inductionHypothesis =>
    obtain ⟨absent, distinct⟩ := List.nodup_cons.mp distinct
    rw [convertAll, Fanout.report]
    dsimp only
    by_cases already : isFormat format path = true
    · have skipped : jobs format (path :: rest) = jobs format rest := by
        simp [jobs, already]
      rw [if_pos already, if_pos already, skipped]
      exact inductionHypothesis _ _ distinct (skipped ▸ waiting)
    · have converted : jobs format (path :: rest) = path :: jobs format rest := by
        simp [jobs, already]
      rw [converted] at waiting ⊢
      obtain ⟨here, later⟩ := List.forall_mem_cons.mp waiting
      have absent' : path ∉ jobs format rest := fun member =>
        absent (List.mem_filter.mp member).1
      have later' : ∀ other ∈ jobs format rest,
          ((state.step codec format path).step codec format path).progress other =
            .waiting := by
        intro other member
        have differs : other ≠ path := fun same => absent' (same ▸ member)
        rw [progress_step_other differs, progress_step_other differs]
        exact later other member
      have twice : state.run codec format (inTurn (path :: jobs format rest)) =
          ((state.step codec format path).step codec format path).run codec format
            (inTurn (jobs format rest)) := rfl
      have both := step_step codec format here
      have finished : ((state.step codec format path).step codec format path).progress path =
          .finished (codec.converter path (output format path) format.kind state.tree).1 := by
        rw [both, progress_advance_self]
      have tree : ((state.step codec format path).step codec format path).tree =
          (codec.converter path (output format path) format.kind state.tree).2 := by
        rw [both, tree_advance]
      have afterwards (report : Report) := inductionHypothesis _ report distinct later'
      rw [if_neg already, if_neg already, twice, finished_run finished]
      rw [tree] at afterwards
      cases converts : codec.converter path (output format path) format.kind state.tree with
      | mk result changed =>
        rw [converts] at afterwards
        cases result with
        | ok => exact afterwards _
        | error => exact afterwards _

end Fanout

end FileQuery

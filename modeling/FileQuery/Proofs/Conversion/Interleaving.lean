import FileQuery.Execution.Run
import FileQuery.Proofs.Conversion.Fanout
import FileQuery.Proofs.Execution.Accounting
import FileQuery.Proofs.FileTree.Entries

/-!
# Conversions that do not disturb each other

No output is an input of another conversion, so what a conversion reads, and whether it succeeds,
does not depend on when it takes its steps. Neither does the report. But two matches whose names
are the same up to the first dot are converted to one file, and it holds what is written last. So
the conversions of a statement are independent exactly when no two matches like this hold different
bytes.
-/

namespace FileQuery

open Conversion (output outputName isFormat jobs inTurn)
open FileTree (namingFault writeFault)

/-- What a codec makes of the bytes of a file. -/
def Codec.Makes (codec : Codec) (format : MediaFormat) (tree : FileTree) (path : Path)
    (content : List UInt8) : Prop :=
  ∃ bytes, tree.read path = .ok bytes ∧
    codec path (output format path) format.kind bytes = .ok content

/-- Progress that is the same as if the conversion took its steps in a given tree. -/
def Progress.Agrees (codec : Codec) (format : MediaFormat) (tree : FileTree) (path : Path) :
    Progress → Prop
  | waiting => True
  | holding bytes => tree.read path = .ok bytes
  | finished result => (codec.converter path (output format path) format.kind tree).1 = result

/-- The files of a folder that are to be converted, by their names. -/
structure Workplace (tree : FileTree) (format : MediaFormat) (base : Path) (folder : Place)
    (names : List String) : Prop where
  listed : format.Listed
  reaches : ∃ left, tree.Reaches base left folder
  isFolder : ∃ stamps entries, tree.get? folder = some (.folder stamps entries)
  areNames : ∀ name ∈ names, IsName name
  files : ∀ name ∈ names, ∃ stamps executable bytes,
    tree.get? (folder ++ [name]) = some (.file stamps executable bytes)
  converted : ∀ name ∈ names, isFormat format (base.child name) = false
  unlinked : ∀ name ∈ names,
    namingFault (base.trimmed.child (outputName format name)) (outputName format name) = none →
      ∀ target, tree.get? (folder ++ [outputName format name]) ≠ some (.link target)

namespace Workplace

variable {tree later : FileTree} {format : MediaFormat} {base : Path} {folder : Place}
  {names : List String} {log : List (String × List UInt8)} {name other : String}

/-- Why no file can be converted to a name in a folder. -/
def fault (tree : FileTree) (base : Path) (folder : Place) (name : String) : Option FileError :=
  (namingFault (base.trimmed.child name) name).or (writeFault (tree.shell? (folder ++ [name])))

/-- A log of outputs that were written. -/
def Logs (format : MediaFormat) (names : List String) (log : List (String × List UInt8)) : Prop :=
  ∀ entry ∈ log, ∃ name ∈ names, outputName format name = entry.1

/-- An input is no output that was written. -/
theorem lookup_input (work : Workplace tree format base folder names) (logs : Logs format names log)
    (member : name ∈ names) : log.lookup name = none := by
  refine List.lookup_eq_none_iff.mpr fun entry written => ?_
  obtain ⟨origin, member', same⟩ := logs entry written
  have differs : name ≠ outputName format origin :=
    Conversion.ne_outputName work.listed (work.areNames origin member') (work.converted name member)
  rw [← same]
  simpa using differs

/-- What is read of an input does not depend on the outputs that were written. -/
theorem read_eq (work : Workplace tree format base folder names)
    (after : tree.After folder log later) (logs : Logs format names log) (member : name ∈ names) :
    later.read (base.child name) = tree.read (base.child name) := by
  obtain ⟨left, reaches⟩ := work.reaches
  obtain ⟨_, _, isFolder⟩ := work.isFolder
  obtain ⟨stamps, executable, bytes, isFile⟩ := work.files name member
  have isName := work.areNames name member
  have same := after.unwritten name (work.lookup_input logs member)
  have shows := FileTree.shell?_file isFile
  have unlinked : ∀ target, tree.get? (folder ++ [name]) ≠ some (.link target) := by
    simp [isFile]
  have unlinked' : ∀ target, later.get? (folder ++ [name]) ≠ some (.link target) := by
    intro target found
    have linked := FileTree.shell?_link found
    rw [same, shows] at linked
    cases linked
  rw [FileTree.read_child (reaches.keeps (after.keeps isFolder)) isName unlinked',
    FileTree.read_child reaches isName unlinked, same]

/-- What comes of writing an output does not depend on the outputs that were written. -/
theorem write_eq (work : Workplace tree format base folder names)
    (after : tree.After folder log later) (member : name ∈ names) (bytes : List UInt8) :
    later.write (output format (base.child name)) bytes =
      match fault tree base folder (outputName format name) with
      | some error => .error error
      | none => .ok (later.deposit (folder ++ [outputName format name]) bytes) := by
  obtain ⟨left, reaches⟩ := work.reaches
  obtain ⟨_, _, isFolder⟩ := work.isFolder
  obtain ⟨_, _, isFolder'⟩ := after.isFolder isFolder
  have isName := work.areNames name member
  have reaches' : later.Reaches base.trimmed left folder :=
    (reaches.keeps (after.keeps isFolder)).within base.within_trimmed
  have unlinked (wellNamed : namingFault (base.trimmed.child (outputName format name))
      (outputName format name) = none) (target : String) :
      later.get? (folder ++ [outputName format name]) ≠ some (.link target) := by
    intro found
    have blocked := after.writeFault_eq (outputName format name)
    rw [FileTree.shell?_link found] at blocked
    cases shows : tree.shell? (folder ++ [outputName format name]) with
    | none =>
      rw [shows] at blocked
      cases blocked
    | some node =>
      rw [shows] at blocked
      cases node with
      | file | folder => cases blocked
      | link target' =>
        exact work.unlinked name member wellNamed target' (FileTree.get?_of_shell?_link shows)
  have writes := FileTree.write_child reaches'
    (Conversion.isName_outputName work.listed isName) isFolder' unlinked bytes
  rw [after.writeFault_eq] at writes
  rw [Conversion.output_child format base isName]
  cases blocked : fault tree base folder (outputName format name) with
  | some error =>
    rw [fault] at blocked
    rw [blocked] at writes
    exact writes
  | none =>
    rw [fault] at blocked
    rw [blocked] at writes
    exact writes

/-- An output can be written exactly where nothing stands against it. -/
theorem exists_write_iff (work : Workplace tree format base folder names) (member : name ∈ names)
    (bytes : List UInt8) :
    (∃ changed, tree.write (output format (base.child name)) bytes = .ok changed) ↔
      fault tree base folder (outputName format name) = none := by
  rw [work.write_eq (.start tree folder) member bytes]
  cases fault tree base folder (outputName format name) <;> simp

/-- Two inputs are converted to one file exactly when their outputs have one name. -/
theorem output_eq_iff (work : Workplace tree format base folder names) (member : name ∈ names)
    (member' : other ∈ names) :
    output format (base.child name) = output format (base.child other) ↔
      outputName format name = outputName format other := by
  have isName := work.areNames name member
  have isName' := work.areNames other member'
  rw [Conversion.output_child format base isName, Conversion.output_child format base isName']
  exact ⟨Path.child_injective (Conversion.isName_outputName work.listed isName)
    (Conversion.isName_outputName work.listed isName'), congrArg _⟩

end Workplace

/-- A fan-out in which each conversion has got as far as it would have alone, and in which the
    outputs of those that succeeded were written. -/
structure Fanout.Sound (codec : Codec) (tree : FileTree) (format : MediaFormat) (base : Path)
    (folder : Place) (names : List String) (log : List (String × List UInt8)) (state : Fanout) :
    Prop where
  after : tree.After folder log state.tree
  agrees : ∀ name ∈ names,
    (state.progress (base.child name)).Agrees codec format tree (base.child name)
  logged : ∀ written content, (written, content) ∈ log ↔
    ∃ name ∈ names, outputName format name = written ∧
      state.progress (base.child name) = .finished (.ok ()) ∧
      codec.Makes format tree (base.child name) content

namespace Fanout

variable {codec : Codec} {tree : FileTree} {format : MediaFormat} {base : Path}
  {folder : Place} {names : List String} {log log' : List (String × List UInt8)} {name : String}
  {state state' : Fanout}

theorem sound_start (codec : Codec) (tree : FileTree) (format : MediaFormat) (base : Path)
    (folder : Place) (names : List String) :
    (start tree).Sound codec tree format base folder names [] where
  after := .start tree folder
  agrees := fun _ _ => trivial
  logged := by simp [start]

namespace Sound

theorem logs (sound : state.Sound codec tree format base folder names log) :
    Workplace.Logs format names log := by
  intro entry written
  obtain ⟨name, member, same, -⟩ := (sound.logged entry.1 entry.2).mp written
  exact ⟨name, member, same⟩

/-- A conversion gets further, but has not succeeded and writes nothing. -/
theorem advance (sound : state.Sound codec tree format base folder names log)
    {progress : Progress}
    (agrees : progress.Agrees codec format tree (base.child name))
    (before : state.progress (base.child name) ≠ .finished (.ok ()))
    (after : progress ≠ .finished (.ok ())) :
    (state.advance (base.child name) progress state.tree).Sound codec tree format base folder
      names log := by
  have same (path : Path) :
      (state.advance (base.child name) progress state.tree).progress path = .finished (.ok ()) ↔
        state.progress path = .finished (.ok ()) := by
    by_cases here : path = base.child name
    · subst here
      simp [before, after]
    · rw [progress_advance_other here]
  refine ⟨sound.after, fun other member => ?_, fun written content => ?_⟩
  · by_cases here : base.child other = base.child name
    · rw [here, progress_advance_self]
      exact agrees
    · rw [progress_advance_other here]
      exact sound.agrees other member
  · rw [sound.logged]
    simp only [same]

/-- A conversion succeeds, and writes its output. -/
theorem succeed (sound : state.Sound codec tree format base folder names log)
    (work : Workplace tree format base folder names) (member : name ∈ names)
    (before : state.progress (base.child name) ≠ .finished (.ok ())) {content : List UInt8}
    (agrees : Progress.Agrees codec format tree (base.child name) (.finished (.ok ())))
    (makes : codec.Makes format tree (base.child name) content)
    (fits : Workplace.fault tree base folder (outputName format name) = none) :
    (state.advance (base.child name) (.finished (.ok ()))
        (state.tree.deposit (folder ++ [outputName format name]) content)).Sound codec tree
      format base folder names ((outputName format name, content) :: log) := by
  obtain ⟨_, _, isFolder⟩ := work.isFolder
  have fits' := (Option.or_eq_none_iff.mp fits).2
  refine ⟨sound.after.deposit isFolder fits' content, fun other member' => ?_, ?_⟩
  · by_cases here : base.child other = base.child name
    · rw [here, progress_advance_self]
      exact agrees
    · rw [progress_advance_other here]
      exact sound.agrees other member'
  · intro written content'
    constructor
    · intro listed
      rcases List.mem_cons.mp listed with same | listed
      · obtain ⟨rfl, rfl⟩ := Prod.mk.inj same
        exact ⟨name, member, rfl, progress_advance_self, makes⟩
      · obtain ⟨other, member', same, finished, makes'⟩ := (sound.logged _ _).mp listed
        refine ⟨other, member', same, ?_, makes'⟩
        by_cases here : base.child other = base.child name
        · rw [here, progress_advance_self]
        · rw [progress_advance_other here]
          exact finished
    · rintro ⟨other, member', rfl, finished, makes'⟩
      by_cases here : base.child other = base.child name
      · obtain rfl := Path.child_injective (work.areNames other member')
          (work.areNames name member) here
        obtain ⟨bytes, reads, made⟩ := makes
        obtain ⟨bytes', reads', made'⟩ := makes'
        obtain rfl := Except.ok.inj (reads.symm.trans reads')
        obtain rfl := Except.ok.inj (made.symm.trans made')
        exact List.mem_cons_self
      · rw [progress_advance_other here] at finished
        exact List.mem_cons_of_mem _
          ((sound.logged _ _).mpr ⟨other, member', rfl, finished, makes'⟩)

/-- Each step of a conversion keeps it as far as it would be alone. -/
theorem step (sound : state.Sound codec tree format base folder names log)
    (work : Workplace tree format base folder names) (member : name ∈ names) :
    ∃ log', (state.step codec format (base.child name)).Sound codec tree format base folder names
      log' := by
  have start := FileTree.After.start tree folder
  have reads := work.read_eq sound.after sound.logs member
  unfold Fanout.step
  cases progress : state.progress (base.child name) with
  | waiting =>
    have before : state.progress (base.child name) ≠ .finished (.ok ()) := by simp [progress]
    dsimp only
    rw [reads]
    cases found : tree.read (base.child name) with
    | error error =>
      refine ⟨log, sound.advance ?_ before (by simp)⟩
      simp [Progress.Agrees, Codec.converter, found]
    | ok bytes => exact ⟨log, sound.advance found before (by simp)⟩
  | holding bytes =>
    have before : state.progress (base.child name) ≠ .finished (.ok ()) := by simp [progress]
    have found : tree.read (base.child name) = .ok bytes := by
      have agrees := sound.agrees name member
      rwa [progress] at agrees
    dsimp only
    unfold Codec.finish
    cases makes : codec (base.child name) (output format (base.child name)) format.kind bytes with
    | error error =>
      refine ⟨log, sound.advance ?_ before (by simp)⟩
      simp [Progress.Agrees, Codec.converter, Codec.finish, found, makes]
    | ok content =>
      dsimp only
      have writes := work.write_eq start member content
      rw [work.write_eq sound.after member content]
      cases fault : Workplace.fault tree base folder (outputName format name) with
      | some error =>
        rw [fault] at writes
        refine ⟨log, sound.advance ?_ before (by simp)⟩
        simp [Progress.Agrees, Codec.converter, Codec.finish, found, makes, writes]
      | none =>
        rw [fault] at writes
        refine ⟨_, sound.succeed work member before ?_ ⟨bytes, found, makes⟩ fault⟩
        simp [Progress.Agrees, Codec.converter, Codec.finish, found, makes, writes]
  | finished result => exact ⟨log, sound⟩

/-- A run keeps the conversions as far as they would be alone. -/
theorem run (sound : state.Sound codec tree format base folder names log)
    (work : Workplace tree format base folder names) {schedule : List Path}
    (among : schedule ⊆ names.map base.child) :
    ∃ log', (state.run codec format schedule).Sound codec tree format base folder names log' := by
  induction schedule generalizing state log with
  | nil => exact ⟨log, sound⟩
  | cons path rest inductionHypothesis =>
    obtain ⟨first, later⟩ := List.cons_subset.mp among
    obtain ⟨name, member, rfl⟩ := List.mem_map.mp first
    obtain ⟨log', sound'⟩ := sound.step work member
    exact inductionHypothesis sound' later

/-- A finished conversion has the result that it would have alone. -/
theorem progress_eq (sound : state.Sound codec tree format base folder names log)
    (complete : state.Complete (names.map base.child)) (member : name ∈ names) :
    state.progress (base.child name) = .finished
      (codec.converter (base.child name) (output format (base.child name)) format.kind tree).1 := by
  obtain ⟨result, finished⟩ := complete (base.child name) (List.mem_map_of_mem member)
  have agrees := sound.agrees name member
  rw [finished] at agrees
  rw [finished, ← agrees]

end Sound

/-! ## Independent conversions -/

/-- Two inputs clash if they hold different bytes and are converted to one file, which can be
    written. -/
def Clash (tree : FileTree) (format : MediaFormat) (first second : Path) : Prop :=
  output format first = output format second ∧
    (∃ bytes bytes', tree.read first = .ok bytes ∧ tree.read second = .ok bytes' ∧ bytes ≠ bytes') ∧
    ∃ changed, tree.write (output format first) [] = .ok changed

/-- Where each key has one value, what is found under a key depends only on what is listed. -/
theorem lookup_congr {α β : Type} [BEq α] [LawfulBEq α] {entries entries' : List (α × β)}
    (same : ∀ key value, (key, value) ∈ entries' ↔ (key, value) ∈ entries)
    (alone : ∀ key value value', (key, value) ∈ entries → (key, value') ∈ entries → value = value')
    (key : α) : entries'.lookup key = entries.lookup key := by
  have listed {entries : List (α × β)} {value : β} (found : entries.lookup key = some value) :
      (key, value) ∈ entries := by
    obtain ⟨before, after, rfl, -⟩ := List.lookup_eq_some_iff.mp found
    simp
  have absent {entries : List (α × β)} (none : entries.lookup key = none) (value : β) :
      (key, value) ∉ entries := by
    intro member
    have differs := List.lookup_eq_none_iff.mp none _ member
    simp at differs
  cases found : entries.lookup key with
  | none =>
    cases found' : entries'.lookup key with
    | none => rfl
    | some value => exact absurd ((same key value).mp (listed found')) (absent found value)
  | some value =>
    cases found' : entries'.lookup key with
    | none => exact absurd ((same key value).mpr (listed found)) (absent found' value)
    | some value' =>
      rw [alone key value' value ((same key value').mp (listed found')) (listed found)]

/-- A conversion that succeeds alone writes what it makes of its input to an output that can be
    written. -/
theorem fault_of_succeeds (work : Workplace tree format base folder names) (member : name ∈ names)
    (succeeds : (codec.converter (base.child name) (output format (base.child name)) format.kind
      tree).1 = .ok ()) : Workplace.fault tree base folder (outputName format name) = none := by
  unfold Codec.converter at succeeds
  split at succeeds
  · contradiction
  unfold Codec.finish at succeeds
  split at succeeds
  · contradiction
  rename_i content _
  rw [work.write_eq (.start tree folder) member content] at succeeds
  cases fault : Workplace.fault tree base folder (outputName format name) with
  | none => rfl
  | some error =>
    rw [fault] at succeeds
    contradiction

/-- Two complete fan-outs of conversions of which no two clash are alike. -/
theorem Sound.alike (sound : state.Sound codec tree format base folder names log)
    (sound' : state'.Sound codec tree format base folder names log')
    (work : Workplace tree format base folder names) (steady : codec.Steady)
    (complete : state.Complete (names.map base.child))
    (complete' : state'.Complete (names.map base.child))
    (apart : ∀ first ∈ names, ∀ second ∈ names,
      ¬ Clash tree format (base.child first) (base.child second)) :
    state.tree.Alike state'.tree := by
  refine sound.after.alike sound'.after (lookup_congr (fun written content => ?_) ?_)
  · rw [sound.logged, sound'.logged]
    refine exists_congr fun name => and_congr_right fun member => ?_
    rw [sound.progress_eq complete member, sound'.progress_eq complete' member]
  · intro written content content' listed listed'
    obtain ⟨first, member, same, finished, bytes, reads, makes⟩ := (sound.logged _ _).mp listed
    obtain ⟨second, member', same', -, bytes', reads', makes'⟩ := (sound.logged _ _).mp listed'
    have oneOutput := (work.output_eq_iff member member').mpr (same.trans same'.symm)
    have sameBytes : bytes = bytes' := by
      refine Classical.byContradiction fun differ => apart first member second member' ?_
      refine ⟨oneOutput, ⟨bytes, bytes', reads, reads', differ⟩, ?_⟩
      rw [sound.progress_eq complete member] at finished
      have fits := fault_of_succeeds work member (Progress.finished.inj finished)
      exact (work.exists_write_iff member []).mpr fits
    subst sameBytes
    rw [← oneOutput] at makes'
    exact (steady rfl makes makes').symm

/-! ## Conversions that clash -/

/-- A conversion that takes both of its steps has written its output last. -/
theorem Sound.convert (sound : state.Sound codec tree format base folder names log)
    (work : Workplace tree format base folder names) (member : name ∈ names)
    (waiting : state.progress (base.child name) = .waiting) {bytes content : List UInt8}
    (reads : tree.read (base.child name) = .ok bytes)
    (makes : codec (base.child name) (output format (base.child name)) format.kind bytes =
      .ok content)
    (fits : Workplace.fault tree base folder (outputName format name) = none) :
    ((state.step codec format (base.child name)).step codec format (base.child name)).Sound codec
      tree format base folder names ((outputName format name, content) :: log) := by
  have writes := work.write_eq (.start tree folder) member content
  have writes' := work.write_eq sound.after member content
  rw [fits] at writes writes'
  have reads' := (work.read_eq sound.after sound.logs member).trans reads
  have converts : codec.converter (base.child name) (output format (base.child name)) format.kind
      state.tree = (.ok (), state.tree.deposit (folder ++ [outputName format name]) content) := by
    simp [Codec.converter, Codec.finish, reads', makes, writes']
  have before : state.progress (base.child name) ≠ .finished (.ok ()) := by simp [waiting]
  rw [step_step codec format waiting, converts]
  refine sound.succeed work member before ?_ ⟨bytes, reads, makes⟩ fits
  simp [Progress.Agrees, Codec.converter, Codec.finish, reads, makes, writes]

/-- Conversions that are finished or make nothing do not change the tree. -/
theorem tree_run_of_idle {schedule : List Path}
    (idle : ∀ path ∈ schedule, (∃ result, state.progress path = .finished result) ∨
      ∀ bytes, ∃ error, codec path (output format path) format.kind bytes = .error error) :
    (state.run codec format schedule).tree = state.tree := by
  induction schedule generalizing state with
  | nil => rfl
  | cons path rest inductionHypothesis =>
    obtain ⟨here, later⟩ := List.forall_mem_cons.mp idle
    have stays : (state.step codec format path).tree = state.tree := by
      unfold step
      cases progress : state.progress path with
      | waiting =>
        dsimp only
        split <;> rfl
      | holding bytes =>
        rcases here with ⟨result, finished⟩ | refuses
        · rw [progress] at finished
          cases finished
        · obtain ⟨error, makes⟩ := refuses bytes
          simp [Codec.finish, makes]
      | finished result => rfl
    have idle' : ∀ path' ∈ rest,
        (∃ result, (state.step codec format path).progress path' = .finished result) ∨
          ∀ bytes, ∃ error, codec path' (output format path') format.kind bytes = .error error := by
      intro path' member
      rcases later path' member with ⟨result, finished⟩ | refuses
      · exact .inl ⟨result, finished_step finished⟩
      · exact .inr refuses
    exact (inductionHypothesis idle').trans stays

end Fanout

/-- The codec that gives the files at some paths as they are, and refuses the others. -/
def Codec.only (paths : List Path) : Codec := fun input _ _ bytes =>
  if input ∈ paths then .ok bytes else .error .noConverter

theorem Codec.steady_only (paths : List Path) : (Codec.only paths).Steady := by
  intro input input' output output' kind bytes content content' _ makes makes'
  unfold only at makes makes'
  split at makes
  · split at makes'
    · rw [← Except.ok.inj makes, ← Except.ok.inj makes']
    · contradiction
  · contradiction

/-- What is written to a file shows in it. -/
theorem FileTree.written?_injective {tree : FileTree} {place : Place} {bytes bytes' : List UInt8}
    (fits : writeFault (tree.shell? place) = none)
    (same : tree.written? place bytes = tree.written? place bytes') : bytes = bytes' := by
  obtain ⟨stamps, executable, writes⟩ := FileTree.exists_written? fits bytes
  obtain ⟨stamps', executable', writes'⟩ := FileTree.exists_written? fits bytes'
  rw [writes, writes'] at same
  exact (Node.file.inj (Option.some.inj same)).2.2

namespace Fanout

variable {tree : FileTree} {format : MediaFormat} {base : Path} {folder : Place}
  {names : List String} {first second : String}

/-- Of two inputs that are converted to one file, one after the other and before all others, the
    file holds the second one. -/
theorem shell?_last (work : Workplace tree format base folder names) (member : first ∈ names)
    (member' : second ∈ names) {bytes bytes' : List UInt8}
    (reads : tree.read (base.child first) = .ok bytes)
    (reads' : tree.read (base.child second) = .ok bytes') (differ : bytes ≠ bytes')
    (oneName : outputName format first = outputName format second)
    (fits : Workplace.fault tree base folder (outputName format second) = none)
    (paths : List Path) (all : ∀ path, path ∈ paths ↔ path = base.child first ∨
      path = base.child second) :
    ((start tree).run (.only paths) format (inTurn
        (base.child first :: base.child second :: names.map base.child))).tree.shell?
        (folder ++ [outputName format second]) =
      tree.written? (folder ++ [outputName format second]) bytes' := by
  have makes {path : Path} (listed : path ∈ paths) (bytes : List UInt8) :
      Codec.only paths path (output format path) format.kind bytes = .ok bytes := by
    rw [Codec.only, if_pos listed]
  have sound := sound_start (.only paths) tree format base folder names
  have afterFirst := sound.convert work member rfl reads
    (makes ((all _).mpr (.inl rfl)) bytes) (oneName ▸ fits)
  have others : base.child second ≠ base.child first := by
    intro same
    rw [same, reads] at reads'
    exact differ (Except.ok.inj reads')
  have waiting : (((start tree).step (.only paths) format (base.child first)).step (.only paths)
      format (base.child first)).progress (base.child second) = .waiting := by
    rw [progress_step_other others, progress_step_other others]
    rfl
  have afterSecond := afterFirst.convert work member' waiting reads'
    (makes ((all _).mpr (.inr rfl)) bytes') fits
  have split : inTurn (base.child first :: base.child second :: names.map base.child) =
      inTurn [base.child first, base.child second] ++ inTurn (names.map base.child) := by
    simp [inTurn]
  have finished := complete_inTurn (.only paths) format (start tree)
    [base.child first, base.child second]
  rw [split, run_append, tree_run_of_idle]
  · exact afterSecond.after.written _ _ List.lookup_cons_self
  · intro path _
    by_cases listed : path ∈ paths
    · exact .inl (finished path (by simpa using (all path).mp listed))
    · exact .inr fun bytes => ⟨.noConverter, if_neg listed⟩

end Fanout

end FileQuery

import FileQuery.Plan
import FileQuery.Proofs.FileTree.Descent
import FileQuery.Proofs.Path.Relative
import Mathlib.Data.List.Basic

/-!
# Paths within another

A path is within another one if it starts where that one does, takes its steps, and then goes down
by names. Paths that are joined to another one are within it if they are confined, and so are their
parents, up to the one that takes the steps of the other path alone. The parents of a path that goes
down by names are the paths on its way (`parents_down`).
-/

namespace FileQuery

open FileTree (speaks steps names)

namespace Component

/-- The component of a step. -/
def ofStep (name : String) : Component := if name = ".." then parent else .name name

theorem ofStep_ne_start (name : String) : ofStep name ≠ root ∧ ofStep name ≠ here := by
  unfold ofStep
  split <;> simp

theorem ofStep_injective : Function.Injective ofStep := by
  intro first second same
  unfold ofStep at same
  split at same <;> split at same <;> simp_all

end Component

namespace Path

/-- A path takes the steps of another one and then goes down by names. -/
structure Within (root path : Path) (rest : List String) : Prop where
  start : path.isAbsolute = root.isAbsolute
  steps : steps path = steps root ++ rest
  areNames : ∀ name ∈ rest, IsName name

theorem Within.refl (root : Path) : root.Within root [] := ⟨rfl, by simp, by simp⟩

theorem Within.trans {root base path : Path} {rest rest' : List String}
    (first : root.Within base rest) (second : base.Within path rest') :
    root.Within path (rest ++ rest') where
  start := second.start.trans first.start
  steps := by rw [second.steps, first.steps, List.append_assoc]
  areNames := List.forall_mem_append.mpr ⟨first.areNames, second.areNames⟩

/-- A path within another one starts where that one does. -/
theorem Within.start_eq {root path : Path} {rest : List String} (within : root.Within path rest)
    (here : Place) : FileTree.start path.text here = FileTree.start root.text here := by
  rw [FileTree.start, FileTree.start, within.start]

/-! ## Steps of joined paths -/

/-- The steps of pieces. -/
def stepsOf (pieces : List (List Char × Option Component)) : List String :=
  (pieces.map fun piece => String.ofList piece.1).filter speaks

theorem stepsOf_append (first second : List (List Char × Option Component)) :
    stepsOf (first ++ second) = stepsOf first ++ stepsOf second := by
  simp [stepsOf]

theorem isAbsolute_of_nil {path : Path} (empty : path.text.toList = []) :
    path.isAbsolute = false := by
  rw [isAbsolute, empty]
  rfl

/-- The first segment of an absolute path is empty. -/
theorem first_of_isAbsolute {path : Path} {first : List Char} {rest : List (List Char)}
    (absolute : path.isAbsolute = true) (split : segments path.text.toList = first :: rest) :
    first = [] := by
  rw [isAbsolute] at absolute
  cases text : path.text.toList with
  | nil =>
    rw [text] at absolute
    contradiction
  | cons c more =>
    rw [text] at absolute split
    obtain rfl : c = '/' := by simpa using absolute
    rw [segments, if_pos rfl] at split
    exact (List.cons.inj split).1.symm

/-- A path has the steps of its pieces. -/
theorem steps_eq_stepsOf (path : Path) : steps path = stepsOf path.pieces := by
  obtain ⟨first, rest, split⟩ := List.exists_cons_of_ne_nil (segments_ne_nil path.text.toList)
  rw [pieces_of_segments split, stepsOf_append, FileTree.steps, names, split]
  cases absolute : path.isAbsolute with
  | true =>
    obtain rfl := first_of_isAbsolute absolute split
    simp [stepsOf, laterPieces, speaks, Function.comp_def]
  | false =>
    cases saying : speaks (String.ofList first) <;>
      simp [stepsOf, laterPieces, Function.comp_def, saying]

/-- A relative path that is followed from another one takes its steps after those of that one. -/
theorem steps_join {base path : Path} (relative : path.isAbsolute = false) :
    steps (base.join path) = steps base ++ steps path := by
  by_cases empty : base.text.toList = []
  · have noText : base.text = "" := by simpa using empty
    have itself : base.join path = path := by
      simp [join, relative, noText]
    have nowhere : steps base = [] := by
      rw [FileTree.steps, names, noText]
      rfl
    rw [itself, nowhere, List.nil_append]
  · obtain ⟨before, text, ends⟩ := join_text relative empty
    rw [FileTree.steps, FileTree.steps, FileTree.steps, names, names, names, text,
      segments_append_slash, List.map_append, List.filter_append]
    rcases ends with ends | ends
    · rw [ends]
    · rw [ends, segments_append_slash, List.map_append, List.filter_append]
      simp [segments, speaks]

theorem steps_of_isName {name : String} (isName : IsName name) : steps ⟨name⟩ = [name] := by
  rw [FileTree.steps, names, segments_of_unslashed isName.unslashed]
  simp [FileTree.speaks_of_isName isName]

/-- What is followed from a path within another one by names is within it too. -/
theorem Within.join {root path more : Path} {rest : List String} (within : root.Within path rest)
    (relative : more.isAbsolute = false) (areNames : ∀ name ∈ FileTree.steps more, IsName name) :
    root.Within (path.join more) (rest ++ FileTree.steps more) where
  start := by
    by_cases empty : path.text.toList = []
    · have noText : path.text = "" := by simpa using empty
      have itself : path.join more = more := by
        simp [Path.join, relative, noText]
      rw [itself, relative, ← within.start, isAbsolute_of_nil empty]
    · rw [isAbsolute_join relative empty, within.start]
  steps := by rw [steps_join relative, within.steps, List.append_assoc]
  areNames := List.forall_mem_append.mpr ⟨within.areNames, areNames⟩

theorem Within.child {root path : Path} {rest : List String} {name : String}
    (within : root.Within path rest) (isName : IsName name) :
    root.Within (path.child name) (rest ++ [name]) := by
  have step := steps_of_isName isName
  rw [← step]
  exact within.join isName.relative (by simp [step, isName])

theorem isAbsolute_child (base : Path) {name : String} (isName : IsName name) :
    (base.child name).isAbsolute = base.isAbsolute :=
  ((Within.refl base).child isName).start

/-- A slash at the end of a path is no step. -/
theorem Within.child_empty {root path : Path} {rest : List String}
    (within : root.Within path rest) : root.Within (path.child "") rest := by
  have none : FileTree.steps ⟨""⟩ = [] := rfl
  have relative : (Path.mk "").isAbsolute = false := rfl
  have joined := within.join relative (by simp [none])
  rwa [none, List.append_nil] at joined

/-- The steps of a confined path are names. -/
theorem isName_of_confine {operation : Operation} {path : String}
    (confined : Plan.confine operation path = .ok ()) :
    (Path.mk path).isAbsolute = false ∧ ∀ name ∈ steps ⟨path⟩, IsName name := by
  have inside : ∀ part ∈ (Path.mk path).components, part ≠ .root ∧ part ≠ .parent := by
    unfold Plan.confine at confined
    split at confined
    · contradiction
    · rename_i none
      intro part member
      refine ⟨?_, ?_⟩ <;> rintro rfl <;> exact none (List.any_eq_true.mpr ⟨_, member, by decide⟩)
  have relative : (Path.mk path).isAbsolute = false := by
    refine Bool.eq_false_iff.mpr fun absolute => ?_
    have starts : Component.root ∈ (Path.mk path).components := by
      simp [components, absolute]
    exact (inside _ starts).1 rfl
  refine ⟨relative, fun name member => ?_⟩
  obtain ⟨listed, saying⟩ := List.mem_filter.mp member
  obtain ⟨segment, present, rfl⟩ := List.mem_map.mp listed
  obtain ⟨nonempty, notHere⟩ := not_or.mp (FileTree.not_silent saying)
  refine ⟨nonempty, notHere, fun parent => ?_, ?_⟩
  · obtain rfl : segment = ['.', '.'] := by
      simpa using congrArg String.toList parent
    obtain ⟨first, rest, split⟩ := List.exists_cons_of_ne_nil (segments_ne_nil path.toList)
    have component : Component.parent ∈ (Path.mk path).components := by
      rw [components, pieces_of_segments split, relative]
      rw [split] at present
      rcases List.mem_cons.mp present with rfl | later
      · simp [component?]
      · have piece : (['.', '.'], some Component.parent) ∈ laterPieces rest :=
          List.mem_map.mpr ⟨_, later, rfl⟩
        simp only [Bool.false_eq_true, if_false, List.nil_append, List.filterMap_append,
          List.mem_append]
        exact .inr (List.mem_filterMap.mpr ⟨_, piece, rfl⟩)
    exact (inside _ component).2 rfl
  · simpa using slash_notMem_segments _ segment present

/-- A piece stands for the component of its segment, except for the dot at the start. -/
theorem eq_of_mem_pieces {path : Path} {piece : List Char × Option Component}
    (listed : piece ∈ path.pieces) :
    piece = (['.'], some .here) ∨ piece.2 = component? piece.1 := by
  obtain ⟨first, rest, split⟩ := List.exists_cons_of_ne_nil (segments_ne_nil path.text.toList)
  rw [pieces_of_segments split] at listed
  rcases List.mem_append.mp listed with first_ | later
  · split at first_
    · contradiction
    · rw [List.mem_singleton.mp first_]
      dsimp only
      split
      · rename_i here
        exact .inl (by rw [here])
      · exact .inr rfl
  · obtain ⟨segment, -, rfl⟩ := List.mem_map.mp later
    exact .inr rfl

/-- The names among the components of a path are names, and are steps of the path. -/
theorem isName_of_mem_components {path : Path} {name : String}
    (among : Component.name name ∈ path.components) : IsName name ∧ name ∈ steps path := by
  have listed : Component.name name ∈ path.pieces.filterMap (·.2) := by
    rcases List.mem_append.mp among with start | later
    · split at start <;> simp at start
    · exact later
  obtain ⟨⟨segment, part⟩, member, same⟩ := List.mem_filterMap.mp listed
  obtain rfl : part = some (.name name) := same
  have stands : component? segment = some (.name name) := by
    rcases eq_of_mem_pieces member with here | stands
    · cases (Prod.mk.inj here).2
    · exact stands.symm
  have unslashed := path.slash_notMem_pieces _ member
  unfold component? at stands
  split at stands
  · contradiction
  rename_i speaking
  obtain ⟨nonempty, notHere⟩ := not_or.mp speaking
  split at stands
  · cases stands
  rename_i notParent
  obtain rfl := Component.name.inj (Option.some.inj stands)
  have isName : IsName (String.ofList segment) := by
    refine ⟨by simpa using nonempty, fun here => notHere ?_, fun parent => notParent ?_, ?_⟩
    · simpa using congrArg String.toList here
    · simpa using congrArg String.toList parent
    · simpa using unslashed
  refine ⟨isName, ?_⟩
  rw [steps_eq_stepsOf, stepsOf]
  exact List.mem_filter.mpr ⟨List.mem_map_of_mem member, FileTree.speaks_of_isName isName⟩

/-- A path that ends with a name takes a step. -/
theorem steps_ne_nil_of_fileName? {path : Path} {name : String}
    (ends : path.fileName? = some name) : steps path ≠ [] := by
  unfold fileName? at ends
  split at ends
  · rename_i last
    exact List.ne_nil_of_mem (isName_of_mem_components (List.mem_of_getLast? last)).2
  · contradiction

/-! ## Steps of parents -/

/-- Joined segments begin with joined segments. -/
theorem joined_prefix (first second : List (List Char)) :
    joined first <+: joined (first ++ second) := by
  induction first with
  | nil => exact List.nil_prefix
  | cons segment rest inductionHypothesis =>
    cases rest with
    | nil =>
      cases second with
      | nil => exact List.prefix_refl _
      | cons other more => exact List.prefix_append _ _
    | cons other more =>
      change segment ++ '/' :: joined (other :: more) <+:
        segment ++ '/' :: joined (other :: more ++ second)
      exact (List.prefix_append_right_inj _).mpr
        (List.cons_prefix_cons.mpr ⟨rfl, inductionHypothesis⟩)

/-- A piece that stands for nothing says nothing. -/
theorem silent_of_piece {path : Path} {segment : List Char}
    (member : (segment, none) ∈ path.pieces) : speaks (String.ofList segment) = false := by
  rcases eq_of_mem_pieces member with here | none
  · cases (Prod.mk.inj here).2
  dsimp only at none
  unfold component? at none
  split at none
  · rename_i silent
    rcases silent with rfl | rfl <;> rfl
  · split at none <;> contradiction

/-- A piece that stands for something and says nothing is the dot at the start. -/
theorem eq_nil_of_silent {path : Path} {before after : List (List Char × Option Component)}
    {segment : List Char} {part : Component}
    (split : path.pieces = before ++ (segment, some part) :: after)
    (unsaying : speaks (String.ofList segment) = false) : before = [] := by
  have notLater : component? segment ≠ some part := by
    intro stands
    rcases FileTree.speaks_eq_false.mp unsaying with silent | silent
    · obtain rfl : segment = [] := by simpa using congrArg String.toList silent
      contradiction
    · obtain rfl : segment = ['.'] := by simpa using congrArg String.toList silent
      contradiction
  obtain ⟨first, rest, split'⟩ := List.exists_cons_of_ne_nil (segments_ne_nil path.text.toList)
  rw [pieces_of_segments split'] at split
  have unlisted : (segment, some part) ∉ laterPieces rest := by
    intro listed
    obtain ⟨other, -, same⟩ := List.mem_map.mp listed
    obtain ⟨rfl, stands⟩ := Prod.mk.inj same
    exact notLater stands
  cases before with
  | nil => rfl
  | cons piece before =>
    exfalso
    have inner : (segment, some part) ∈ before ++ (segment, some part) :: after := by simp
    split at split
    · refine unlisted ?_
      rw [List.nil_append] at split
      rw [split]
      exact List.mem_cons_of_mem _ inner
    · have later : laterPieces rest = before ++ (segment, some part) :: after :=
        (List.cons.inj split).2
      exact unlisted (later ▸ inner)

/-- The steps of pieces are those of the pieces without what says nothing at their end. -/
theorem stepsOf_trimPieces {path : Path} {pieces : List (List Char × Option Component)}
    (starts : pieces <+: path.pieces) : stepsOf (trimPieces pieces) = stepsOf pieces := by
  let silent (piece : List Char × Option Component) : Bool := piece.2.isNone
  have whole : pieces = trimPieces pieces ++ (pieces.reverse.takeWhile silent).reverse := by
    rw [trimPieces, ← List.reverse_append, List.takeWhile_append_dropWhile, List.reverse_reverse]
  have none_left : stepsOf (pieces.reverse.takeWhile silent).reverse = [] := by
    refine List.filter_eq_nil_iff.mpr fun segment member => ?_
    obtain ⟨piece, listed, rfl⟩ := List.mem_map.mp member
    have taken := List.mem_reverse.mp listed
    have among := List.mem_reverse.mp ((List.takeWhile_prefix silent).subset taken)
    have unsaying : piece.2 = none := by
      have all := List.all_takeWhile (p := silent) (l := pieces.reverse)
      simpa [silent] using List.all_eq_true.mp all piece taken
    obtain ⟨segment, part⟩ := piece
    obtain rfl : part = none := unsaying
    simp [silent_of_piece (starts.subset among)]
  have parts := congrArg stepsOf whole
  rw [stepsOf_append, none_left, List.append_nil] at parts
  exact parts.symm

/-- Pieces without what says nothing at their end are the first of them. -/
theorem trimPieces_isPrefix (pieces : List (List Char × Option Component)) :
    trimPieces pieces <+: pieces := by
  simpa [trimPieces] using
    List.reverse_prefix.mpr (List.dropWhile_suffix (l := pieces.reverse) (·.2.isNone))

/-- The path of the first pieces of a path is the start of its text. -/
theorem ofPieces_isPrefix {path : Path} {pieces : List (List Char × Option Component)}
    (starts : pieces <+: path.pieces) :
    (ofPieces path.isAbsolute pieces).text.toList <+: path.text.toList := by
  obtain ⟨rest, whole⟩ := starts
  obtain ⟨first, more, split⟩ := List.exists_cons_of_ne_nil (segments_ne_nil path.text.toList)
  have parts : path.pieces.map (·.1) = (if path.isAbsolute then [] else [first]) ++ more := by
    rw [pieces_of_segments split]
    cases path.isAbsolute <;> simp [laterPieces, Function.comp_def]
  have starts : joined (pieces.map (·.1)) <+: joined (path.pieces.map (·.1)) := by
    rw [← whole, List.map_append]
    exact joined_prefix _ _
  have text := joined_segments path.text.toList
  rw [parts] at starts
  rw [split] at text
  rw [ofPieces, String.toList_ofList]
  cases absolute : path.isAbsolute with
  | false =>
    rw [absolute] at starts
    exact text ▸ starts
  | true =>
    rw [absolute] at starts
    obtain rfl := first_of_isAbsolute absolute split
    cases more with
    | nil =>
      rw [isAbsolute_of_nil text.symm] at absolute
      contradiction
    | cons second later => exact text ▸ List.cons_prefix_cons.mpr ⟨rfl, starts⟩

/-- The path of some of the first pieces of a path starts where the path does, and has the steps of
    these pieces. -/
theorem ofPieces_trimPieces_steps {path : Path} {pieces : List (List Char × Option Component)}
    (starts : pieces <+: path.pieces) :
    (ofPieces path.isAbsolute (trimPieces pieces)).isAbsolute = path.isAbsolute ∧
      steps (ofPieces path.isAbsolute (trimPieces pieces)) = stepsOf pieces := by
  have starts' : trimPieces pieces <+: path.pieces := (trimPieces_isPrefix pieces).trans starts
  have unslashed : ∀ segment ∈ (trimPieces pieces).map (·.1), '/' ∉ segment := by
    intro segment member
    obtain ⟨piece, listed, rfl⟩ := List.mem_map.mp member
    exact path.slash_notMem_pieces piece (starts'.subset listed)
  have text : names (ofPieces path.isAbsolute (trimPieces pieces)).text =
      (if path.isAbsolute then [""] else []) ++
        (segments (joined ((trimPieces pieces).map (·.1)))).map String.ofList := by
    rw [names, ofPieces, String.toList_ofList]
    cases path.isAbsolute <;> rfl
  constructor
  · cases absolute : path.isAbsolute with
    | true => simp [isAbsolute, ofPieces]
    | false =>
      obtain ⟨rest, split⟩ := absolute ▸ ofPieces_isPrefix starts'
      rw [isAbsolute, ← split] at absolute
      rw [isAbsolute]
      cases start : (ofPieces false (trimPieces pieces)).text.toList with
      | nil => rfl
      | cons c more =>
        rw [start] at absolute
        simpa using absolute
  · rw [FileTree.steps, text, List.filter_append, ← stepsOf_trimPieces starts]
    have nothing : (if path.isAbsolute then [""] else []).filter speaks = [] := by
      split <;> rfl
    rw [nothing, List.nil_append]
    by_cases none : (trimPieces pieces).map (·.1) = []
    · have none' : trimPieces pieces = [] := List.map_eq_nil_iff.mp none
      rw [none']
      rfl
    · rw [segments_joined none unslashed, stepsOf, List.map_map]
      rfl

/-- Paths of which each takes the steps of another one and goes down by some of the first names of a
    list, up to one that takes just the steps. -/
inductive Stops (root : Path) (rest : List String) : List Path → Prop
  | here {path : Path} {above : List Path} (same : root.Within path []) :
    Stops root rest (path :: above)
  | down {path : Path} {above : List Path} {front : List String} {name : String}
    (within : root.Within path (front ++ [name])) (starts : front ++ [name] <+: rest)
    (later : Stops root rest above) : Stops root rest (path :: above)

/-- The parents of a path within another one come to the other one. -/
theorem stops_parentsOf {root path : Path} {above : List (List Char × Option Component)}
    {taken whole : List String} (pieces : above.reverse <+: path.pieces)
    (start : path.isAbsolute = root.isAbsolute)
    (takes : stepsOf above.reverse = steps root ++ taken)
    (areNames : ∀ name ∈ taken, IsName name) (some_left : taken ≠ []) (starts : taken <+: whole) :
    root.Stops whole (parentsOf path.isAbsolute above) := by
  induction above generalizing taken with
  | nil =>
    have none : steps root ++ taken = [] := takes.symm
    exact absurd (List.append_eq_nil_iff.mp none).2 some_left
  | cons piece above inductionHypothesis =>
    obtain ⟨segment, part⟩ := piece
    rw [List.reverse_cons] at pieces takes
    have pieces' : above.reverse <+: path.pieces := (List.prefix_append _ _).trans pieces
    rw [stepsOf_append] at takes
    cases part with
    | none =>
      have listed : (segment, none) ∈ path.pieces :=
        pieces.subset (List.mem_append_right _ (List.mem_singleton.mpr rfl))
      have unsaying := silent_of_piece listed
      have nothing : stepsOf [(segment, none)] = [] := by
        simp [stepsOf, unsaying]
      rw [nothing, List.append_nil] at takes
      exact inductionHypothesis pieces' takes areNames some_left starts
    | some part =>
      rw [parentsOf]
      obtain ⟨start', steps'⟩ := ofPieces_trimPieces_steps pieces'
      cases saying : speaks (String.ofList segment) with
      | false =>
        have nothing : stepsOf [(segment, some part)] = [] := by
          simp [stepsOf, saying]
        rw [nothing, List.append_nil] at takes
        obtain ⟨front, last, rfl⟩ := List.eq_nil_or_concat taken |>.resolve_left some_left
        rw [List.concat_eq_append] at takes areNames starts
        have within : root.Within _ (front ++ [last]) :=
          ⟨start'.trans start, steps'.trans takes, areNames⟩
        exact .down within starts (inductionHypothesis pieces' takes areNames (by simp) starts)
      | true =>
        have last : stepsOf [(segment, some part)] = [String.ofList segment] := by
          simp [stepsOf, saying]
        obtain ⟨front, name, rfl⟩ := List.eq_nil_or_concat taken |>.resolve_left some_left
        rw [List.concat_eq_append] at takes areNames starts
        rw [last, ← List.append_assoc] at takes
        obtain ⟨takes', -⟩ := List.append_inj' takes rfl
        have areNames' := (List.forall_mem_append.mp areNames).1
        have starts' : front <+: whole := (List.prefix_append _ _).trans starts
        rcases List.eq_nil_or_concat front with rfl | ⟨before, name', rfl⟩
        · rw [List.append_nil] at takes'
          exact .here ⟨start'.trans start, by rw [steps', takes', List.append_nil], by simp⟩
        · rw [List.concat_eq_append] at takes' areNames' starts'
          have within : root.Within _ (before ++ [name']) :=
            ⟨start'.trans start, steps'.trans takes', areNames'⟩
          refine .down within starts' ?_
          exact inductionHypothesis pieces' takes' areNames' (by simp) starts'

/-- A path within another one and its parents come to the other one. -/
theorem Within.stops {root path : Path} {rest : List String} (within : root.Within path rest) :
    root.Stops rest (path :: path.parents) := by
  rcases List.eq_nil_or_concat rest with rfl | ⟨front, name, rfl⟩
  · exact .here within
  · rw [List.concat_eq_append] at within ⊢
    refine .down within (List.prefix_refl _) ?_
    refine stops_parentsOf ?_ within.start ?_ within.areNames (by simp) (List.prefix_refl _)
    · exact (List.reverse_reverse path.pieces).symm ▸ List.prefix_refl _
    · rw [List.reverse_reverse, ← steps_eq_stepsOf]
      exact within.steps

/-- The parent of a path that takes steps is the start of it that takes all but the last. -/
theorem exists_parent {path : Path} {before : List String} {name : String}
    (taken : FileTree.steps path = before ++ [name]) :
    ∃ parent, path.parent? = some parent ∧ parent.text.toList <+: path.text.toList ∧
      parent.isAbsolute = path.isAbsolute ∧ FileTree.steps parent = before := by
  rw [steps_eq_stepsOf, ← stepsOf_trimPieces (List.prefix_refl _)] at taken
  have trimmed := trimPieces_isPrefix path.pieces
  rcases List.eq_nil_or_concat (trimPieces path.pieces) with none | ⟨front, piece, ends⟩
  · rw [none] at taken
    have nothing : before ++ [name] = [] := taken.symm
    simp at nothing
  rw [List.concat_eq_append] at ends
  obtain ⟨segment, part⟩ := piece
  obtain ⟨part, rfl⟩ : ∃ part', part = some part' := by
    have kept := List.head?_dropWhile_not (fun piece : List Char × Option Component =>
      piece.2.isNone) path.pieces.reverse
    have reversed :
        path.pieces.reverse.dropWhile (·.2.isNone) = (segment, part) :: front.reverse := by
      have same := congrArg List.reverse ends
      rwa [trimPieces, List.reverse_reverse, List.reverse_append] at same
    rw [reversed] at kept
    cases part with
    | none => simp at kept
    | some part' => exact ⟨part', rfl⟩
  rw [ends] at taken trimmed
  have saying : speaks (String.ofList segment) = true := by
    refine Classical.byContradiction fun silent => ?_
    have unsaying : speaks (String.ofList segment) = false := by simpa using silent
    obtain ⟨after, whole⟩ := trimmed
    have split : path.pieces = front ++ (segment, some part) :: after := by
      rw [← whole, List.append_assoc]
      rfl
    obtain rfl := eq_nil_of_silent split unsaying
    have nothing : stepsOf [(segment, some part)] = [] := by
      simp [stepsOf, unsaying]
    rw [List.nil_append, nothing] at taken
    simp at taken
  have last : stepsOf [(segment, some part)] = [String.ofList segment] := by
    simp [stepsOf, saying]
  rw [stepsOf_append, last] at taken
  obtain ⟨taken', -⟩ := List.append_inj' taken rfl
  have starts : front <+: path.pieces := (List.prefix_append _ _).trans trimmed
  obtain ⟨start', steps'⟩ := ofPieces_trimPieces_steps starts
  refine ⟨ofPieces path.isAbsolute (trimPieces front), ?_,
    ofPieces_isPrefix ((trimPieces_isPrefix front).trans starts), start', steps'.trans taken'⟩
  rw [Path.parent?, ends]
  cases front with
  | nil => rfl
  | cons first more =>
    have dropped : (first :: (more ++ [(segment, some part)])).dropLast = first :: more := by
      rw [← List.cons_append, List.dropLast_concat]
    simp [dropped]

/-- The parent of a path within another one is within it, but for the last name. -/
theorem Within.parent? {root path : Path} {rest : List String} {name : String}
    (within : root.Within path (rest ++ [name])) :
    ∃ parent, path.parent? = some parent ∧ root.Within parent rest := by
  obtain ⟨parent, above, -, start, taken⟩ :=
    exists_parent (within.steps.trans (List.append_assoc _ _ _).symm)
  exact ⟨parent, above, start.trans within.start, taken,
    (List.forall_mem_append.mp within.areNames).1⟩

/-! ## Parents of paths that go down by names -/

/-- A path is what its pieces make. -/
theorem ofPieces_pieces (path : Path) : ofPieces path.isAbsolute path.pieces = path := by
  obtain ⟨first, more, split⟩ := List.exists_cons_of_ne_nil (segments_ne_nil path.text.toList)
  have text := joined_segments path.text.toList
  rw [split] at text
  have same : (ofPieces path.isAbsolute path.pieces).text.toList = path.text.toList := by
    rw [ofPieces, String.toList_ofList, pieces_of_segments split]
    cases absolute : path.isAbsolute with
    | false => simpa using text
    | true =>
      obtain rfl := first_of_isAbsolute absolute split
      cases more with
      | nil =>
        rw [isAbsolute_of_nil text.symm] at absolute
        contradiction
      | cons second later =>
        rw [joined] at text
        · simpa using text
        · simp
  exact congrArg Path.mk (String.toList_inj.mp same)

/-- The path without what says nothing at its end. -/
def trimmed (path : Path) : Path := ofPieces path.isAbsolute (trimPieces path.pieces)

/-- A path takes the same steps without what says nothing at its end. -/
theorem within_trimmed (path : Path) : path.Within path.trimmed [] := by
  obtain ⟨start, steps⟩ := ofPieces_trimPieces_steps (List.prefix_refl path.pieces)
  refine ⟨start, ?_, by simp⟩
  rw [List.append_nil, steps_eq_stepsOf path]
  exact steps

/-- The parent of an entry of a folder is the path of the folder, whatever the name. -/
theorem parent?_child (base : Path) {name : String} (isName : IsName name) :
    (base.child name).parent? = some base.trimmed := by
  obtain ⟨front, ends, pieces⟩ := exists_pieces_child base isName
  have kept : trimPieces (base.child name).pieces =
      front ++ [(name.toList, some (.name name))] := by
    rw [pieces]
    simp [trimPieces]
  have same : trimPieces base.pieces = trimPieces front := by
    rcases ends with ends | ends
    · rw [ends]
    · simp [ends, trimPieces]
  rw [Path.parent?, kept, isAbsolute_child base isName, Path.trimmed, same]
  split
  · rename_i none
    simp at none
  · rw [List.dropLast_concat]

/-- Nothing at the end of a path that ends with a name says nothing. -/
theorem trimmed_child (base : Path) {name : String} (isName : IsName name) :
    (base.child name).trimmed = base.child name := by
  obtain ⟨front, -, pieces⟩ := exists_pieces_child base isName
  have kept : trimPieces (base.child name).pieces = (base.child name).pieces := by
    rw [pieces]
    simp [trimPieces]
  rw [trimmed, kept, ofPieces_pieces]

section

variable {base : Path} {front : List String} {name : String}

/-- What a path that goes down by names ends with is the path on the way and a name. -/
theorem exists_child_of_down (base : Path) (some_names : front ≠ [])
    (areNames : ∀ next ∈ front, IsName next) :
    ∃ (base' : Path) (last : String), IsName last ∧ base.down front = base'.child last := by
  obtain ⟨before, last, rfl⟩ : ∃ before last, front = before ++ [last] :=
    ⟨_, _, (List.dropLast_concat_getLast some_names).symm⟩
  exact ⟨_, last, areNames last (by simp), down_concat base before last⟩

/-- The parent of a path that goes down by names is the path on the way to the last one. -/
theorem parent?_down (some_names : front ≠ []) (areNames : ∀ next ∈ front ++ [name], IsName next) :
    (base.down (front ++ [name])).parent? = some (base.down front) := by
  obtain ⟨areNames', isName⟩ := List.forall_mem_append.mp areNames
  obtain ⟨base', last, isName', same⟩ := exists_child_of_down base some_names areNames'
  rw [down_concat, same, parent?_child _ (isName name (by simp)), trimmed_child base' isName']

/-- The parents of a path that goes down by names are the path on the way to the last one, and its
    parents. -/
theorem parents_down (some_names : front ≠ []) (areNames : ∀ next ∈ front ++ [name], IsName next) :
    (base.down (front ++ [name])).parents = base.down front :: (base.down front).parents := by
  obtain ⟨areNames', isNames⟩ := List.forall_mem_append.mp areNames
  have isName : IsName name := isNames name (by simp)
  obtain ⟨base', last, isName', same⟩ := exists_child_of_down base some_names areNames'
  obtain ⟨before, -, pieces⟩ := exists_pieces_child base' isName'
  obtain ⟨before', ends, pieces'⟩ := exists_pieces_child (base'.child last) isName
  obtain rfl : (base'.child last).pieces = before' := by
    rcases ends with ends | ends
    · exact ends
    · rw [pieces] at ends
      have same := (List.append_inj' ends rfl).2
      simp at same
  have itself := trimmed_child base' isName'
  rw [trimmed] at itself
  rw [down_concat, same, parents, isAbsolute_child _ isName, pieces', List.reverse_append,
    List.reverse_singleton, List.singleton_append, parentsOf, List.reverse_reverse, itself]
  rfl

end

/-! ## Paths with equal components -/

/-- Whether a path begins with a segment of a single dot. -/
def startsHere (path : Path) : Bool := (segments path.text.toList).head? == some ['.']

/-- A segment that says something stands for the component of its step. -/
theorem component?_eq (segment : List Char) : component? segment =
    if speaks (String.ofList segment) then some (.ofStep (String.ofList segment)) else none := by
  have silent : segment = [] ∨ segment = ['.'] ↔ speaks (String.ofList segment) = false := by
    rw [FileTree.speaks_eq_false, ← String.toList_inj, ← String.toList_inj, String.toList_ofList]
    rfl
  have up : segment = ['.', '.'] ↔ String.ofList segment = ".." := by
    rw [← String.toList_inj, String.toList_ofList]
    rfl
  unfold component? Component.ofStep
  by_cases unsaying : segment = [] ∨ segment = ['.']
  · rw [if_pos unsaying, silent.mp unsaying]
    rfl
  · have saying : speaks (String.ofList segment) = true :=
      Bool.not_eq_false _ ▸ mt silent.mpr unsaying
    rw [if_neg unsaying, if_pos saying]
    by_cases parent : segment = ['.', '.']
    · rw [if_pos parent, if_pos (up.mp parent)]
    · rw [if_neg parent, if_neg (mt up.mpr parent)]

/-- The components of segments are those of the steps among them. -/
theorem filterMap_component? (found : List (List Char)) :
    found.filterMap component? =
      ((found.map String.ofList).filter speaks).map Component.ofStep := by
  induction found with
  | nil => rfl
  | cons segment rest inductionHypothesis =>
    rw [List.filterMap_cons, component?_eq, List.map_cons, List.filter_cons, inductionHypothesis]
    split <;> simp_all

/-- The components of a path are where it starts and its steps. -/
theorem components_eq (path : Path) : path.components =
    (if path.isAbsolute then [.root] else []) ++
      ((if path.startsHere then [.here] else []) ++ (steps path).map .ofStep) := by
  obtain ⟨first, rest, split⟩ := List.exists_cons_of_ne_nil (segments_ne_nil path.text.toList)
  rw [components, pieces_of_segments split, List.filterMap_append, filterMap_laterPieces,
    filterMap_component?, startsHere, FileTree.steps, names, split, List.head?_cons]
  congr 1
  cases absolute : path.isAbsolute with
  | true =>
    obtain rfl := first_of_isAbsolute absolute split
    simp [speaks]
  | false =>
    by_cases here : first = ['.']
    · simp [here, speaks]
    · have begins : (some first == some ['.']) = false := by simpa using here
      cases saying : speaks (String.ofList first) <;>
        simp [begins, here, component?_eq, saying]

/-- What is not a step is a component only where a path starts. -/
theorem start_notMem_steps (path : Path) :
    Component.root ∉ (steps path).map .ofStep ∧ Component.here ∉ (steps path).map .ofStep := by
  constructor <;> intro listed <;> obtain ⟨name, -, same⟩ := List.mem_map.mp listed
  · exact (Component.ofStep_ne_start name).1 same
  · exact (Component.ofStep_ne_start name).2 same

/-- A path is absolute if the root is one of its components. -/
theorem isAbsolute_iff {path : Path} :
    path.isAbsolute = true ↔ Component.root ∈ path.components := by
  have notStep := path.start_notMem_steps.1
  rw [components_eq]
  cases path.isAbsolute <;> cases path.startsHere <;> simp [notStep]

/-- A path begins with a dot if that is one of its components. -/
theorem startsHere_iff {path : Path} :
    path.startsHere = true ↔ Component.here ∈ path.components := by
  have notStep := path.start_notMem_steps.2
  rw [components_eq]
  cases path.isAbsolute <;> cases path.startsHere <;> simp [notStep]

/-- Two paths have the same components if and only if they start alike and take the same steps. -/
theorem same_iff {first second : Path} : first.same second = true ↔
    first.isAbsolute = second.isAbsolute ∧ first.startsHere = second.startsHere ∧
      steps first = steps second := by
  rw [same, beq_iff_eq]
  constructor
  · intro parts
    have absolute : first.isAbsolute = second.isAbsolute := by
      rw [Bool.eq_iff_iff, isAbsolute_iff, isAbsolute_iff, parts]
    have here : first.startsHere = second.startsHere := by
      rw [Bool.eq_iff_iff, startsHere_iff, startsHere_iff, parts]
    rw [components_eq, components_eq second, absolute, here] at parts
    have taken := List.append_cancel_left (List.append_cancel_left parts)
    exact ⟨absolute, here, Component.ofStep_injective.list_map taken⟩
  · rintro ⟨absolute, here, taken⟩
    rw [components_eq, components_eq second, absolute, here, taken]

/-- A path with the components of another one takes its steps. -/
theorem Within.of_same {first second : Path} (same : first.same second = true) :
    first.Within second [] := by
  obtain ⟨absolute, -, taken⟩ := same_iff.mp same
  exact ⟨absolute.symm, by rw [taken, List.append_nil], by simp⟩

end Path

end FileQuery

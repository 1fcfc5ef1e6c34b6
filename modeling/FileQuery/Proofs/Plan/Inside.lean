import FileQuery.Proofs.Conversion.Fanout
import FileQuery.Proofs.FileTree.ClearWays
import FileQuery.Proofs.FileTree.NewFolders
import FileQuery.Proofs.Plan.SamePlace

/-!
# Paths that stay inside

A path can leave the folder that it is followed from in two ways by its text: it starts with a
slash, or one of the segments between its slashes is two dots. A statement is refused for one of its
paths just when that path does so (`confine_eq`). A path that does neither goes down from the folder
or stays, segment by segment, so every part of its way is at or below the folder (`keeps_inside`).
-/

namespace FileQuery

open FileTree (speaks steps names)

namespace Path

/-! ## Paths that lead out -/

/-- The segments of a text are what its slashes separate. -/
theorem segments_eq_splitOn (text : List Char) : segments text = text.splitOn '/' := by
  induction text with
  | nil => rfl
  | cons c rest inductionHypothesis =>
    obtain ⟨first, more, split⟩ := List.exists_cons_of_ne_nil (segments_ne_nil rest)
    rw [List.splitOn_cons_eq_if_modifyHead, segments, ← inductionHypothesis, split]
    by_cases slash : c = '/' <;> simp [slash]

/-- A path that starts with a slash, or goes up by a segment of two dots. -/
def LeadsOut (path : String) : Prop :=
  path.toList.head? = some '/' ∨ ['.', '.'] ∈ path.toList.splitOn '/'

instance : DecidablePred LeadsOut := fun path =>
  inferInstanceAs (Decidable (path.toList.head? = some '/' ∨ ['.', '.'] ∈ path.toList.splitOn '/'))

theorem parent_mem_names_iff {path : String} :
    ".." ∈ names path ↔ ['.', '.'] ∈ path.toList.splitOn '/' := by
  rw [names, segments_eq_splitOn, List.mem_map]
  constructor
  · rintro ⟨segment, listed, up⟩
    obtain rfl : segment = ['.', '.'] := by simpa using congrArg String.toList up
    exact listed
  · exact fun listed => ⟨_, listed, rfl⟩

/-- A path has two dots as a component if it goes up. -/
theorem parent_mem_components_iff (path : Path) :
    Component.parent ∈ path.components ↔ ".." ∈ names path.text := by
  have among : Component.parent ∈ (steps path).map .ofStep ↔ ".." ∈ names path.text := by
    rw [List.mem_map]
    constructor
    · rintro ⟨name, listed, up⟩
      obtain rfl : name = ".." := Component.ofStep_injective up
      exact (List.mem_filter.mp listed).1
    · exact fun listed => ⟨"..", List.mem_filter.mpr ⟨listed, by decide⟩, rfl⟩
  rw [components_eq, ← among]
  cases path.isAbsolute <;> cases path.startsHere <;> simp

/-- A path leads out if the root or two dots are among its components. -/
theorem leadsOut_iff {path : String} : LeadsOut path ↔
    (Path.mk path).components.any (fun part => part == .root || part == .parent) = true := by
  have root : path.toList.head? = some '/' ↔ Component.root ∈ (Path.mk path).components := by
    rw [← isAbsolute_iff, isAbsolute, beq_iff_eq]
  rw [LeadsOut, root, ← parent_mem_names_iff, ← parent_mem_components_iff ⟨path⟩, List.any_eq_true]
  simp [and_or_left, exists_or]

end Path

namespace Plan

open Path (LeadsOut)

/-- A path is refused if it leads out. -/
theorem confine_eq (operation : Operation) (path : String) : confine operation path =
    if LeadsOut path then .error (.outsideDirectory operation path) else .ok () := by
  rw [confine, if_congr Path.leadsOut_iff.symm rfl rfl]

theorem confine_eq_ok_iff {operation : Operation} {path : String} :
    confine operation path = .ok () ↔ ¬ LeadsOut path := by
  rw [confine_eq]
  split <;> simp_all

theorem confine_outside_iff {operation made : Operation} {path shown : String} :
    confine made path = .error (.outsideDirectory operation shown) ↔
      LeadsOut path ∧ operation = made ∧ shown = path := by
  rw [confine_eq]
  split <;> simp_all [eq_comm]

end Plan

/-! ## Statements whose paths lead out -/

/-- The path in the TO clause of a statement. The TO clause of CONVERT names a format. -/
def Statement.goal? : Statement → Option String
  | .select _ | .delete _ | .convert _ _ => none
  | .move _ goal | .copy _ goal | .archive _ goal | .unarchive _ goal => some goal

namespace Plan

open Path (LeadsOut)

variable {statement : Statement} {target : Target} {action : Action}

/-- The action of a statement writes to the path in the statement's TO clause. -/
theorem destination?_of_actionOf (does : actionOf target statement = .ok action) :
    action.destination? = statement.goal? := by
  have made := (suits_of_actionOf does).operation
  cases statement with
  | select | delete | convert => cases action <;> first | rfl | contradiction
  | move | copy | archive | unarchive =>
    exact ((actionOf_eq_ok_iff rfl (by simp [Statement.operation])).mp does).2.2.2

theorem checkCondition_ne_outside {condition : Option Condition} {operation : Operation}
    {path : String} : checkCondition condition ≠ .error (.outsideDirectory operation path) := by
  cases condition with
  | none => exact nofun
  | some condition =>
    cases checked : condition.check <;> simp [checkCondition, checked, mapError_ok, mapError_error]

theorem confineAction_outside_iff {operation : Operation} {path : String} :
    confineAction action = .error (.outsideDirectory operation path) ↔
      ∃ goal ∈ action.destination?, LeadsOut goal ∧ operation = action.operation ∧ path = goal := by
  unfold confineAction
  cases action.destination? with
  | none => simp
  | some goal => simp only [confine_outside_iff, Option.mem_some_iff, exists_eq_left']

/-- A statement that suits its operation is refused for its FROM path if that leads out, and else
    for its TO path if that does. -/
theorem ofStatement_outside_iff (selects : Target.ofText? statement.selection.target = some target)
    (does : actionOf target statement = .ok action) (operation : Operation) (path : String) :
    ofStatement statement = .error (.outsideDirectory operation path) ↔
      operation = statement.operation ∧
        (LeadsOut statement.selection.source ∧ path = statement.selection.source ∨
          ¬ LeadsOut statement.selection.source ∧
            ∃ goal ∈ statement.goal?, LeadsOut goal ∧ path = goal) := by
  have made : action.operation = statement.operation := (suits_of_actionOf does).operation
  have writes := destination?_of_actionOf does
  have named := targetOf_eq_ok_iff.mpr selects
  unfold ofStatement
  simp only [named, bind_eq_error_iff, reduceCtorEq, Except.ok.injEq, false_or, exists_eq_left',
    does, confine_outside_iff, confineAction_outside_iff, checkCondition_ne_outside, made, writes,
    pure, Except.pure, and_false, exists_false, or_false]
  constructor
  · rintro (⟨out, rfl, rfl⟩ | ⟨_, inside, goal, isGoal, out, rfl, rfl⟩)
    · exact ⟨rfl, .inl ⟨out, rfl⟩⟩
    · exact ⟨rfl, .inr ⟨confine_eq_ok_iff.mp inside, _, isGoal, out, rfl⟩⟩
  · rintro ⟨rfl, ⟨out, rfl⟩ | ⟨inside, goal, isGoal, out, rfl⟩⟩
    · exact .inl ⟨out, rfl, rfl⟩
    · exact .inr ⟨(), confine_eq_ok_iff.mpr inside, _, isGoal, out, rfl, rfl⟩

end Plan

/-! ## Ways that stay inside -/

namespace Path

variable {root path base : Path}

/-- A segment that says something and does not go up is a name. -/
theorem isName_of_mem_names {text name : String} (listed : name ∈ names text)
    (saying : speaks name = true) (notParent : name ≠ "..") : IsName name := by
  obtain ⟨nonempty, notHere⟩ := not_or.mp (FileTree.not_silent saying)
  obtain ⟨segment, present, rfl⟩ := List.mem_map.mp listed
  refine ⟨nonempty, notHere, notParent, ?_⟩
  simpa using slash_notMem_segments _ segment present

/-- Segments that do not go up lead down by the names among them. -/
theorem down_of_parent_notMem {text : String} {segments : List String}
    (within : segments ⊆ names text) (upless : ".." ∉ segments) :
    (∀ name ∈ segments.filter speaks, IsName name) ∧
      FileTree.down [] segments = segments.filter speaks := by
  have areNames : ∀ name ∈ segments.filter speaks, IsName name := by
    intro name member
    obtain ⟨listed, saying⟩ := List.mem_filter.mp member
    exact isName_of_mem_names (within listed) saying fun up => upless (up ▸ listed)
  refine ⟨areNames, ?_⟩
  rw [← FileTree.down_filter, FileTree.down_names _ areNames, List.nil_append]

/-- An absolute path starts with another one if it takes the steps of that one first. -/
theorem startsWith_iff (absolute : path.isAbsolute = true) (absolute' : base.isAbsolute = true) :
    path.startsWith base = true ↔ steps base <+: steps path := by
  have started {path : Path} (absolute : path.isAbsolute = true) :
      path.components = .root :: (steps path).map .ofStep := by
    obtain ⟨first, rest, split⟩ := List.exists_cons_of_ne_nil (segments_ne_nil path.text.toList)
    obtain rfl := first_of_isAbsolute absolute split
    simp [components_eq, absolute, startsHere, split]
  rw [startsWith, List.isPrefixOf_iff_prefix, started absolute, started absolute',
    List.cons_prefix_cons, List.prefix_map_iff_of_injective Component.ofStep_injective]
  simp

/-- The path to where the first segments of a path lead, from the root of the file system and by
    their text alone. -/
def resolved (path : Path) (count : Nat) : Path :=
  ofPlace (FileTree.down [] ((names path.text).take count))

/-- The segments of what is followed from a folder are those of the folder and then its own. A slash
    at the end of the folder is one more segment of it, which says nothing. -/
theorem names_join (relative : path.isAbsolute = false) (nonempty : root.text.toList ≠ []) :
    ∃ front, names (root.join path).text = front ++ names path.text ∧
      (names root.text = front ∨ names root.text = front ++ [""]) := by
  obtain ⟨before, text, ends⟩ := join_text relative nonempty
  refine ⟨(segments before).map String.ofList, ?_, ?_⟩
  · rw [names, text, segments_append_slash, List.map_append, names]
  rcases ends with ends | ends
  · exact .inl (by rw [names, ends])
  · exact .inr (by rw [names, ends, segments_append_slash, List.map_append]; rfl)

/-- What does not lead out and is followed from a folder goes on below the folder at each of its
    segments. -/
theorem keeps_inside (absolute : root.isAbsolute = true)
    (upless : ['.', '.'] ∉ root.text.toList.splitOn '/') (inside : ¬ LeadsOut path.text) :
    (root.join path).startsWith root = true ∧
      ∀ count, (root.text.toList.splitOn '/').length ≤ count →
        ((root.join path).resolved count).startsWith root = true := by
  obtain ⟨notRooted, notUp⟩ := not_or.mp inside
  have relative : path.isAbsolute = false := by simpa [isAbsolute] using notRooted
  have nonempty : root.text.toList ≠ [] := fun empty => by
    simp [isAbsolute_of_nil empty] at absolute
  constructor
  · rw [startsWith_iff ((isAbsolute_join relative nonempty).trans absolute) absolute,
      steps_join relative]
    exact List.prefix_append _ _
  intro count enough
  obtain ⟨front, whole, start⟩ := names_join relative nonempty
  have steps_ : steps root = front.filter speaks := by
    rcases start with start | start <;> simp [FileTree.steps, start, speaks]
  have long : front.length ≤ count := by
    have length : (names root.text).length = (root.text.toList.splitOn '/').length := by
      rw [names, List.length_map, segments_eq_splitOn]
    rcases start with start | start <;> simp [start] at length <;> omega
  have taken : (names (root.join path).text).take count =
      front ++ (names path.text).take (count - front.length) := by
    rw [whole, List.take_append, List.take_of_length_le long]
  have notUp' : ".." ∉ front ++ (names path.text).take (count - front.length) := by
    rw [List.mem_append, not_or]
    constructor
    · intro up
      refine upless (parent_mem_names_iff.mp ?_)
      rcases start with start | start <;> simp [start, up]
    · exact fun up => notUp (parent_mem_names_iff.mp (List.mem_of_mem_take up))
  obtain ⟨areNames, leads⟩ := down_of_parent_notMem (taken ▸ List.take_subset _ _) notUp'
  have within := within_ofPlace areNames
  rw [resolved, taken, leads, startsWith_iff within.start absolute, within.steps, steps_,
    List.filter_append]
  exact List.prefix_append _ _

end Path

/-- What names a format does not lead out. -/
theorem MediaFormat.not_leadsOut {written : String} {format : MediaFormat}
    (reads : ofText? written = some format) : ¬ Path.LeadsOut written := by
  obtain ⟨kind, found, -⟩ := Option.map_eq_some_iff.mp reads
  have listed := List.find?_some found
  obtain ⟨-, undotted, unslashed⟩ := extension_spelling kind _ (List.contains_iff_mem.mp listed)
  rw [String.toList_ofList] at undotted unslashed
  have noSlash : '/' ∉ written.toList := fun slash => unslashed (List.mem_map.mpr ⟨_, slash, rfl⟩)
  rintro (rooted | up)
  · exact noSlash (List.mem_of_mem_head? rooted)
  · rw [← Path.segments_eq_splitOn, Path.segments_of_unslashed noSlash, List.mem_singleton] at up
    rw [← up] at undotted
    exact undotted (by decide)

namespace Plan

open Path (LeadsOut)

variable {statement : Statement} {target : Target} {action : Action}

/-- A CONVERT that has an action names a format. -/
theorem format_of_convert {selection : Selection} {written : String}
    (does : actionOf target (.convert selection written) = .ok action) :
    ∃ format, MediaFormat.ofText? written = some format := by
  unfold actionOf at does
  dsimp only at does
  split at does
  · contradiction
  split at does
  · contradiction
  split at does
  · exact ⟨_, ‹_›⟩
  · contradiction

/-- The paths of an accepted statement do not lead out, nor does the format of a CONVERT. -/
theorem not_leadsOut_of_ofStatement {plan : Plan} (accepted : ofStatement statement = .ok plan)
    {path : String}
    (given : path = statement.selection.source ∨ statement.destination? = some path) :
    ¬ LeadsOut path := by
  have accepts := (ofStatement_eq_ok_iff statement plan).mp accepted
  rcases given with rfl | goal
  · exact confine_eq_ok_iff.mp accepts.source
  have writes := destination?_of_actionOf accepts.action
  cases statement with
  | select | delete => contradiction
  | move | copy | archive | unarchive =>
    exact confine_eq_ok_iff.mp (accepts.destination path (writes.trans goal))
  | convert =>
    obtain rfl := Option.some.inj goal
    obtain ⟨format, reads⟩ := format_of_convert accepts.action
    exact MediaFormat.not_leadsOut reads

/-- Which statements are refused for leading out, among those that pass the checks of their target
    and operation: those with a FROM path that leads out, or with such a path in the TO clause. The
    FROM path comes first. What an accepted statement names and is followed from a folder starts
    with the folder, and so does every part of its way when it is resolved segment by segment. -/
theorem confines_exactly (selects : Target.ofText? statement.selection.target = some target)
    (does : actionOf target statement = .ok action) :
    let source := statement.selection.source
    ((∃ operation path, ofStatement statement = .error (.outsideDirectory operation path)) ↔
      LeadsOut source ∨ ∃ goal ∈ statement.goal?, LeadsOut goal) ∧
    (∀ operation path, ofStatement statement = .error (.outsideDirectory operation path) →
      operation = statement.operation ∧
        (LeadsOut source ∧ path = source ∨ ¬ LeadsOut source ∧ path ∈ statement.goal?)) ∧
    (∀ plan, ofStatement statement = .ok plan → ∀ root : Path, root.isAbsolute = true →
      ['.', '.'] ∉ root.text.toList.splitOn '/' →
        ∀ path, path = source ∨ statement.destination? = some path →
          (root.join ⟨path⟩).startsWith root = true ∧
            ∀ count, (root.text.toList.splitOn '/').length ≤ count →
              ((root.join ⟨path⟩).resolved count).startsWith root = true) := by
  intro source
  have outside := ofStatement_outside_iff selects does
  refine ⟨?_, fun operation path refused => ?_, fun plan accepted root absolute upless path given =>
    Path.keeps_inside absolute upless (not_leadsOut_of_ofStatement accepted given)⟩
  · simp only [outside]
    constructor
    · rintro ⟨_, _, -, ⟨out, -⟩ | ⟨-, goal, isGoal, out, -⟩⟩
      · exact .inl out
      · exact .inr ⟨goal, isGoal, out⟩
    · intro either
      by_cases out : LeadsOut source
      · exact ⟨_, _, rfl, .inl ⟨out, rfl⟩⟩
      · obtain ⟨goal, isGoal, out'⟩ := either.resolve_left out
        exact ⟨_, _, rfl, .inr ⟨out, goal, isGoal, out', rfl⟩⟩
  · obtain ⟨made, ⟨out, same⟩ | ⟨inside, goal, isGoal, -, rfl⟩⟩ := (outside operation path).mp refused
    · exact ⟨made, .inl ⟨out, same⟩⟩
    · exact ⟨made, .inr ⟨inside, isGoal⟩⟩

/-- Dots at the start of a name do not lead up, and a slash at the end of the folder is no step. -/
theorem confines_exactly_dotted :
    let statement := Statement.move ⟨"files", "./a", none⟩ "b//..c"
    let root : Path := ⟨"/data/"⟩
    Target.ofText? statement.selection.target = some .files ∧
    actionOf .files statement = .ok (.move "b//..c") ∧
    ofStatement statement = .ok ⟨.files, "./a", none, .move "b//..c"⟩ ∧
    root.isAbsolute = true ∧ ['.', '.'] ∉ root.text.toList.splitOn '/' ∧
    statement.destination? = some "b//..c" ∧
    (root.join ⟨"b//..c"⟩).startsWith root = true ∧
    ((root.join ⟨"b//..c"⟩).resolved 5).startsWith root = true := by
  intro statement root
  have selects : Target.ofText? statement.selection.target = some .files := by decide
  have does : actionOf .files statement = .ok (.move "b//..c") := rfl
  have accepted : ofStatement statement = .ok ⟨.files, "./a", none, .move "b//..c"⟩ := by
    refine (ofStatement_eq_ok_iff _ _).mpr ⟨selects, does, ?_, ?_, nofun, rfl, rfl⟩
    · exact confine_eq_ok_iff.mpr (by decide)
    · rintro _ ⟨⟩
      exact confine_eq_ok_iff.mpr (by decide)
  have absolute : root.isAbsolute = true := by decide
  have upless : ['.', '.'] ∉ root.text.toList.splitOn '/' := by decide
  have goal : statement.destination? = some "b//..c" := rfl
  obtain ⟨-, -, inside⟩ := confines_exactly selects does
  obtain ⟨starts, later⟩ := inside _ accepted root absolute upless "b//..c" (.inr goal)
  exact ⟨selects, does, accepted, absolute, upless, goal, starts, later 5 (by decide)⟩

end Plan

end FileQuery

import FileQuery.Proofs.FileTree.Contents

/-!
# Trees without links

In a tree without links a path says by itself where it leads: its names go down, two dots go up,
and nothing in the tree turns it aside. So a path followed by a name leads to that name in the
folder that the path leads to, and this stays so when folders and files are added.
-/

namespace FileQuery

/-- What can be the name of an entry of a folder. -/
structure IsName (name : String) : Prop where
  nonempty : name ≠ ""
  notHere : name ≠ "."
  notParent : name ≠ ".."
  unslashed : '/' ∉ name.toList

/-- A name is a relative path. -/
theorem IsName.relative {name : String} (isName : IsName name) :
    (Path.mk name).isAbsolute = false := by
  have unslashed := isName.unslashed
  rw [Path.isAbsolute]
  cases text : name.toList with
  | nil => rfl
  | cons c rest =>
    rw [text] at unslashed
    have differs : c ≠ '/' := Ne.symm (List.ne_of_not_mem_cons unslashed)
    simp [differs]

namespace Path

theorem segments_ne_nil (text : List Char) : segments text ≠ [] := by
  cases text with
  | nil => simp [segments]
  | cons c rest =>
    rw [segments]
    split
    · simp
    · split <;> simp

/-- There is no slash in a segment. -/
theorem slash_notMem_segments (text : List Char) : ∀ segment ∈ segments text, '/' ∉ segment := by
  induction text with
  | nil => simp [segments]
  | cons c rest inductionHypothesis =>
    rw [segments]
    split
    · simpa using inductionHypothesis
    · rename_i differs
      split
      · rename_i first more split_
        rw [split_] at inductionHypothesis
        obtain ⟨first_free, more_free⟩ := List.forall_mem_cons.mp inductionHypothesis
        refine List.forall_mem_cons.mpr ⟨?_, more_free⟩
        simp [Ne.symm differs, first_free]
      · simpa using Ne.symm differs

/-- A text without a slash is one segment. -/
theorem segments_of_unslashed {text : List Char} (free : '/' ∉ text) : segments text = [text] := by
  induction text with
  | nil => rfl
  | cons c rest inductionHypothesis =>
    obtain ⟨differs, later⟩ : '/' ≠ c ∧ '/' ∉ rest := by simpa using free
    rw [segments, if_neg (Ne.symm differs), inductionHypothesis later]

/-- The segments before a slash and those after it. -/
theorem segments_append_slash (before after : List Char) :
    segments (before ++ '/' :: after) = segments before ++ segments after := by
  induction before with
  | nil => rfl
  | cons c rest inductionHypothesis =>
    rw [List.cons_append, segments, segments, inductionHypothesis]
    split
    · rfl
    · obtain ⟨first, more, split_⟩ := List.exists_cons_of_ne_nil (segments_ne_nil rest)
      rw [split_]
      rfl

/-- A relative path that is followed from another one comes after a slash. -/
theorem join_text {base path : Path} (relative : path.isAbsolute = false)
    (nonempty : base.text.toList ≠ []) :
    ∃ before, (base.join path).text.toList = before ++ '/' :: path.text.toList ∧
      (base.text.toList = before ∨ base.text.toList = before ++ ['/']) := by
  have some_text : base.text.isEmpty = false := by
    simpa using nonempty
  rw [join, if_neg (by simp [relative]), some_text, Bool.false_or]
  by_cases slash : base.text.toList.getLast? = some '/'
  · obtain ⟨before, ends⟩ := List.getLast?_eq_some_iff.mp slash
    exact ⟨before, by simp [ends], .inr ends⟩
  · exact ⟨base.text.toList, by simp [slash], .inl rfl⟩

/-- A name stands for itself as a component. -/
theorem component?_toList {name : String} (isName : IsName name) :
    component? name.toList = some (.name name) := by
  have nonempty : name.toList ≠ [] := by
    simpa using isName.nonempty
  have notHere : name.toList ≠ ['.'] := fun same =>
    isName.notHere (String.toList_inj.mp same)
  have notParent : name.toList ≠ ['.', '.'] := fun same =>
    isName.notParent (String.toList_inj.mp same)
  simp [component?, nonempty, notHere, notParent]

/-- A path whose last segment is a name ends with this name. -/
theorem fileName?_of_segments {path : Path} {name : String} (isName : IsName name)
    (before : List (List Char)) (ends : segments path.text.toList = before ++ [name.toList]) :
    path.fileName? = some name := by
  have itself := component?_toList isName
  have last : ∃ front, path.pieces = front ++ [(name.toList, some (.name name))] := by
    rw [pieces, ends]
    cases before with
    | nil =>
      have relative : path.isAbsolute = false := by
        have same : path.text.toList = name.toList := by
          rw [← joined_segments path.text.toList, ends]
          rfl
        rw [isAbsolute, same]
        exact isName.relative
      have notHere : name.toList ≠ ['.'] := fun same =>
        isName.notHere (String.toList_inj.mp same)
      exact ⟨[], by simp [relative, notHere, itself]⟩
    | cons first rest =>
      let later := rest.map fun segment => (segment, component? segment)
      cases path.isAbsolute with
      | true => exact ⟨later, by simp [later, itself]⟩
      | false =>
        exact ⟨(first, if first = ['.'] then some .here else component? first) :: later,
          by simp [later, itself]⟩
  obtain ⟨front, pieces_⟩ := last
  simp [fileName?, components, pieces_]

/-- A path that is followed by a name ends with this name. -/
theorem fileName?_child (base : Path) {name : String} (isName : IsName name) :
    (base.child name).fileName? = some name := by
  by_cases nonempty : base.text.toList = []
  · have empty : base.text = "" := by simpa using nonempty
    have same : base.child name = ⟨name⟩ := by
      simp [child, join, isName.relative, empty]
    rw [same]
    exact fileName?_of_segments isName [] (segments_of_unslashed isName.unslashed)
  · obtain ⟨before, text, -⟩ := join_text isName.relative nonempty
    refine fileName?_of_segments isName (segments before) ?_
    rw [child, text, segments_append_slash, segments_of_unslashed isName.unslashed]

/-- Paths to the names in a folder are as different as the names. -/
theorem child_injective {base : Path} {name other : String} (isName : IsName name)
    (isName' : IsName other) (same : base.child name = base.child other) : name = other := by
  have ends := fileName?_child base isName
  rw [same, fileName?_child base isName'] at ends
  exact (Option.some.inj ends).symm

/-- The path that goes down from a path by names. -/
def down (path : Path) (names : List String) : Path := names.foldl child path

theorem down_concat (path : Path) (front : List String) (name : String) :
    path.down (front ++ [name]) = (path.down front).child name :=
  List.foldl_append

end Path

namespace FileTree

/-- Where segments lead from a place, if there are no links. -/
def down (here : Place) : List String → Place
  | [] => here
  | segment :: rest =>
    if segment = "" ∨ segment = "." then down here rest
    else if segment = ".." then down here.dropLast rest
    else down (here ++ [segment]) rest

/-- Where a path leads, if there are no links. -/
def lexical (tree : FileTree) (path : Path) : Place :=
  down (start path.text tree.working) (names path.text)

theorem down_append (here : Place) (first second : List String) :
    down here (first ++ second) = down (down here first) second := by
  induction first generalizing here with
  | nil => rfl
  | cons segment rest inductionHypothesis =>
    simp only [List.cons_append, down]
    split
    · exact inductionHypothesis here
    split
    · exact inductionHypothesis _
    · exact inductionHypothesis _

/-- Slashes at the end of a path lead nowhere else. -/
theorem down_of_final (here : Place) {rest : List String} (final : rest.all (· == "") = true) :
    down here rest = here := by
  induction rest with
  | nil => rfl
  | cons segment rest inductionHypothesis =>
    obtain ⟨empty, final'⟩ : segment = "" ∧ rest.all (· == "") = true := by simpa using final
    rw [down, if_pos (.inl empty), inductionHypothesis final']

/-- Without links segments come out where they lead by themselves. -/
theorem ComesOut.place_of_unlinked {tree : FileTree} (unlinked : ∀ place target,
      tree.get? place ≠ some (.link target)) {last : LastLink} {links : Nat} {here : Place}
    {segments : List String} {destination : Destination}
    (comesOut : tree.ComesOut last links here segments destination) :
    destination.place = down here segments := by
  induction comesOut with
  | nil => rfl
  | silent unsaying _ inductionHypothesis =>
    rw [inductionHypothesis, down, if_pos (speaks_eq_false.mp unsaying)]
  | parent _ inductionHypothesis => rw [inductionHypothesis, down, if_neg (by decide), if_pos rfl]
  | final saying notParent _ _ atEnd =>
    rw [down, if_neg (not_silent saying), if_neg notParent, down_of_final _ atEnd]
  | folder saying notParent _ _ _ _ inductionHypothesis =>
    rw [inductionHypothesis, down, if_neg (not_silent saying), if_neg notParent]
  | link _ _ _ found => exact absurd found (unlinked _ _)

/-- Without links a path leads where it says. -/
theorem resolve_place {tree : FileTree} (unlinked : ∀ place target,
      tree.get? place ≠ some (.link target)) {last : LastLink} {path : Path}
    {destination : Destination} (leads : tree.resolve last path = .ok destination) :
    destination.place = tree.lexical path :=
  (comesOut_of_resolve leads).place_of_unlinked unlinked

/-- A relative path that is followed from another leads on from where that one leads. -/
theorem lexical_join (tree : FileTree) (base : Path) {path : Path}
    (relative : path.isAbsolute = false) :
    tree.lexical (base.join path) = down (tree.lexical base) (names path.text) := by
  by_cases nonempty : base.text.toList = []
  · have empty : base.text = "" := by simpa using nonempty
    have same : base.join path = path := by
      simp [Path.join, relative, empty]
    rw [same, lexical, lexical, empty, start, if_neg (by simpa using relative)]
    rfl
  obtain ⟨before, text, ends⟩ := Path.join_text relative nonempty
  have absolute : (base.join path).isAbsolute = base.isAbsolute := by
    rw [Path.isAbsolute, Path.isAbsolute, text]
    rcases ends with ends | ends <;> cases before <;> simp_all
  have below : names (base.join path).text = (Path.segments before).map String.ofList ++
      names path.text := by
    rw [names, text, Path.segments_append_slash, List.map_append, names]
  have here : tree.lexical base = down (start base.text tree.working)
      ((Path.segments before).map String.ofList) := by
    rw [lexical, names]
    rcases ends with ends | ends
    · rw [ends]
    · rw [ends, Path.segments_append_slash, List.map_append, down_append]
      rfl
  rw [lexical, below, down_append, here, start, start]
  simp only [absolute]

/-- A path that is followed by a name leads to that name. -/
theorem lexical_child (tree : FileTree) (base : Path) {name : String} (isName : IsName name) :
    tree.lexical (base.child name) = tree.lexical base ++ [name] := by
  have alone : names name = [name] := by
    simp [names, Path.segments_of_unslashed isName.unslashed]
  rw [Path.child, lexical_join tree base isName.relative, alone, down, if_neg,
    if_neg isName.notParent]
  · rfl
  · simp [isName.nonempty, isName.notHere]

/-- A slash at the end of a path leads nowhere else. -/
theorem lexical_child_empty (tree : FileTree) (base : Path) :
    tree.lexical (base.child "") = tree.lexical base :=
  lexical_join tree base rfl

end FileTree

end FileQuery

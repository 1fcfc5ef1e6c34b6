import FileQuery.Proofs.FileTree.Lexical

/-!
# Paths as seen from another

A path that is followed from another one has the components of both, one after the other. So what
is left of it when the other one is taken away, followed from the other one again, is the same path.
-/

namespace FileQuery.Path

/-- The pieces of segments that do not stand at the start of a path. -/
def laterPieces (segments : List (List Char)) : List (List Char × Option Component) :=
  segments.map fun segment => (segment, component? segment)

/-- The components of a relative path that is followed from another one. A dot at its start says
    nothing there. -/
def laterComponents (path : Path) : List Component :=
  (segments path.text.toList).filterMap component?

@[simp] theorem map_fst_laterPieces (segments : List (List Char)) :
    (laterPieces segments).map (·.1) = segments := by
  simp [laterPieces, Function.comp_def]

@[simp] theorem filterMap_laterPieces (segments : List (List Char)) :
    (laterPieces segments).filterMap (·.2) = segments.filterMap component? := by
  simp only [laterPieces, List.filterMap_map, Function.comp_def]

/-! ## Joined paths -/

/-- A relative path that is followed from another one does not change where that one starts. -/
theorem isAbsolute_join {base path : Path} (relative : path.isAbsolute = false)
    (nonempty : base.text.toList ≠ []) : (base.join path).isAbsolute = base.isAbsolute := by
  obtain ⟨before, text, ends⟩ := join_text relative nonempty
  rw [isAbsolute, isAbsolute, text]
  rcases ends with ends | ends <;> cases before <;> simp_all

/-- The pieces of a path are those of its first segment and of the later ones. -/
theorem pieces_of_segments {path : Path} {first : List Char} {rest : List (List Char)}
    (split : segments path.text.toList = first :: rest) :
    path.pieces = (if path.isAbsolute then []
      else [(first, if first = ['.'] then some .here else component? first)]) ++
        laterPieces rest := by
  rw [pieces, split]
  cases path.isAbsolute <;> rfl

/-- The pieces of a path that is followed from another one are those of both. A slash at the end of
    the first path adds no piece of its own. -/
theorem pieces_join {base path : Path} (relative : path.isAbsolute = false)
    (nonempty : base.text.toList ≠ []) :
    ∃ front, (base.pieces = front ∨ base.pieces = front ++ [([], none)]) ∧
      (base.join path).pieces = front ++ laterPieces (segments path.text.toList) := by
  obtain ⟨before, text, ends⟩ := join_text relative nonempty
  obtain ⟨first, rest, split⟩ := List.exists_cons_of_ne_nil (segments_ne_nil before)
  have joinedSplit : segments (base.join path).text.toList =
      first :: (rest ++ segments path.text.toList) := by
    rw [text, segments_append_slash, split, List.cons_append]
  refine ⟨(if base.isAbsolute then []
    else [(first, if first = ['.'] then some .here else component? first)]) ++
      laterPieces rest, ?_, ?_⟩
  · rcases ends with ends | ends
    · exact .inl (pieces_of_segments (ends ▸ split))
    · have baseSplit : segments base.text.toList = first :: (rest ++ [[]]) := by
        rw [ends, segments_append_slash, split]
        rfl
      rw [pieces_of_segments baseSplit]
      exact .inr (by simp [laterPieces, component?])
  · rw [pieces_of_segments joinedSplit, isAbsolute_join relative nonempty]
    simp [laterPieces]

/-- A path that is followed from another one has the components of both. -/
theorem components_join {base path : Path} (relative : path.isAbsolute = false)
    (nonempty : base.text.toList ≠ []) :
    (base.join path).components = base.components ++ path.laterComponents := by
  obtain ⟨front, first, whole⟩ := pieces_join relative nonempty
  have same : base.pieces.filterMap (·.2) = front.filterMap (·.2) := by
    rcases first with first | first <;> simp [first]
  rw [components, components, isAbsolute_join relative nonempty, whole, same]
  simp [laterComponents]

/-- A path that is followed by a name has a piece for the name at its end. -/
theorem exists_pieces_child (base : Path) {name : String} (isName : IsName name) :
    ∃ front, (base.pieces = front ∨ base.pieces = front ++ [([], none)]) ∧
      (base.child name).pieces = front ++ [(name.toList, some (.name name))] := by
  have alone : laterPieces (segments name.toList) = [(name.toList, some (.name name))] := by
    rw [segments_of_unslashed isName.unslashed]
    simp [laterPieces, component?_toList isName]
  by_cases empty : base.text.toList = []
  · obtain rfl : base = ⟨""⟩ := congrArg Path.mk (String.toList_inj.mp empty)
    have itself : (Path.mk "").child name = ⟨name⟩ := by
      simp [child, join, isName.relative]
    have notHere : name.toList ≠ ['.'] := fun here => isName.notHere (String.toList_inj.mp here)
    refine ⟨[], .inr rfl, ?_⟩
    rw [itself, pieces_of_segments (segments_of_unslashed isName.unslashed), isName.relative]
    simp [laterPieces, component?_toList isName, notHere]
  · obtain ⟨front, ends, pieces⟩ := pieces_join isName.relative empty
    exact ⟨front, ends, by rw [child, pieces, alone]⟩

theorem join_text_ne_nil {base path : Path} (nonempty : base.text.toList ≠ [])
    (relative : path.isAbsolute = false) : (base.join path).text.toList ≠ [] := by
  obtain ⟨before, text, -⟩ := join_text relative nonempty
  simp [text]

/-- A path without components has no text. -/
theorem text_eq_nil_of_components {path : Path} (none : path.components = []) :
    path.text.toList = [] := by
  refine Classical.byContradiction fun nonempty => ?_
  obtain ⟨first, rest, split⟩ := List.exists_cons_of_ne_nil (segments_ne_nil path.text.toList)
  rw [components, pieces_of_segments split] at none
  cases absolute : path.isAbsolute with
  | true => simp [absolute] at none
  | false =>
    obtain ⟨c, more, text⟩ := List.exists_cons_of_ne_nil nonempty
    have unslashed : c ≠ '/' := by
      rw [isAbsolute, text] at absolute
      simpa using absolute
    have firstNonempty : first ≠ [] := by
      rintro rfl
      rw [text, segments, if_neg unslashed] at split
      split at split <;> simp at split
    by_cases here : first = ['.']
    · simp [absolute, here] at none
    · by_cases parent : first = ['.', '.'] <;>
        simp [absolute, here, component?, firstNonempty, parent] at none

/-! ## What is left of a path -/

/-- A path goes on from another one with the given components. -/
structure GoesOn (base path : Path) (later : List Component) : Prop where
  start : path.isAbsolute = base.isAbsolute
  pieces : ∃ front segments, path.pieces = front ++ laterPieces segments ∧
    front.filterMap (·.2) = base.pieces.filterMap (·.2) ∧ segments.filterMap component? = later

theorem GoesOn.refl (base : Path) : base.GoesOn base [] :=
  ⟨rfl, base.pieces, [], by simp [laterPieces], rfl, rfl⟩

/-- What is followed from a path goes on from wherever the path goes on from. -/
theorem GoesOn.join {base path more : Path} {later : List Component}
    (goesOn : base.GoesOn path later) (nonempty : path.text.toList ≠ [])
    (relative : more.isAbsolute = false) :
    base.GoesOn (path.join more) (later ++ more.laterComponents) := by
  obtain ⟨start, front, behind, pieces, same, rfl⟩ := goesOn
  refine ⟨(isAbsolute_join relative nonempty).trans start, ?_⟩
  obtain ⟨whole, first, joined⟩ := pieces_join relative nonempty
  rcases first with first | first
  · refine ⟨front, behind ++ segments more.text.toList, ?_, same, ?_⟩
    · rw [joined, ← first, pieces]
      simp [laterPieces]
    · simp [laterComponents]
  -- The slash at the end of the path has a piece of its own, which may be the last of either part.
  · rcases List.eq_nil_or_concat behind with rfl | ⟨before, last, rfl⟩
    · refine ⟨whole, segments more.text.toList, joined, ?_, by simp [laterComponents]⟩
      have split : front = whole ++ [([], none)] := by
        rw [← first, pieces]
        simp [laterPieces]
      rw [← same, split]
      simp
    · have split : front ++ laterPieces before = whole ∧ last = [] := by
        have ends : (front ++ laterPieces before) ++ [(last, component? last)] =
            whole ++ [([], none)] := by
          rw [← first, pieces]
          simp [laterPieces]
        obtain ⟨whole_, last_⟩ := List.append_inj' ends rfl
        exact ⟨whole_, congrArg Prod.fst (List.singleton_inj.mp last_)⟩
      obtain ⟨rfl, rfl⟩ := split
      refine ⟨front, before ++ segments more.text.toList, ?_, same, ?_⟩
      · rw [joined]
        simp [laterPieces]
      · simp [laterComponents, component?]

/-- A path that goes on from another one has the components of that one and then its own. -/
theorem GoesOn.components {base path : Path} {later : List Component}
    (goesOn : base.GoesOn path later) : path.components = base.components ++ later := by
  obtain ⟨start, front, behind, pieces, same, rfl⟩ := goesOn
  rw [Path.components, Path.components, start, pieces, ← same]
  simp

/-- Pieces after the components of the first of them: what comes after these, and maybe pieces
    before it that say nothing. -/
theorem afterComponents_append (front rest : List (List Char × Option Component)) :
    ∃ silent, afterComponents (front.filterMap (·.2)) (front ++ rest) = some (silent ++ rest) ∧
      ∀ piece ∈ silent, piece.2.isNone = true := by
  induction front with
  | nil => exact ⟨[], by simp [afterComponents], by simp⟩
  | cons piece front inductionHypothesis =>
    obtain ⟨silent, after, unsaying⟩ := inductionHypothesis
    obtain ⟨segment, found⟩ := piece
    cases found with
    | some found =>
      refine ⟨silent, ?_, unsaying⟩
      simpa [afterComponents] using after
    | none =>
      rw [List.filterMap_cons_none rfl]
      cases said : front.filterMap (·.2) with
      | nil =>
        refine ⟨(segment, none) :: front, by simp [afterComponents], ?_⟩
        rintro piece member
        rcases List.mem_cons.mp member with rfl | member
        · rfl
        · have unsaid := List.filterMap_eq_nil_iff.mp said piece member
          simp [unsaid]
      | cons first more =>
        rw [said] at after
        exact ⟨silent, by simpa [afterComponents] using after, unsaying⟩

/-- Segments without those at both ends that say nothing. -/
def trimSegments (segments : List (List Char)) : List (List Char) :=
  ((segments.dropWhile fun segment => (component? segment).isNone).reverse.dropWhile
    fun segment => (component? segment).isNone).reverse

theorem filterMap_dropWhile (segments : List (List Char)) :
    (segments.dropWhile fun segment => (component? segment).isNone).filterMap component? =
      segments.filterMap component? := by
  induction segments with
  | nil => rfl
  | cons segment rest inductionHypothesis =>
    rw [List.dropWhile_cons]
    cases found : component? segment with
    | none => simpa [found] using inductionHypothesis
    | some part => simp [found]

/-- Trimming takes away nothing that says something. -/
theorem filterMap_trimSegments (segments : List (List Char)) :
    (trimSegments segments).filterMap component? = segments.filterMap component? := by
  rw [trimSegments, List.filterMap_reverse, filterMap_dropWhile, List.filterMap_reverse,
    List.reverse_reverse, filterMap_dropWhile]

theorem mem_of_mem_trimSegments {segments : List (List Char)} {segment : List Char}
    (member : segment ∈ trimSegments segments) : segment ∈ segments := by
  have later := (List.dropWhile_suffix _).subset (List.mem_reverse.mp member)
  exact (List.dropWhile_suffix _).subset (List.mem_reverse.mp later)

/-- What is left of segments starts with one that says something. -/
theorem trimSegments_head {segments : List (List Char)} {first : List Char}
    {rest : List (List Char)} (split : trimSegments segments = first :: rest) : first ≠ [] := by
  let silent (segment : List Char) : Bool := (component? segment).isNone
  have start : (segments.dropWhile silent).head? = some first := by
    have suffix : ((segments.dropWhile silent).reverse.dropWhile silent) <:+
        (segments.dropWhile silent).reverse := List.dropWhile_suffix _
    have front : trimSegments segments <+: segments.dropWhile silent := by
      simpa [trimSegments, silent] using List.reverse_prefix.mpr suffix
    obtain ⟨more, whole⟩ := front
    rw [← whole, split]
    rfl
  rintro rfl
  have speaks := List.head?_dropWhile_not silent segments
  rw [start] at speaks
  exact absurd speaks (by decide)

/-- The segments of joined segments without slashes are these. -/
theorem segments_joined {parts : List (List Char)} (some_parts : parts ≠ [])
    (unslashed : ∀ part ∈ parts, '/' ∉ part) : segments (joined parts) = parts := by
  induction parts with
  | nil => contradiction
  | cons first rest inductionHypothesis =>
    obtain ⟨here, later⟩ := List.forall_mem_cons.mp unslashed
    cases rest with
    | nil => exact segments_of_unslashed here
    | cons second more =>
      rw [joined, segments_append_slash, segments_of_unslashed here,
        inductionHypothesis (by simp) later]
      · rfl
      · simp

/-- There is no slash in a piece. -/
theorem slash_notMem_pieces (path : Path) : ∀ piece ∈ path.pieces, '/' ∉ piece.1 := by
  obtain ⟨first, rest, split⟩ := List.exists_cons_of_ne_nil (segments_ne_nil path.text.toList)
  have free := slash_notMem_segments path.text.toList
  rw [split] at free
  obtain ⟨here, later⟩ := List.forall_mem_cons.mp free
  intro piece member
  rw [pieces_of_segments split] at member
  rcases List.mem_append.mp member with first_ | rest_
  · split at first_
    · simp at first_
    · rw [List.mem_singleton.mp first_]
      exact here
  · obtain ⟨segment, listed, rfl⟩ := List.mem_map.mp rest_
    exact later segment listed

/-- What is left of later pieces is the text of the trimmed segments. -/
theorem ofPieces_trimPieces (segments : List (List Char)) :
    ofPieces false (trimPieces ((laterPieces segments).dropWhile (·.2.isNone))) =
      ⟨String.ofList (joined (trimSegments segments))⟩ := by
  have trimmed : trimPieces ((laterPieces segments).dropWhile (·.2.isNone)) =
      laterPieces (trimSegments segments) := by
    simp only [trimPieces, laterPieces, trimSegments, List.dropWhile_map, ← List.map_reverse]
    rfl
  rw [trimmed, ofPieces, map_fst_laterPieces]
  rfl

/-- What is left of a path that goes on from another one is relative and has the components with
    which it goes on. -/
theorem GoesOn.stripPrefix? {base path : Path} {later : List Component}
    (goesOn : base.GoesOn path later) (nonempty : base.components ≠ []) (more : later ≠ []) :
    ∃ shown, path.stripPrefix? base = some shown ∧ shown.isAbsolute = false ∧
      shown.laterComponents = later := by
  obtain ⟨start, front, behind, pieces, same, rfl⟩ := goesOn
  obtain ⟨silent, after, unsaying⟩ := afterComponents_append front (laterPieces behind)
  have unslashed : ∀ segment ∈ trimSegments behind, '/' ∉ segment := by
    intro segment member
    have listed : (segment, component? segment) ∈ path.pieces := by
      rw [pieces]
      exact List.mem_append_right _ (List.mem_map_of_mem (mem_of_mem_trimSegments member))
    exact path.slash_notMem_pieces _ listed
  have some_left : trimSegments behind ≠ [] := by
    intro nothing
    rw [← filterMap_trimSegments, nothing] at more
    exact more rfl
  refine ⟨⟨String.ofList (joined (trimSegments behind))⟩, ?_, ?_, ?_⟩
  · rw [Path.stripPrefix?, if_neg nonempty, if_pos start, ← same, pieces, after, Option.map_some,
      List.dropWhile_append_of_pos unsaying, ofPieces_trimPieces]
  · obtain ⟨first, rest, split⟩ := List.exists_cons_of_ne_nil some_left
    obtain ⟨c, text, first_⟩ := List.exists_cons_of_ne_nil (trimSegments_head split)
    have differs : c ≠ '/' := by
      have free := unslashed first (split ▸ List.mem_cons_self)
      rw [first_] at free
      exact Ne.symm (List.ne_of_not_mem_cons free)
    rw [isAbsolute, String.toList_ofList, split, first_]
    cases rest <;> simpa [joined] using differs
  · rw [laterComponents, String.toList_ofList, segments_joined some_left unslashed,
      filterMap_trimSegments]

/-- A path below another one, as it is seen from there, leads from there to the same path. -/
theorem GoesOn.same_join_relativeTo {base path : Path} {later : List Component}
    (goesOn : base.text.toList ≠ [] → base.GoesOn path later) (more : later ≠ []) :
    (base.join (path.relativeTo base)).same path = true := by
  by_cases nonempty : base.text.toList = []
  · have empty : base.text = "" := by simpa using nonempty
    have nowhere : base.components = [] := by
      rw [Path.components, Path.pieces, isAbsolute, nonempty]
      rfl
    have itself : path.relativeTo base = path := by
      simp [relativeTo, Path.stripPrefix?, nowhere]
    have stays : base.join path = path := by
      rw [Path.join, empty]
      split <;> rfl
    rw [itself, stays, same]
    simp
  · have some_components : base.components ≠ [] := fun none =>
      nonempty (text_eq_nil_of_components none)
    obtain ⟨shown, left, relative, components_⟩ :=
      (goesOn nonempty).stripPrefix? some_components more
    rw [relativeTo, left, Option.getD_some, same, components_join relative nonempty,
      (goesOn nonempty).components, components_]
    simp

/-- An entry of a folder below a path, as it is seen from there, leads from there to the same
    path. -/
theorem same_join_relativeTo_child (root : Path) {source : Path} {name : String}
    (relative : source.isAbsolute = false) (isName : IsName name) :
    (root.join (((root.join source).child name).relativeTo root)).same
      ((root.join source).child name) = true := by
  have last : (Path.mk name).laterComponents = [.name name] := by
    rw [laterComponents, segments_of_unslashed isName.unslashed]
    simp [component?_toList isName]
  have goesOn (nonempty : root.text.toList ≠ []) :
      root.GoesOn ((root.join source).child name)
        ([] ++ source.laterComponents ++ (Path.mk name).laterComponents) :=
    ((GoesOn.refl root).join nonempty relative).join (join_text_ne_nil nonempty relative)
      isName.relative
  refine GoesOn.same_join_relativeTo goesOn ?_
  simp [last]

end FileQuery.Path

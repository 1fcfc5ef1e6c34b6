import FileQuery.Proofs.FileTree.Entries
import FileQuery.Proofs.FileTree.Plain

/-!
# Ways without links

An absolute path that goes down by names leads to the place of these names, if no link is on the
way down. So what is made and written by such a path is made and written at this place.
-/

namespace FileQuery

open FileTree (speaks)

namespace Path

/-- The path of the root of the file system. -/
def top : Path := .ofPlace []

theorem joined_eq_intercalate (parts : List (List Char)) :
    joined parts = ['/'].intercalate parts := by
  induction parts with
  | nil => rfl
  | cons first rest inductionHypothesis =>
    cases rest with
    | nil => simp [joined]
    | cons second more =>
      rw [joined, inductionHypothesis]
      · simp [List.intercalate]
      · simp

/-- The path of a place goes down by the names of the place. -/
theorem within_ofPlace {place : Place} (areNames : ∀ name ∈ place, IsName name) :
    top.Within (ofPlace place) place := by
  have text : (ofPlace place).text.toList = '/' :: joined (place.map String.toList) := by
    simp [ofPlace, joined_eq_intercalate]
  have steps : FileTree.steps (ofPlace place) =
      ((segments (joined (place.map String.toList))).map String.ofList).filter speaks := by
    rw [FileTree.steps, FileTree.names, text, segments, if_pos rfl]
    rfl
  refine ⟨?_, ?_, areNames⟩
  · rw [isAbsolute, text]
    rfl
  · rw [steps]
    by_cases none : place = []
    · subst none
      rfl
    · have unslashed : ∀ part ∈ place.map String.toList, '/' ∉ part := by
        intro part member
        obtain ⟨name, listed, rfl⟩ := List.mem_map.mp member
        exact (areNames name listed).unslashed
      have same : (place.map String.toList).map String.ofList = place := by
        simp [Function.comp_def]
      rw [segments_joined (by simpa using none) unslashed, same]
      exact List.filter_eq_self.mpr fun name member =>
        FileTree.speaks_of_isName (areNames name member)

end Path

/-- The names on the way down to a place in an orderly node are names. -/
theorem Node.Throughout.areNames {allowed : String → Prop} {node found : Node} {place : Place}
    (throughout : node.Throughout allowed) (reached : node.get? place = some found) :
    ∀ name ∈ place, IsName name := by
  induction place generalizing node with
  | nil => simp
  | cons name rest inductionHypothesis =>
    cases node with
    | file | link => cases reached
    | folder stamps entries =>
      obtain ⟨child, listed, reached'⟩ := Option.bind_eq_some_iff.mp reached
      have orderly := throughout [] _ rfl
      have at_name : (folder stamps entries).get? [name] = some child := by
        simp [Node.get?, listed]
      refine List.forall_mem_cons.mpr ⟨?_, inductionHypothesis (throughout.below at_name) reached'⟩
      exact orderly.1 name (List.mem_map_of_mem (mem_of_lookup listed))

namespace FileTree

/-- No link is on the way down to a place, or at the place. -/
def Clear (tree : FileTree) (place : Place) : Prop :=
  ∀ above target, above <+: place → tree.get? above ≠ some (.link target)

variable {tree : FileTree} {place front whole here : Place} {path : Path} {last : LastLink}
  {links : Nat} {name : String} {segments : List String} {destination : Destination}

theorem Clear.mono (clear : tree.Clear whole) (starts : place <+: whole) : tree.Clear place :=
  fun above target starts' => clear above target (starts'.trans starts)

theorem Clear.concat (clear : tree.Clear place)
    (here : ∀ target, tree.get? (place ++ [name]) ≠ some (.link target)) :
    tree.Clear (place ++ [name]) := by
  intro above target starts
  rcases List.prefix_concat_iff.mp starts with same | starts
  · exact same ▸ here target
  · exact clear above target starts

/-- What is above something is a folder. -/
theorem exists_folder_above {below : Place} {node : Node}
    (found : tree.get? (place ++ below) = some node) (deeper : below ≠ []) :
    ∃ stamps entries, tree.get? place = some (.folder stamps entries) := by
  obtain ⟨name, rest, rfl⟩ := List.exists_cons_of_ne_nil deeper
  obtain ⟨stamps, entries, _, isFolder, -⟩ := exists_entry_of_get? found
  exact ⟨stamps, entries, isFolder⟩

/-- Names that lead to a folder start from one. -/
theorem Leads.exists_folder_start {left : Nat} {reached : Place}
    (leads : tree.Leads links here segments left reached) (down : ".." ∉ segments)
    (isFolder : ∃ stamps entries, tree.get? reached = some (.folder stamps entries)) :
    ∃ stamps entries, tree.get? here = some (.folder stamps entries) := by
  induction leads with
  | nil => exact isFolder
  | silent _ _ inductionHypothesis =>
    exact inductionHypothesis (List.not_mem_of_not_mem_cons down) isFolder
  | parent => exact absurd List.mem_cons_self down
  | folder _ _ _ found => exact exists_folder_above found (by simp)
  | link _ _ _ found => exact exists_folder_above found (by simp)

/-- No link is on the way down to something that is no link. -/
theorem clear_of_get? {node : Node} (found : tree.get? place = some node)
    (notLink : ∀ target, node ≠ .link target) : tree.Clear place := by
  rintro above target ⟨below, rfl⟩ linked
  cases below with
  | nil =>
    rw [List.append_nil, linked] at found
    exact notLink target (Option.some.inj found).symm
  | cons name rest =>
    obtain ⟨_, _, isFolder⟩ := exists_folder_above found (by simp)
    cases isFolder.symm.trans linked

/-- Where no link is on the way, going down comes out where the names lead. If nothing is there, it
    is a name in a folder. -/
theorem ComesOut.of_clear (comesOut : tree.ComesOut last links here segments destination)
    (isFolder : ∃ stamps entries, tree.get? here = some (.folder stamps entries))
    (down : ".." ∉ segments) (clear : tree.Clear (here ++ segments.filter speaks)) :
    destination.place = here ++ segments.filter speaks ∧ (destination.node? = none →
      ∃ folder name stamps entries, here ++ segments.filter speaks = folder ++ [name] ∧
        tree.get? folder = some (.folder stamps entries)) := by
  induction comesOut with
  | nil =>
    obtain ⟨stamps, entries, isFolder⟩ := isFolder
    simp [isFolder]
  | silent unsaying _ inductionHypothesis =>
    rw [List.filter_cons_of_neg (by simp [unsaying])] at clear ⊢
    exact inductionHypothesis isFolder (List.not_mem_of_not_mem_cons down) clear
  | parent => exact absurd List.mem_cons_self down
  | @final _ here name _ _ saying _ _ _ atEnd =>
    obtain ⟨stamps, entries, isFolder⟩ := isFolder
    rw [List.filter_cons_of_pos saying, filter_speaks_of_final atEnd]
    exact ⟨rfl, fun _ => ⟨here, name, stamps, entries, rfl, isFolder⟩⟩
  | folder saying _ _ found _ _ inductionHypothesis =>
    rw [List.filter_cons_of_pos saying, List.append_cons] at clear ⊢
    exact inductionHypothesis ⟨_, _, found⟩ (List.not_mem_of_not_mem_cons down) clear
  | link saying _ _ found =>
    rw [List.filter_cons_of_pos saying, List.append_cons] at clear
    exact absurd found (clear _ _ (List.prefix_append _ _))

/-- Where no link is on the way to a folder, a name that is looked for in it is not found only if
    nothing has the name. -/
theorem free_of_descend (down : ".." ∉ segments)
    (clear : tree.Clear (here ++ segments.filter speaks)) (isName : IsName name)
    (fails : tree.descend .keep links here (segments ++ [name]) = .error .notFound) :
    tree.get? (here ++ segments.filter speaks ++ [name]) = none := by
  induction segments generalizing here with
  | nil =>
    rw [List.nil_append, descend, if_neg (not_or.mpr ⟨isName.nonempty, isName.notHere⟩),
      if_neg isName.notParent] at fails
    split at fails
    · cases fails
    dsimp only at fails
    split at fails
    · rename_i free
      simpa using free
    · cases fails
    · cases fails
    · cases fails
  | cons first rest inductionHypothesis =>
    have notParent : first ≠ ".." := Ne.symm (List.ne_of_not_mem_cons down)
    have down' := List.not_mem_of_not_mem_cons down
    have goesOn : (rest ++ [name]).all (· == "") = false := by
      simp [isName.nonempty]
    rw [List.cons_append, descend] at fails
    split at fails
    · rename_i silent
      have unsaying : ¬ speaks first = true := by
        simp [speaks_eq_false.mpr silent]
      rw [List.filter_cons_of_neg unsaying] at clear ⊢
      exact inductionHypothesis down' clear fails
    rename_i speaking
    have saying : speaks first = true := by
      simpa [speaks, not_or] using speaking
    have whole : here ++ (first :: rest).filter speaks = here ++ [first] ++ rest.filter speaks := by
      rw [List.filter_cons_of_pos saying, List.append_cons]
    rw [whole] at clear ⊢
    split at fails
    · cases fails
    dsimp only at fails
    rw [goesOn] at fails
    split at fails
    · rename_i free
      rw [List.append_assoc, get?_append, free]
      rfl
    · exact inductionHypothesis down' clear fails
    · cases fails
    · rename_i target found
      exact absurd found (clear _ target (List.prefix_append _ _))

section

variable (within : Path.top.Within path place)

include within

theorem filter_names_of_within : (names path.text).filter speaks = place := within.steps

theorem start_of_within (here : Place) : start path.text here = [] := by
  rw [start, within.start]
  rfl

theorem down_of_within : ".." ∉ names path.text := by
  intro parent
  have among : ".." ∈ (names path.text).filter speaks :=
    List.mem_filter.mpr ⟨parent, by decide⟩
  rw [filter_names_of_within within] at among
  exact (within.areNames ".." among).notParent rfl

/-- A path on whose way no link is leads to its place. If nothing is there, it is a name in a
    folder. -/
theorem place_of_resolve (clear : tree.Clear place)
    (isFolder : ∃ stamps entries, tree.get? [] = some (.folder stamps entries))
    (leads : tree.resolve last path = .ok destination) :
    destination.place = place ∧ (destination.node? = none → ∃ folder name stamps entries,
      place = folder ++ [name] ∧ tree.get? folder = some (.folder stamps entries)) := by
  have steps := filter_names_of_within within
  have comesOut := comesOut_of_resolve leads
  rw [start_of_within within _] at comesOut
  have atPlace := comesOut.of_clear isFolder (down_of_within within) (by rwa [steps])
  rwa [steps] at atPlace

/-- A path on whose way no link is leads to no folder but its place. -/
theorem eq_of_reaches (clear : tree.Clear place) {left : Nat} {folder : Place}
    (reaches : tree.Reaches path left folder) : folder = place := by
  have itself : place.filter speaks = place :=
    List.filter_eq_self.mpr fun name member => speaks_of_isName (within.areNames name member)
  rw [Reaches, start_of_within within _] at reaches
  have way := reaches.congr (itself.trans (filter_names_of_within within).symm)
  obtain ⟨-, same⟩ := way.down_of_unlinked within.areNames fun below target starts =>
    clear below target starts
  exact same

/-- What a name itself names after a path on whose way no link is. -/
theorem findLink_child (clear : tree.Clear place) (isName : IsName name) :
    (tree.findLink (path.child name) = .error .notFound → tree.get? (place ++ [name]) = none) ∧
      ∀ node, tree.findLink (path.child name) = .ok node →
        tree.get? (place ++ [name]) = some node := by
  have comesOut {destination : Destination}
      (leads : tree.resolve .keep (path.child name) = .ok destination) :
      destination.node? = tree.get? (place ++ [name]) := by
    obtain ⟨left, folder, reaches, same⟩ := exists_reaches_of_resolve isName leads
    rw [resolve_node? leads, same, eq_of_reaches within clear reaches]
  constructor
  · intro fails
    cases leads : tree.resolve .keep (path.child name) with
    | ok destination =>
      obtain ⟨reached, node?, slash⟩ := destination
      rw [← comesOut leads]
      cases node? with
      | none => rfl
      | some node =>
        simp only [findLink, locate, leads] at fails
        split at fails <;> cases fails
    | error error =>
      simp only [findLink, locate, leads] at fails
      obtain rfl := Except.error.inj fails
      obtain ⟨front, whole, same⟩ := names_child path isName
      rw [filter_names_of_within within] at same
      have isWithin := within.child isName
      unfold resolve at leads
      split at leads
      · rename_i check
        obtain rfl := Except.error.inj leads
        have steps := filter_names_of_within isWithin
        rw [eq_empty_of_checkPath check] at steps
        exact absurd steps.symm (by simp [names, Path.segments, speaks])
      · rw [start_of_within isWithin _, whole] at leads
        have down := down_of_within isWithin
        rw [whole, List.mem_append, not_or] at down
        have free := free_of_descend down.1 (by rwa [same]) isName leads
        rwa [same] at free
  · intro node found
    unfold findLink at found
    cases located : tree.locate .keep (path.child name) with
    | error error => simp [located, Except.map] at found
    | ok result =>
      obtain ⟨reached, node'⟩ := result
      rw [located] at found
      obtain rfl := Except.ok.inj found
      obtain ⟨slash, leads, -⟩ := locate_eq_ok located
      exact (comesOut leads).symm

end

end FileTree

end FileQuery

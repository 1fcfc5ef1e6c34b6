import FileQuery.Proofs.Confinement.Runs
import FileQuery.Proofs.FileTree.Substances
import FileQuery.Proofs.FileTree.Reordering

/-!
# Missing folders in trees without links

In a tree without links, to make a folder with the missing ones that it is in makes folders on the
way down to its place, where nothing was. Everything that is not on this way is the same node as
before.
-/

namespace FileQuery

open FileTree (speaks steps)

/-- A path without components takes no steps. -/
theorem Path.steps_eq_nil {path : Path} (none : path.components = []) : steps path = [] := by
  rw [components_eq] at none
  simpa using (List.append_eq_nil_iff.mp (List.append_eq_nil_iff.mp none).2).2

namespace FileTree

variable {tree later : FileTree} {root path : Path} {rest : List String} {place folder : Place}
  {left : Nat} {name : String}

/-! ## Paths within another one -/

theorem down_filter (here : Place) (segments : List String) :
    down here (segments.filter speaks) = down here segments := by
  induction segments generalizing here with
  | nil => rfl
  | cons segment rest inductionHypothesis =>
    rw [List.filter_cons]
    split
    · rename_i saying
      rw [down, down, inductionHypothesis, inductionHypothesis, inductionHypothesis]
    · rename_i silent
      rw [inductionHypothesis, down, if_pos (speaks_eq_false.mp (by simpa using silent))]

theorem down_names (here : Place) {names : List String} (areNames : ∀ name ∈ names, IsName name) :
    down here names = here ++ names := by
  induction names generalizing here with
  | nil => simp [down]
  | cons name rest inductionHypothesis =>
    obtain ⟨isName, areNames'⟩ := List.forall_mem_cons.mp areNames
    rw [down, if_neg (not_or.mpr ⟨isName.nonempty, isName.notHere⟩), if_neg isName.notParent,
      inductionHypothesis _ areNames', List.append_assoc, List.singleton_append]

/-- Without links, a path within another one leads down from where that one leads. -/
theorem lexical_within (tree : FileTree) (within : root.Within path rest) :
    tree.lexical path = tree.lexical root ++ rest := by
  have taken : (names path.text).filter speaks = (names root.text).filter speaks ++ rest :=
    within.steps
  rw [lexical, lexical, within.start_eq, ← down_filter, taken, down_append, down_filter,
    down_names _ within.areNames]

/-- Without links, a way leads where its segments say. -/
theorem Leads.place_of_unlinked (unlinked : ∀ place target,
      tree.get? place ≠ some (.link target)) {links : Nat} {here reached : Place}
    {segments : List String} (leads : tree.Leads links here segments left reached) :
    reached = down here segments := by
  induction leads with
  | nil => rfl
  | silent unsaying _ inductionHypothesis =>
    rw [inductionHypothesis, down, if_pos (speaks_eq_false.mp unsaying)]
  | parent _ inductionHypothesis => rw [inductionHypothesis, down, if_neg (by decide), if_pos rfl]
  | folder saying notParent _ _ _ inductionHypothesis =>
    rw [inductionHypothesis, down, if_neg (not_silent saying), if_neg notParent]
  | link _ _ _ found => exact absurd found (unlinked _ _)

theorem Reaches.eq_lexical (reaches : tree.Reaches path left place) (plain : tree.Plain) :
    place = tree.lexical path :=
  Leads.place_of_unlinked plain.unlinked reaches

/-- No name on a way that leads somewhere is too long. -/
theorem Leads.short {links : Nat} {here reached : Place} {segments : List String}
    (leads : tree.Leads links here segments left reached) :
    ∀ name ∈ segments.filter speaks, ¬ nameLimit < Text.byteLength name.toList := by
  induction leads with
  | nil => simp
  | silent unsaying _ inductionHypothesis =>
    rwa [List.filter_cons_of_neg (by simp [unsaying])]
  | parent _ inductionHypothesis =>
    rw [List.filter_cons_of_pos (by decide)]
    exact List.forall_mem_cons.mpr ⟨by decide, inductionHypothesis⟩
  | folder saying _ short _ _ inductionHypothesis =>
    rw [List.filter_cons_of_pos saying]
    exact List.forall_mem_cons.mpr ⟨short, inductionHypothesis⟩
  | link saying _ short _ _ inductionHypothesis =>
    rw [List.filter_append] at inductionHypothesis
    rw [List.filter_cons_of_pos saying]
    exact List.forall_mem_cons.mpr
      ⟨short, fun name listed => inductionHypothesis name (List.mem_append_right _ listed)⟩

/-- A path within one that leads to a folder leads to the folder further down, if its names are not
    too long. -/
theorem Reaches.of_within (reaches : tree.Reaches root left place)
    (within : root.Within path rest)
    (short : ∀ name ∈ rest, ¬ nameLimit < Text.byteLength name.toList)
    (isFolder : ∃ stamps entries, tree.get? (place ++ rest) = some (.folder stamps entries)) :
    tree.Reaches path left (place ++ rest) := by
  have same : root.Within (root.down rest) rest := Path.within_down within.areNames
  refine (reaches.down within.areNames short isFolder).within ⟨?_, ?_, fun _ => nofun⟩
  · rw [within.start, same.start]
  · rw [within.steps, same.steps, List.append_nil]

/-! ## Making folders -/

/-- What is put where nothing was shows at no place that is not on the way to it, if it has no
    entries. -/
theorem get?_insert_elsewhere {made : Node} {stamps : Stamps} {entries : List (String × Node)}
    (isFolder : tree.get? folder = some (.folder stamps entries))
    (free : tree.get? (folder ++ [name]) = none)
    (empty : ∀ next rest, made.get? (next :: rest) = none) {other : Place}
    (elsewhere : ¬ other <+: folder ++ [name]) :
    (tree.insert (folder ++ [name]) made).get? other = tree.get? other := by
  by_cases below : folder <+: other
  · obtain ⟨_ | ⟨next, rest⟩, rfl⟩ := below
    · simp at elsewhere
    rw [get?_insert_below made isFolder]
    split
    · rename_i same
      subst same
      cases rest with
      | nil => simp at elsewhere
      | cons deeper more =>
        have nothing : tree.get? (folder ++ next :: deeper :: more) = none := by
          rw [List.append_cons, get?_append, free]
          rfl
        rw [empty, nothing]
    · rfl
  · rw [insert_concat, get?, Node.get?_modify_other _ _ below fun above =>
      elsewhere (above.trans (List.prefix_append _ _))]
    rfl

/-- A tree that came of another one by making folders on the way down to a place. -/
structure Furnished (before : FileTree) (goal : Place) (tree : FileTree) : Prop where
  plain : tree.Plain
  now : tree.now = before.now
  keeps : before.Keeps tree
  elsewhere : ∀ other, ¬ other <+: goal → tree.get? other = before.get? other

theorem Furnished.refl (plain : tree.Plain) (goal : Place) : tree.Furnished goal tree :=
  ⟨plain, rfl, .refl tree, fun _ _ => rfl⟩

/-- What was where a folder stands now is a folder. -/
theorem Furnished.isFolder_of {before : FileTree} {goal other : Place} {node : Node}
    (furnished : before.Furnished goal tree)
    (stood : ∃ stamps entries, tree.get? other = some (.folder stamps entries))
    (found : before.get? other = some node) : node.isFolder = true := by
  obtain ⟨stamps, entries, stood⟩ := stood
  obtain ⟨node', found', same⟩ := furnished.keeps.exists_of_get? found
  rw [← same, ← Option.some.inj (stood.symm.trans found')]
  rfl

theorem Furnished.insert {before : FileTree} {goal : Place} {stamps : Stamps}
    {entries : List (String × Node)} (furnished : before.Furnished goal tree)
    (isFolder : tree.get? folder = some (.folder stamps entries))
    (free : tree.get? (folder ++ [name]) = none) (isName : ∀ next ∈ folder ++ [name], IsName next)
    (starts : folder ++ [name] <+: goal) :
    before.Furnished goal (tree.insert (folder ++ [name]) (.emptyFolder tree.now)) where
  plain := furnished.plain.insert (Node.plain_emptyFolder _) isName
  now := by rw [now_insert, furnished.now]
  keeps := furnished.keeps.trans (keeps_insert free fun _ _ => rfl)
  elsewhere other notAbove := by
    rw [get?_insert_elsewhere isFolder free (fun _ _ => rfl) fun above =>
      notAbove (above.trans starts), furnished.elsewhere other notAbove]

/-- Where a path goes down from a folder to nothing, there is a folder before the last name. -/
theorem exists_folder_of_resolve (reaches : tree.Reaches root left place)
    (isFolder : ∃ stamps entries, tree.get? place = some (.folder stamps entries))
    (within : root.Within path rest) (goesDown : rest ≠ []) {last : LastLink}
    {destination : Destination} (leads : tree.resolve last path = .ok destination)
    (free : destination.node? = none) :
    ∃ folder name stamps entries, destination.place = folder ++ [name] ∧ IsName name ∧
      tree.get? folder = some (.folder stamps entries) := by
  obtain ⟨front, later, whole, first, second, -⟩ := within.split
  have goesOn : later.all (· == "") = false := not_final_of_speaks (second ▸ goesDown)
  have out := comesOut_of_resolve leads
  rw [whole, within.start_eq] at out
  obtain ⟨left', passed, way, comesOut⟩ := out.exists_leads goesOn
  obtain ⟨-, rfl⟩ := (reaches.congr first).unique way
  refine comesOut.exists_folder isFolder (fun segment member => ?_) free
  have listed : segment ∈ names path.text := by
    rw [whole]
    exact List.mem_append_right _ member
  exact unslashed_of_mem_names listed

section

variable {before changed : FileTree} (reaches : before.Reaches root left place)
  (isFolder : ∃ stamps entries, before.get? place = some (.folder stamps entries))

include reaches isFolder

/-- To make missing folders by paths within another one makes folders on the way down. -/
theorem maintains_furnished {paths : List Path} (stops : root.Stops rest paths) :
    (makeMissing paths).Maintains (before.Furnished (place ++ rest)) := by
  obtain ⟨_, _, home⟩ := isFolder
  refine maintains_makeMissing stops ?_ ?_
  · rintro path front name tree changed within starts furnished made
    obtain ⟨reached, slash, leads, rfl⟩ := makeFolder_eq_ok made
    have reaches' := reaches.keeps furnished.keeps
    obtain ⟨folder, last, _, _, same, -, at_folder⟩ := exists_folder_of_resolve reaches'
      (furnished.keeps.folders _ _ _ home) within (by simp) leads rfl
    have at_goal : reached = place ++ (front ++ [name]) := by
      rw [reaches'.eq_lexical furnished.plain, ← lexical_within tree within]
      exact furnished.plain.resolve_place leads
    have areNames := furnished.plain.isName_place leads
    obtain rfl : reached = folder ++ [last] := same
    refine furnished.insert at_folder (resolve_node? leads).symm areNames ?_
    rw [at_goal]
    exact (List.prefix_append_right_inj place).mpr starts
  · rintro path tree within furnished
    exact ⟨left, place, (reaches.keeps furnished.keeps).within within,
      furnished.keeps.folders _ _ _ home⟩

theorem furnished_makeFolders (plain : before.Plain) (within : root.Within path rest) :
    before.Furnished (place ++ rest) (makeFolders path before).2 :=
  maintains_furnished reaches isFolder within.stops before (.refl plain _)

/-- The path of a folder that was made leads to it. -/
theorem opens_of_makeFolder (keeps : before.Keeps tree) (within : root.Within path rest)
    (goesDown : rest ≠ []) (made : tree.makeFolder path = .ok changed) :
    ∃ goal, changed.Opens path goal := by
  obtain ⟨reached, slash, leads, rfl⟩ := makeFolder_eq_ok made
  obtain ⟨_, _, home⟩ := isFolder
  obtain ⟨folder, last, _, _, same, -, at_folder⟩ := exists_folder_of_resolve
    (reaches.keeps keeps) (keeps.folders _ _ _ home) within goesDown leads rfl
  obtain rfl : reached = folder ++ [last] := same
  have free : tree.get? (folder ++ [last]) = none := (resolve_node? leads).symm
  have keeps' : tree.Keeps (tree.insert (folder ++ [last]) (.emptyFolder tree.now)) :=
    keeps_insert free fun _ _ => rfl
  have found : (tree.insert (folder ++ [last]) (.emptyFolder tree.now)).get? (folder ++ [last]) =
      some (.emptyFolder tree.now) := get?_insert_self _ at_folder
  obtain ⟨left', way⟩ := (comesOut_of_resolve leads).exists_leads_keeps keeps' found
  refine ⟨_, ⟨left', ?_⟩, _, _, found⟩
  rw [Reaches, keeps'.working]
  exact way

/-- Where a folder was made by a path within another one, the path leads to it. -/
theorem opens_of_makeFolders (plain : before.Plain) (within : root.Within path rest)
    (makes : makeFolders path before = (.ok (), changed)) : changed.Opens path (place ++ rest) := by
  have furnished := furnished_makeFolders reaches isFolder plain within
  rw [makes] at furnished
  have reaches' := reaches.keeps furnished.keeps
  obtain ⟨_, _, home⟩ := isFolder
  have isFolder' := furnished.keeps.folders _ _ _ home
  have there {tree changed : FileTree} {error : FileError}
      (done : unlessFolder path error tree = (.ok (), changed)) :
      ∃ goal, changed.Opens path goal := by
    obtain ⟨left', goal, led, at_goal⟩ := Enclosed.reaches_of_unlessFolder done
    exact ⟨goal, ⟨left', led⟩, at_goal⟩
  have opens : ∃ goal, changed.Opens path goal := by
    by_cases somewhere : path.components = []
    · have same := within.steps
      rw [Path.steps_eq_nil somewhere] at same
      obtain rfl := (List.append_eq_nil_iff.mp same.symm).2
      exact ⟨place, ⟨left, reaches'.within within⟩, isFolder'⟩
    cases within.stops with
    | here same => exact ⟨place, ⟨left, reaches'.within same⟩, isFolder'⟩
    | down within' _ later =>
      unfold makeFolders makeMissing at makes
      rw [if_neg somewhere] at makes
      split at makes
      · rename_i made
        obtain ⟨-, rfl⟩ := Prod.mk.inj makes
        exact opens_of_makeFolder reaches ⟨_, _, home⟩ (.refl before) within' (by simp) made
      · have middle := maintains_furnished reaches ⟨_, _, home⟩ later before (.refl plain _)
        split at makes
        · cases makes
        · rename_i makes'
          rw [makes'] at middle
          split at makes
          · rename_i made
            obtain ⟨-, rfl⟩ := Prod.mk.inj makes
            exact opens_of_makeFolder reaches ⟨_, _, home⟩ middle.keeps within' (by simp) made
          · exact there makes
      · exact there makes
  obtain ⟨goal, ⟨left', led⟩, at_goal⟩ := opens
  have same : goal = place ++ rest := by
    rw [led.eq_lexical furnished.plain, lexical_within changed within,
      ← reaches'.eq_lexical furnished.plain]
  exact same ▸ ⟨⟨left', led⟩, at_goal⟩

end

end FileTree

end FileQuery

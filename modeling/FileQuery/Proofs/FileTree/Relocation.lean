import FileQuery.Proofs.Confinement.Surroundings
import FileQuery.Proofs.FileTree.NewFolders

/-!
# Taking entries out of a folder and into another one

To take entries out of a folder one after another is to take all of them out at once: which entries
are gone matters, and not in which order they went. The folder was touched, and every other node is
as it was, unless it is one of these entries or below one.
-/

namespace FileQuery

/-- A folder after the entries with some names were taken out of it. -/
def Node.without (now : Instant) (names : List String) : Node → Node
  | folder stamps entries => folder (stamps.touched now) (entries.filter (·.1 ∉ names))
  | other => other

/-- A tree after the entries with some names were taken out of the folder at a place. -/
def FileTree.without (tree : FileTree) (place : Place) (names : List String) : FileTree :=
  if names = [] then tree else tree.edit place (.without tree.now names)

namespace Node

variable {names : List String} {name : String} {now : Instant}

/-- To take out one more entry is to take out all of them. -/
theorem eraseEntry_without (now : Instant) (names : List String) (name : String) (node : Node) :
    (node.without now names).eraseEntry now name = node.without now (names ++ [name]) := by
  cases node with
  | file | link => rfl
  | folder stamps entries =>
    have kept : ((entries.filter (·.1 ∉ names)).filter (·.1 != name)) =
        entries.filter (·.1 ∉ names ++ [name]) := by
      rw [List.filter_filter]
      refine List.filter_congr fun entry _ => ?_
      simp [and_comm, bne, Bool.beq_eq_decide_eq]
    simp only [without, eraseEntry, drop, kept]
    rfl

theorem eraseEntry_eq_without (now : Instant) (name : String) :
    eraseEntry now name = without now [name] := by
  funext node
  cases node with
  | file | link => rfl
  | folder stamps entries =>
    have kept : entries.filter (·.1 != name) = entries.filter (·.1 ∉ [name]) :=
      List.filter_congr fun entry _ => by simp [bne, Bool.beq_eq_decide_eq]
    simp only [without, eraseEntry, drop, kept]

theorem lookup_filter_notMem (names : List String) (name : String)
    (entries : List (String × Node)) : (entries.filter (·.1 ∉ names)).lookup name =
      if name ∈ names then none else entries.lookup name := by
  induction entries with
  | nil => simp
  | cons entry rest inductionHypothesis =>
    obtain ⟨first, found⟩ := entry
    rw [List.filter_cons]
    by_cases gone : first ∈ names
    · rw [if_neg (by simpa using gone), inductionHypothesis]
      by_cases same : name = first
      · simp [same, gone]
      · have differs : (name == first) = false := by simpa using same
        simp [List.lookup_cons, differs]
    · rw [if_pos (by simpa using gone), List.lookup_cons, List.lookup_cons, inductionHypothesis]
      by_cases same : name = first
      · simp [same, gone]
      · have differs : (name == first) = false := by simpa using same
        simp [differs]

/-- Below what is left, everything is as it was. -/
theorem get?_without (node : Node) (names : List String) (name : String) (rest : Place) :
    (node.without now names).get? (name :: rest) =
      if name ∈ names then none else node.get? (name :: rest) := by
  cases node with
  | file | link => simp [without, get?]
  | folder stamps entries =>
    rw [without, get?, lookup_filter_notMem]
    split <;> rfl

theorem shell_without (node : Node) : (node.without now names).shell = node.shell.touch now := by
  cases node <;> rfl

/-- What is orderly throughout stays so when entries are taken out. -/
theorem Throughout.without {allowed : String → Prop} {node : Node}
    (throughout : node.Throughout allowed) (now : Instant) (names : List String) :
    (node.without now names).Throughout allowed := by
  cases node with
  | file | link => exact throughout
  | folder stamps entries =>
    intro place found reached
    cases place with
    | nil =>
      obtain rfl := Option.some.inj reached
      obtain ⟨areNames, distinct⟩ := throughout [] _ rfl
      have fewer : ((entries.filter (·.1 ∉ names)).map (·.1)).Sublist (entries.map (·.1)) :=
        List.filter_sublist.map _
      exact ⟨fun other member => areNames other (fewer.subset member), distinct.sublist fewer⟩
    | cons other rest =>
      rw [get?_without] at reached
      split at reached
      · contradiction
      · exact throughout (other :: rest) found reached

end Node

namespace FileTree

variable {tree : FileTree} {place other : Place} {names : List String} {name : String}
  {stamps : Stamps} {entries : List (String × Node)}

theorem without_nil (tree : FileTree) (place : Place) : tree.without place [] = tree := by
  simp [without]

/-- What is taken out one after another is taken out at once. -/
theorem erase_without (tree : FileTree) (place : Place) (names : List String) (name : String) :
    (tree.without place names).erase (place ++ [name]) = tree.without place (names ++ [name]) := by
  have erased (tree : FileTree) : tree.erase (place ++ [name]) =
      tree.edit place (.eraseEntry tree.now name) := by
    simp [erase, splitPlace, edit]
  rw [erased]
  by_cases none : names = []
  · subst none
    simp [without, Node.eraseEntry_eq_without]
  · rw [without, if_neg none, without, if_neg (by simp)]
    have both : Node.eraseEntry tree.now name ∘ Node.without tree.now names =
        Node.without tree.now (names ++ [name]) :=
      funext (Node.eraseEntry_without tree.now names name)
    simp only [edit, Node.modify_modify, both]

/-- An entry that is taken out alone. -/
theorem erase_eq_without (tree : FileTree) (place : Place) (name : String) :
    tree.erase (place ++ [name]) = tree.without place [name] := by
  have same := erase_without tree place [] name
  rwa [without_nil] at same

@[simp] theorem now_without : (tree.without place names).now = tree.now := by
  unfold without
  split <;> rfl

@[simp] theorem working_without : (tree.without place names).working = tree.working := by
  unfold without
  split <;> rfl

/-- What is around the folder stays as it is. -/
theorem around_without (tree : FileTree) (place : Place) (names : List String) :
    (tree.without place names).around place = tree.around place := by
  unfold without
  split
  · rfl
  · have same := tree.around_edit place [] (.without tree.now names)
    rwa [List.append_nil] at same

/-- The entries are gone with all that was below them, and what was below the others is there. -/
theorem get?_without (tree : FileTree) (place : Place) (names : List String) (name : String)
    (below : Place) : (tree.without place names).get? (place ++ name :: below) =
      if name ∈ names then none else tree.get? (place ++ name :: below) := by
  unfold without
  split
  · rename_i none
    simp [none]
  · rw [get?, edit, Node.get?_modify_below, get?, Node.get?_append]
    cases tree.root.get? place with
    | none => simp
    | some node => exact node.get?_without names name below

/-- The folder was touched if entries were taken out of it. -/
theorem shell?_without_self (names : List String) : (tree.without place names).shell? place =
    if names = [] then tree.shell? place else (tree.shell? place).map (.touch tree.now) := by
  unfold without
  split
  · rfl
  · rw [shell?, get?, edit, Node.get?_modify_self, Option.map_map, shell?, Option.map_map, get?]
    congr 1
    funext node
    exact node.shell_without

/-- Elsewhere everything is as it was. -/
theorem shell?_without_other (differs : other ≠ place)
    (left : ∀ name ∈ names, ¬ place ++ [name] <+: other) :
    (tree.without place names).shell? other = tree.shell? other := by
  by_cases below : place <+: other
  · obtain ⟨rest, rfl⟩ := below
    cases rest with
    | nil => simp at differs
    | cons name rest =>
      have stays : name ∉ names := fun member => left name member ⟨rest, by simp⟩
      rw [shell?, get?_without, if_neg stays, shell?]
  · rw [← shell?_around below, around_without, shell?_around below]

/-- Names stay names when entries are taken out. -/
theorem Named.without (named : tree.Named) (place : Place) (names : List String) :
    (tree.without place names).Named := by
  unfold FileTree.without
  split
  · exact named
  · rw [named_iff_throughout] at named ⊢
    exact named.modify fun found reached => (named.below reached).without _ _

/-- In a tree that lists its entries in another order the same is left, in that order. -/
theorem Alike.without {later : FileTree} (alike : tree.Alike later) (place : Place)
    (names : List String) : (tree.without place names).Alike (later.without place names) := by
  refine ⟨by simp [alike.working], by simp [alike.now], fun other => ?_⟩
  by_cases same : other = place
  · subst same
    rw [shell?_without_self, shell?_without_self, alike.now, alike.shells]
  by_cases left : ∀ name ∈ names, ¬ place ++ [name] <+: other
  · rw [shell?_without_other same left, shell?_without_other same left, alike.shells]
  · push Not at left
    obtain ⟨name, member, below, rfl⟩ := left
    rw [List.append_assoc, List.singleton_append, shell?, shell?, get?_without, get?_without,
      if_pos member, if_pos member]

/-! ## Ways without links -/

end FileTree

/-!
## Moving entries from folder to folder

An entry of a folder that is renamed into another folder is there afterwards as it was, with all
that is below it, and no longer in the first one. Neither folder may be in what is moved, nor in
what is replaced: then the entries that are moved later, and their goals, are not changed by it, so
entries can be moved one after another in any order.
-/

/-- What begins with an entry of one folder is not below an entry of another folder, if neither
    folder is in the entry of the other one. -/
theorem not_prefix_below {first second below : Place} {name other : String}
    (differs : first ≠ second) (outside : ¬ first ++ [name] <+: second)
    (outside' : ¬ second ++ [other] <+: first) :
    ¬ first ++ [name] <+: second ++ other :: below := by
  intro starts
  have starts' : second ++ [other] <+: second ++ other :: below :=
    (List.prefix_append_right_inj second).mpr (by simp)
  rcases List.prefix_or_prefix_of_prefix starts starts' with within | within
  · rcases List.prefix_concat_iff.mp within with same | within
    · exact differs (List.append_inj' same rfl).1
    · exact outside within
  · rcases List.prefix_concat_iff.mp within with same | within
    · exact differs (List.append_inj' same rfl).1.symm
    · exact outside' within

theorem not_prefix_sibling {place below : Place} {name other : String} (differs : name ≠ other) :
    ¬ place ++ [name] <+: place ++ other :: below := by
  rw [List.prefix_append_right_inj]
  intro starts
  exact differs (List.cons_prefix_cons.mp starts).1

theorem not_prefix_folder (place below : Place) (name : String) :
    ¬ place ++ name :: below <+: place := by
  intro starts
  have long := starts.length_le
  rw [List.length_append, List.length_cons] at long
  omega

namespace FileTree

variable {tree before : FileTree} {source goal other : Place} {name : String}
  {names : List String} {node : Node} {stamps : Stamps} {entries : List (String × Node)}

/-- What is put into a folder does not show elsewhere, in the folder or outside. -/
theorem get?_insert_apart {place : Place} (made : Node)
    (isFolder : tree.get? place = some (.folder stamps entries)) (notAbove : ¬ other <+: place)
    (notBelow : ¬ place ++ [name] <+: other) :
    (tree.insert (place ++ [name]) made).get? other = tree.get? other := by
  by_cases below : place <+: other
  · obtain ⟨_ | ⟨next, rest⟩, rfl⟩ := below
    · simp at notAbove
    have differs : next ≠ name := by
      rintro rfl
      exact notBelow ⟨rest, by simp⟩
    rw [get?_insert_below made isFolder, if_neg differs]
  · rw [insert_concat, get?, Node.get?_modify_other _ _ below notAbove]
    rfl

theorem shell?_insert_apart {place : Place} (made : Node)
    (isFolder : tree.get? place = some (.folder stamps entries)) (differs : other ≠ place)
    (notBelow : ¬ place ++ [name] <+: other) :
    (tree.insert (place ++ [name]) made).shell? other = tree.shell? other := by
  by_cases below : place <+: other
  · have notAbove : ¬ other <+: place := fun above =>
      differs (above.eq_of_length_le below.length_le)
    rw [shell?, get?_insert_apart made isFolder notAbove notBelow, shell?]
  · exact shell?_insert_outside made below

/-- What is taken out of a folder does not show elsewhere, in the folder or outside. -/
theorem get?_without_apart {place : Place} (notAbove : ¬ other <+: place)
    (left : ∀ name ∈ names, ¬ place ++ [name] <+: other) :
    (tree.without place names).get? other = tree.get? other := by
  by_cases below : place <+: other
  · obtain ⟨_ | ⟨next, rest⟩, rfl⟩ := below
    · simp at notAbove
    have stays : next ∉ names := fun member => left next member ⟨rest, by simp⟩
    rw [get?_without, if_neg stays]
  · unfold without
    split
    · rfl
    · rw [edit, get?, Node.get?_modify_other _ _ below notAbove]
      rfl

/-- Neither of two folders is in the entry of the other one that has a name. -/
structure Clears (source goal : Place) (name : String) : Prop where
  differs : goal ≠ source
  leaves : ¬ source ++ [name] <+: goal
  enters : ¬ goal ++ [name] <+: source

/-- What is in entries of one name is apart if the entries are. -/
theorem Clears.below (clears : Clears source goal name) (next : String) :
    Clears (source ++ [name]) (goal ++ [name]) next := by
  have outside {first second : Place} (differs : first ≠ second)
      (outside : ¬ first ++ [name] <+: second) :
      ¬ first ++ [name] ++ [next] <+: second ++ [name] := by
    intro starts
    rcases List.prefix_concat_iff.mp ((List.prefix_append _ _).trans starts) with same | within
    · exact differs (List.append_inj' same rfl).1
    · exact outside within
  exact ⟨fun same => clears.differs (List.append_inj' same rfl).1,
    outside clears.differs.symm clears.leaves, outside clears.differs clears.enters⟩

/-- An entry that was moved from one folder to another one. -/
structure Moved (before : FileTree) (source goal : Place) (name : String) (tree : FileTree) :
    Prop where
  working : tree.working = before.working
  now : tree.now = before.now
  arrived : ∀ below, tree.get? (goal ++ name :: below) = before.get? (source ++ name :: below)
  gone : ∀ below, tree.get? (source ++ name :: below) = none
  elsewhere : ∀ other, ¬ other <+: source → ¬ other <+: goal → ¬ source ++ [name] <+: other →
    ¬ goal ++ [name] <+: other → tree.get? other = before.get? other
  folders : ∀ other, other <+: source ∨ other <+: goal → tree.shell? other =
    if other = source ∨ other = goal then (before.shell? other).map (.touch before.now)
    else before.shell? other

/-- What is taken out of one folder and put into another one was moved. -/
theorem moved_insert_erase (clears : Clears source goal name)
    (isFolder : ∃ stamps entries, tree.get? source = some (.folder stamps entries))
    (isFolder' : ∃ stamps entries, tree.get? goal = some (.folder stamps entries))
    (found : tree.get? (source ++ [name]) = some node) :
    tree.Moved source goal name ((tree.erase (source ++ [name])).insert (goal ++ [name]) node) := by
  rw [erase_eq_without]
  obtain ⟨_, _, isFolder⟩ := isFolder
  obtain ⟨_, _, isFolder'⟩ := isFolder'
  have left {other : Place} (apart : ¬ source ++ [name] <+: other) :
      ∀ next ∈ [name], ¬ source ++ [next] <+: other := List.forall_mem_singleton.mpr apart
  have goal_stays : (tree.without source [name]).shell? goal = tree.shell? goal :=
    shell?_without_other clears.differs (left clears.leaves)
  obtain ⟨_, at_goal⟩ := exists_folder_of_shell? (goal_stays.trans (shell?_folder isFolder'))
  refine ⟨?_, ?_, fun below => ?_, fun below => ?_,
    fun other notAbove notAbove' apart apart' => ?_, fun other above => ?_⟩
  · rw [insert_concat]
    exact working_without
  · rw [now_insert, now_without]
  · rw [get?_insert_below node at_goal, if_pos rfl, List.append_cons, get?, Node.get?_append,
      ← get?, found]
    rfl
  · have notAbove : ¬ source ++ name :: below <+: goal := fun above =>
      clears.leaves (.trans ((List.prefix_append_right_inj source).mpr (by simp)) above)
    rw [get?_insert_apart node at_goal notAbove
      (not_prefix_below clears.differs clears.enters clears.leaves), get?_without,
      if_pos (List.mem_singleton.mpr rfl)]
  · rw [get?_insert_apart node at_goal notAbove' apart', get?_without_apart notAbove (left apart)]
  · by_cases same' : other = goal
    · subst same'
      rw [shell?_insert_folder, now_without, goal_stays, if_pos (.inr rfl)]
    have notBelow' : ¬ goal ++ [name] <+: other := by
      intro below
      rcases above with above | above
      · exact clears.enters (below.trans above)
      · exact not_prefix_folder goal [] name (below.trans above)
    rw [shell?_insert_apart node at_goal same' notBelow']
    by_cases same : other = source
    · subst same
      rw [shell?_without_self, if_neg (by simp), if_pos (.inl rfl)]
    · have notBelow : ¬ source ++ [name] <+: other := by
        intro below
        rcases above with above | above
        · exact not_prefix_folder source [] name (below.trans above)
        · exact clears.leaves (below.trans above)
      rw [shell?_without_other same (left notBelow), if_neg (not_or.mpr ⟨same, same'⟩)]

/-- A tree after the entries with some names were moved from one folder to another one. All that
    was in them is where they were moved to. Nothing else has changed but that both folders were
    touched, if something was moved at all. -/
structure Relocated (before : FileTree) (source goal : Place) (names : List String)
    (tree : FileTree) : Prop where
  working : tree.working = before.working
  now : tree.now = before.now
  arrived : ∀ name ∈ names, ∀ below,
    tree.get? (goal ++ name :: below) = before.get? (source ++ name :: below)
  gone : goal ≠ source → ∀ name ∈ names, ∀ below, tree.get? (source ++ name :: below) = none
  elsewhere : ∀ other, ¬ other <+: source → ¬ other <+: goal →
    (∀ name ∈ names, ¬ source ++ [name] <+: other ∧ ¬ goal ++ [name] <+: other) →
    tree.get? other = before.get? other
  folders : ∀ other, other <+: source ∨ other <+: goal → tree.shell? other =
    if goal ≠ source ∧ names ≠ [] ∧ (other = source ∨ other = goal) then
      (before.shell? other).map (.touch before.now)
    else before.shell? other

namespace Relocated

theorem refl (before : FileTree) (source goal : Place) :
    before.Relocated source goal [] before where
  working := rfl
  now := rfl
  arrived := by simp
  gone := by simp
  elsewhere _ _ _ _ := rfl
  folders := by simp

/-- To move entries within their folder changes nothing. -/
theorem within (relocated : before.Relocated source source names tree) (name : String) :
    before.Relocated source source (names ++ [name]) tree where
  working := relocated.working
  now := relocated.now
  arrived other member below := by
    by_cases old : other ∈ names
    · exact relocated.arrived other old below
    · refine relocated.elsewhere _ (not_prefix_folder _ _ _) (not_prefix_folder _ _ _) ?_
      intro next listed
      have differs : next ≠ other := fun same => old (same ▸ listed)
      exact ⟨not_prefix_sibling differs, not_prefix_sibling differs⟩
  gone differs := absurd rfl differs
  elsewhere other notAbove notAbove' apart :=
    relocated.elsewhere other notAbove notAbove' fun next listed =>
      apart next (List.mem_append_left _ listed)
  folders other above := by
    rw [relocated.folders other above]
    simp

/-- A folder stays a folder while entries are moved. -/
theorem isFolder (relocated : before.Relocated source goal names tree)
    (above : other <+: source ∨ other <+: goal)
    (isFolder : ∃ stamps entries, before.get? other = some (.folder stamps entries)) :
    ∃ stamps entries, tree.get? other = some (.folder stamps entries) := by
  obtain ⟨stamps, entries, isFolder⟩ := isFolder
  have shows := relocated.folders other above
  rw [shell?_folder isFolder] at shows
  split at shows
  · exact ⟨_, exists_folder_of_shell? shows⟩
  · exact ⟨_, exists_folder_of_shell? shows⟩

/-- What is still to be moved is as it was, and so is what it replaces. -/
theorem untouched (relocated : before.Relocated source goal names tree)
    (clear : ∀ next ∈ names, Clears source goal next) (clears : Clears source goal name)
    (fresh : name ∉ names) (below : Place) :
    tree.get? (source ++ name :: below) = before.get? (source ++ name :: below) ∧
      tree.get? (goal ++ name :: below) = before.get? (goal ++ name :: below) := by
  have entry (place : Place) : place ++ [name] <+: place ++ name :: below :=
    (List.prefix_append_right_inj place).mpr (by simp)
  have apart {next : String} (listed : next ∈ names) : next ≠ name :=
    fun same => fresh (same ▸ listed)
  constructor
  · refine relocated.elsewhere _ (not_prefix_folder _ _ _)
      (fun above => clears.leaves ((entry source).trans above)) fun next listed => ?_
    exact ⟨not_prefix_sibling (apart listed), not_prefix_below clears.differs
      (clear next listed).enters clears.leaves⟩
  · refine relocated.elsewhere _ (fun above => clears.enters ((entry goal).trans above))
      (not_prefix_folder _ _ _) fun next listed => ?_
    exact ⟨not_prefix_below clears.differs.symm (clear next listed).leaves clears.enters,
      not_prefix_sibling (apart listed)⟩

/-- One more entry is moved. -/
theorem step {moved : FileTree} (relocated : before.Relocated source goal names tree)
    (clear : ∀ next ∈ names, Clears source goal next) (clears : Clears source goal name)
    (fresh : name ∉ names) (moves : tree.Moved source goal name moved) :
    before.Relocated source goal (names ++ [name]) moved where
  working := moves.working.trans relocated.working
  now := moves.now.trans relocated.now
  arrived other member below := by
    rcases List.mem_append.mp member with old | new
    · have differs : name ≠ other := fun same => fresh (same ▸ old)
      have elsewhere := moves.elsewhere (goal ++ other :: below)
        (fun above => (clear other old).enters
          (((List.prefix_append_right_inj goal).mpr (by simp)).trans above))
        (not_prefix_folder _ _ _)
        (not_prefix_below clears.differs.symm clears.leaves (clear other old).enters)
        (not_prefix_sibling differs)
      rw [elsewhere, relocated.arrived other old below]
    · obtain rfl := List.mem_singleton.mp new
      rw [moves.arrived, (relocated.untouched clear clears fresh below).1]
  gone differs other member below := by
    rcases List.mem_append.mp member with old | new
    · have differs' : name ≠ other := fun same => fresh (same ▸ old)
      have elsewhere := moves.elsewhere (source ++ other :: below) (not_prefix_folder _ _ _)
        (fun above => (clear other old).leaves
          (((List.prefix_append_right_inj source).mpr (by simp)).trans above))
        (not_prefix_sibling differs')
        (not_prefix_below clears.differs clears.enters (clear other old).leaves)
      rw [elsewhere, relocated.gone differs other old below]
    · obtain rfl := List.mem_singleton.mp new
      exact moves.gone below
  elsewhere other notAbove notAbove' apart := by
    obtain ⟨apart_source, apart_goal⟩ := apart name (by simp)
    rw [moves.elsewhere other notAbove notAbove' apart_source apart_goal]
    exact relocated.elsewhere other notAbove notAbove' fun next listed =>
      apart next (List.mem_append_left _ listed)
  folders other above := by
    rw [moves.folders other above, relocated.folders other above, relocated.now]
    by_cases ends : other = source ∨ other = goal
    · have after : goal ≠ source ∧ names ++ [name] ≠ [] ∧ (other = source ∨ other = goal) :=
        ⟨clears.differs, by simp, ends⟩
      rw [if_pos ends, if_pos after]
      split
      · rw [Option.map_map]
        congr 1
        funext node
        exact node.touch_touch _
      · rfl
    · rw [if_neg ends, if_neg (fun both => ends both.2.2), if_neg (fun both => ends both.2.2)]

/-- Where the same entries were moved in trees that differ in the order of their entries, what has
    come of the trees differs in this order alone. -/
theorem alike {before' tree' : FileTree} {names' : List String}
    (relocated : before.Relocated source goal names tree)
    (relocated' : before'.Relocated source goal names' tree') (alike : before.Alike before')
    (same : names'.Perm names) : tree.Alike tree' where
  working := by rw [relocated.working, relocated'.working, alike.working]
  now := by rw [relocated.now, relocated'.now, alike.now]
  shells other := by
    have nothing : names' ≠ [] ↔ names ≠ [] := by
      rw [not_iff_not]
      exact ⟨fun empty => (empty ▸ same).nil_eq.symm, fun empty => (empty ▸ same).eq_nil⟩
    by_cases above : other <+: source ∨ other <+: goal
    · rw [relocated.folders other above, relocated'.folders other above, alike.shells, alike.now]
      simp only [nothing]
    by_cases arrives : ∃ name ∈ names, goal ++ [name] <+: other
    · obtain ⟨name, listed, below, rfl⟩ := arrives
      rw [List.append_assoc, List.singleton_append, shell?, shell?,
        relocated.arrived name listed below,
        relocated'.arrived name (same.mem_iff.mpr listed) below]
      exact alike.shells _
    by_cases leaves : ∃ name ∈ names, source ++ [name] <+: other
    · have differs : goal ≠ source := by
        rintro rfl
        exact arrives leaves
      obtain ⟨name, listed, below, rfl⟩ := leaves
      rw [List.append_assoc, List.singleton_append, shell?, shell?,
        relocated.gone differs name listed below,
        relocated'.gone differs name (same.mem_iff.mpr listed) below]
    obtain ⟨notAbove, notAbove'⟩ := not_or.mp above
    have apart (name : String) (listed : name ∈ names) :
        ¬ source ++ [name] <+: other ∧ ¬ goal ++ [name] <+: other :=
      ⟨fun below => leaves ⟨name, listed, below⟩, fun below => arrives ⟨name, listed, below⟩⟩
    rw [shell?, shell?, relocated.elsewhere other notAbove notAbove' apart,
      relocated'.elsewhere other notAbove notAbove' fun name listed =>
        apart name (same.mem_iff.mp listed)]
    exact alike.shells other

end Relocated

end FileTree

end FileQuery

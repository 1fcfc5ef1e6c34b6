import FileQuery.Proofs.Confinement.Surroundings
import FileQuery.Proofs.Execution.Accounting

/-!
# Other orders of entries

Where two trees differ only in the order in which their folders list their entries, a way leads to
the same folder in both, and the folders that a path finds have the same entries.
-/

namespace FileQuery.FileTree

variable {tree other : FileTree} {path : Path} {place elsewhere : Place} {left : Nat} {node : Node}
  {stamps : Stamps} {entries : List (String × Node)}

/-- A path that leads to a folder finds it, unless it is no path at all. -/
theorem find_of_reaches (reaches : tree.Reaches path left place)
    (isFolder : tree.get? place = some (.folder stamps entries))
    (check : checkPath path.text = .ok ()) : tree.find path = .ok (.folder stamps entries) := by
  obtain ⟨reached, found, slash, comesOut, same⟩ :=
    Leads.exists_destination reaches isFolder .follow
  obtain rfl := same rfl
  have leads : tree.resolve .follow path = .ok ⟨reached, some found, slash⟩ := by
    rw [resolve, check]
    exact comesOut
  obtain rfl : found = .folder stamps entries :=
    Option.some.inj ((resolve_node? leads).trans isFolder)
  rw [find, locate, leads]
  rfl

/-- A path that leads somewhere is a path. -/
theorem checkPath_of_resolve {last : LastLink} {destination : Destination}
    (leads : tree.resolve last path = .ok destination) : checkPath path.text = .ok () := by
  unfold resolve at leads
  split at leads
  · contradiction
  · assumption

/-- A path that finds something is a path. -/
theorem checkPath_of_find (found : tree.find path = .ok node) : checkPath path.text = .ok () := by
  obtain ⟨place, slash, leads, -⟩ := find_eq_ok found
  exact checkPath_of_resolve leads

/-- A folder that is found is found as it is later, if the path still leads there. -/
theorem find_folder_of_find (found : tree.find path = .ok node)
    (reaches : other.Reaches path left place)
    (isFolder : other.get? place = some (.folder stamps entries)) :
    other.find path = .ok (.folder stamps entries) :=
  find_of_reaches reaches isFolder (checkPath_of_find found)

/-- In a tree with names, what is listed under a name in a folder is there. -/
theorem Named.mem_entries_iff (named : tree.Named)
    (isFolder : tree.get? place = some (.folder stamps entries)) {name : String} :
    (name, node) ∈ entries ↔ tree.get? (place ++ [name]) = some node := by
  have lookup : tree.get? (place ++ [name]) = entries.lookup name := by
    rw [get?_append, isFolder]
    cases found : entries.lookup name <;> simp [Node.get?, found]
  rw [lookup]
  exact ⟨lookup_of_mem (named place _ isFolder).2, mem_of_lookup⟩

/-- Below a folder into which something is put, this is under its name, and the other entries are
    as they were. -/
theorem get?_insert_below {name : String} (made : Node)
    (isFolder : tree.get? place = some (.folder stamps entries)) (next : String) (rest : Place) :
    (tree.insert (place ++ [name]) made).get? (place ++ next :: rest) =
      if next = name then made.get? rest else tree.get? (place ++ next :: rest) := by
  rw [insert_concat, get?, Node.get?_modify_below, ← get?, isFolder, get?_append, isFolder]
  simp only [Option.bind_some, Node.insertEntry, Node.get?]
  by_cases same : next = name
  · subst same
    rw [if_pos rfl, Node.lookup_put_self]
    rfl
  · rw [if_neg same, Node.lookup_put_other _ _ same]

/-- Nothing is below what is no folder, and nothing is put there. -/
theorem get?_insert_below_notFolder {name : String} (made : Node)
    (notFolder : ∀ stamps entries, tree.get? place ≠ some (.folder stamps entries))
    (next : String) (rest : Place) :
    (tree.insert (place ++ [name]) made).get? (place ++ next :: rest) = none := by
  rw [insert_concat, get?, Node.get?_modify_below, ← get?]
  cases found : tree.get? place with
  | none => rfl
  | some node =>
    cases node with
    | file | link => rfl
    | folder stamps entries => exact absurd found (notFolder stamps entries)

/-- What is put into a folder does not show outside the folder. -/
theorem shell?_insert_outside {name : String} (made : Node) (outside : ¬ place <+: elsewhere) :
    (tree.insert (place ++ [name]) made).shell? elsewhere = tree.shell? elsewhere := by
  have same : (tree.insert (place ++ [name]) made).around place = tree.around place := by
    rw [insert_concat]
    have edited := tree.around_edit place [] (.insertEntry tree.now name made)
    rwa [List.append_nil] at edited
  rw [← shell?_around outside, same, shell?_around outside]

/-- What is at a place is still there in a tree that keeps it, and is a folder if it was one. -/
theorem Keeps.exists_of_get? (keeps : tree.Keeps other) (found : tree.get? place = some node) :
    ∃ node', other.get? place = some node' ∧ node'.isFolder = node.isFolder := by
  cases node with
  | file =>
    obtain ⟨_, _, _, found'⟩ := keeps.files _ _ _ _ found
    exact ⟨_, found', rfl⟩
  | folder =>
    obtain ⟨_, _, found'⟩ := keeps.folders _ _ _ found
    exact ⟨_, found', rfl⟩
  | link => exact ⟨_, keeps.links _ _ found, rfl⟩

namespace Alike

/-- What is at a place in one tree is there in the other, as far as its shell goes. -/
theorem exists_of_get? (alike : tree.Alike other) (found : tree.get? place = some node) :
    ∃ node', other.get? place = some node' ∧ node'.shell = node.shell := by
  have shells := alike.shells place
  rw [shell?, shell?, found] at shells
  exact Option.map_eq_some_iff.mp shells

/-- What is listed in a folder of one tree is listed in the other, as far as its shell goes. -/
theorem exists_entry (alike : tree.Alike other) (named : tree.Named) (named' : other.Named)
    {stamps' : Stamps} {entries' : List (String × Node)}
    (isFolder : tree.get? place = some (.folder stamps entries))
    (isFolder' : other.get? place = some (.folder stamps' entries')) {name : String}
    (listed : (name, node) ∈ entries) :
    ∃ node', (name, node') ∈ entries' ∧ node'.shell = node.shell := by
  obtain ⟨node', found', same⟩ :=
    alike.exists_of_get? ((named.mem_entries_iff isFolder).mp listed)
  exact ⟨node', (named'.mem_entries_iff isFolder').mpr found', same⟩

/-- Files, folders and links are the same in both trees. -/
theorem keeps (alike : tree.Alike other) : tree.Keeps other where
  working := alike.working
  files place _ _ _ found :=
    ⟨_, _, _, get?_of_shell?_file ((alike.shells place).trans (shell?_file found))⟩
  folders place _ _ found :=
    ⟨_, exists_folder_of_shell? ((alike.shells place).trans (shell?_folder found))⟩
  links place _ found :=
    get?_of_shell?_link ((alike.shells place).trans (shell?_link found))

/-- What is around a folder is alike as well. -/
theorem around (alike : tree.Alike other)
    (isFolder : tree.get? place = some (.folder stamps entries)) :
    (tree.around place).Alike (other.around place) := by
  obtain ⟨entries', isFolder'⟩ :=
    exists_folder_of_shell? ((alike.shells place).trans (shell?_folder isFolder))
  refine ⟨alike.working, alike.now, fun elsewhere => ?_⟩
  by_cases below : place <+: elsewhere
  · obtain ⟨rest, rfl⟩ := below
    rw [shell?, shell?, get?_around_below isFolder, get?_around_below isFolder']
  · rw [shell?_around below, shell?_around below, alike.shells]

/-- Where the path of a folder leads there around it in one tree, so it does in the other. -/
theorem surrounds {root : Path} (alike : tree.Alike other) (surrounds : tree.Surrounds root place)
    (isFolder : ∃ stamps entries, tree.get? place = some (.folder stamps entries)) :
    other.Surrounds root place := by
  obtain ⟨left, around⟩ := surrounds
  obtain ⟨stamps, entries, isFolder⟩ := isFolder
  exact ⟨left, around.keeps (alike.around isFolder).keeps⟩

/-- A tree with names is plain if it differs from a plain one only in the order of entries. -/
theorem plain (alike : tree.Alike other) (plain : tree.Plain) (named : other.Named) :
    other.Plain := by
  refine ⟨fun place node found => ?_, alike.working ▸ plain.working⟩
  cases node with
  | file => trivial
  | link target => exact plain.unlinked place target (alike.symm.keeps.links place target found)
  | folder stamps entries => exact named place _ found

theorem get?_eq_none (alike : tree.Alike other) (nothing : tree.get? place = none) :
    other.get? place = none := by
  have shells := alike.shells place
  rw [shell?, shell?, nothing] at shells
  exact Option.map_eq_none_iff.mp shells

/-- Segments come out at the same place in both trees, or come to the same error. -/
theorem descend (alike : tree.Alike other) (last : LastLink) (links : Nat) (here : Place)
    (segments : List String) :
    other.descend last links here segments =
      (tree.descend last links here segments).map fun destination =>
        ⟨destination.place, other.get? destination.place, destination.slash⟩ := by
  fun_induction FileTree.descend tree last links here segments with
  | case1 links here =>
    rw [FileTree.descend]
    rfl
  | case2 links here name rest silent inductionHypothesis =>
    rw [descend_silent silent, inductionHypothesis]
  | case3 links here rest _ inductionHypothesis =>
    rw [descend_parent, inductionHypothesis]
  | case4 links here name rest speaks down long =>
    rw [descend_long speaks down long]
    rfl
  | case5 links here name rest speaks down short place final nothing atEnd =>
    have nothing' := alike.get?_eq_none nothing
    rw [descend_free speaks down short nothing', if_pos atEnd, Except.map, nothing']
  | case6 links here name rest speaks down short place final nothing goesOn =>
    rw [descend_free speaks down short (alike.get?_eq_none nothing), if_neg goesOn]
    rfl
  | case7 links here name rest speaks down short place final stamps entries found atEnd =>
    obtain ⟨stamps', entries', found'⟩ := alike.keeps.folders _ _ _ found
    rw [descend_folder speaks down short found', if_pos atEnd, Except.map, found']
  | case8 links here name rest speaks down short place final stamps entries found goesOn
      inductionHypothesis =>
    obtain ⟨stamps', entries', found'⟩ := alike.keeps.folders _ _ _ found
    rw [descend_folder speaks down short found', if_neg goesOn, inductionHypothesis]
  | case9 links here name rest speaks down short place final stamps executable bytes found atEnd =>
    obtain ⟨stamps', executable', bytes', found'⟩ := alike.keeps.files _ _ _ _ found
    rw [descend_file speaks down short found', if_pos atEnd, Except.map, found']
  | case10 links here name rest speaks down short place final stamps executable bytes found
      goesOn =>
    obtain ⟨stamps', executable', bytes', found'⟩ := alike.keeps.files _ _ _ _ found
    rw [descend_file speaks down short found', if_neg goesOn]
    rfl
  | case11 links here name rest speaks down short place final target found kept =>
    have found' := alike.keeps.links _ _ found
    rw [descend_link_kept speaks down short found' kept, Except.map, found']
  | case12 here name rest speaks down short place final target found followed =>
    have found' := alike.keeps.links _ _ found
    rw [descend_link_refused speaks down short found' followed]
    rfl
  | case13 here name rest speaks down short place final target found followed links
      inductionHypothesis =>
    have found' := alike.keeps.links _ _ found
    rw [descend_link speaks down short found' followed, inductionHypothesis]

/-- A path comes out at the same place in both trees, or comes to the same error. -/
theorem resolve (alike : tree.Alike other) (last : LastLink) (path : Path) :
    other.resolve last path = (tree.resolve last path).map fun destination =>
      ⟨destination.place, other.get? destination.place, destination.slash⟩ := by
  unfold FileTree.resolve
  cases checkPath path.text with
  | error error => rfl
  | ok =>
    dsimp only
    rw [alike.working, alike.descend]

/-- A path finds a folder in both trees or in neither. -/
theorem isFolder (alike : tree.Alike other) (path : Path) :
    other.isFolder path = tree.isFolder path := by
  unfold FileTree.isFolder find locate
  rw [alike.resolve]
  cases leads : tree.resolve .follow path with
  | error error => rfl
  | ok destination =>
    obtain ⟨reached, node?, slash⟩ := destination
    obtain rfl : node? = tree.get? reached := resolve_node? leads
    cases found : tree.get? reached with
    | none => simp [Except.map, alike.get?_eq_none found]
    | some node =>
      obtain ⟨node', found', same⟩ := alike.exists_of_get? found
      cases node <;> cases node' <;> cases same <;> cases slash <;>
        simp [Except.map, found', Node.isFile, Node.isFolder]

/-- What is put into a folder is put into it in both trees. -/
theorem insert (alike : tree.Alike other) (place : Place) (made : Node) :
    (tree.insert place made).Alike (other.insert place made) := by
  rcases List.eq_nil_or_concat place with rfl | ⟨folder, name, rfl⟩
  · exact alike
  rw [List.concat_eq_append]
  refine ⟨?_, by rw [now_insert, now_insert, alike.now], fun elsewhere => ?_⟩
  · rw [insert_concat, insert_concat]
    exact alike.working
  by_cases below : folder <+: elsewhere
  · obtain ⟨_ | ⟨next, rest⟩, rfl⟩ := below
    · rw [List.append_nil, shell?_insert_folder, shell?_insert_folder, alike.shells, alike.now]
    by_cases isFolder : ∃ stamps entries, tree.get? folder = some (.folder stamps entries)
    · obtain ⟨stamps, entries, isFolder⟩ := isFolder
      obtain ⟨_, _, isFolder'⟩ := alike.keeps.folders _ _ _ isFolder
      rw [shell?, shell?, get?_insert_below made isFolder, get?_insert_below made isFolder']
      split
      · rfl
      · exact alike.shells _
    · have notFolder (stamps : Stamps) (entries : List (String × Node)) :
          tree.get? folder ≠ some (.folder stamps entries) :=
        fun found => isFolder ⟨stamps, entries, found⟩
      have notFolder' (stamps : Stamps) (entries : List (String × Node)) :
          other.get? folder ≠ some (.folder stamps entries) := by
        intro found
        obtain ⟨_, _, found'⟩ := alike.symm.keeps.folders _ _ _ found
        exact notFolder _ _ found'
      rw [shell?, shell?, get?_insert_below_notFolder made notFolder,
        get?_insert_below_notFolder made notFolder']
  · rw [shell?_insert_outside _ below, shell?_insert_outside _ below, alike.shells]

/-- A folder is made in both trees, or in neither for the same error. -/
theorem makeFolder (alike : tree.Alike other) (path : Path) :
    (∃ error, tree.makeFolder path = .error error ∧ other.makeFolder path = .error error) ∨
      ∃ changed changed', tree.makeFolder path = .ok changed ∧
        other.makeFolder path = .ok changed' ∧ changed.Alike changed' := by
  unfold FileTree.makeFolder
  rw [alike.resolve]
  cases leads : tree.resolve .keep path with
  | error error => exact .inl ⟨error, rfl, rfl⟩
  | ok destination =>
    obtain ⟨reached, node?, slash⟩ := destination
    obtain rfl : node? = tree.get? reached := resolve_node? leads
    cases found : tree.get? reached with
    | none =>
      refine .inr ⟨_, other.insert reached (.emptyFolder other.now), rfl,
        by simp [Except.map, alike.get?_eq_none found], ?_⟩
      rw [alike.now]
      exact alike.insert _ _
    | some node =>
      obtain ⟨node', found', -⟩ := alike.exists_of_get? found
      exact .inl ⟨.alreadyExists, rfl, by simp [Except.map, found']⟩

/-- Missing folders are made in both trees, or in neither for the same error. -/
theorem makeMissing (alike : tree.Alike other) (paths : List Path) :
    (FileTree.makeMissing paths other).1 = (FileTree.makeMissing paths tree).1 ∧
      (FileTree.makeMissing paths tree).2.Alike (FileTree.makeMissing paths other).2 := by
  have orFolder {tree other : FileTree} (alike : tree.Alike other) (path : Path)
      (error : FileError) :
      (unlessFolder path error other).1 = (unlessFolder path error tree).1 ∧
        (unlessFolder path error tree).2.Alike (unlessFolder path error other).2 := by
    refine ⟨?_, alike⟩
    rw [unlessFolder, unlessFolder]
    dsimp only
    rw [alike.isFolder]
  induction paths generalizing tree other with
  | nil => exact ⟨rfl, alike⟩
  | cons path above inductionHypothesis =>
    unfold FileTree.makeMissing
    split
    · exact ⟨rfl, alike⟩
    rcases alike.makeFolder path with
      ⟨error, fails, fails'⟩ | ⟨changed, changed', made, made', same⟩
    · rw [fails, fails']
      cases error with
      | notFound =>
        obtain ⟨results, later⟩ := inductionHypothesis alike
        dsimp only
        rcases makes : FileTree.makeMissing above tree with ⟨error | _, middle⟩ <;>
          rcases makes' : FileTree.makeMissing above other with ⟨error' | _, middle'⟩ <;>
          rw [makes, makes'] at results later
        · exact ⟨results, later⟩
        · cases results
        · cases results
        · dsimp only at later ⊢
          rcases later.makeFolder path with ⟨error, fails, fails'⟩ | ⟨_, _, made, made', same⟩
          · rw [fails, fails']
            exact orFolder later path error
          · rw [made, made']
            exact ⟨rfl, same⟩
      | _ => exact orFolder alike path _
    · rw [made, made']
      exact ⟨rfl, same⟩

end Alike

end FileQuery.FileTree

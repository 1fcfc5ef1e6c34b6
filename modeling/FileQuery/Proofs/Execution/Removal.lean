import FileQuery.Proofs.Confinement.Runs
import FileQuery.Proofs.Execution.Accounting
import FileQuery.Proofs.Execution.Comprehension
import FileQuery.Proofs.Execution.Untouched
import FileQuery.Proofs.FileTree.Relocation
import FileQuery.Proofs.FileTree.Reordering

/-!
# Removing exactly the matches

To remove a match is to take its entry out of the source folder. The way to the folder does not go
through what is below it, so it leads there after each removal as it did before, and the entries
that are left are as they were. Therefore the matches are removed in any order with one result, and
none of what is left matches.
-/

/-!
## Matches in other listings

Whether an entry matches depends only on its path and on its shell: what is below a folder, and what
stands beside an entry, is not looked at. So in trees that differ only in the order of entries the
same paths match.
-/

namespace FileQuery

/-- Two reports that differ only in the order in which they tell of the matches. -/
structure Report.Alike (report other : Report) : Prop where
  paths : other.paths.Perm report.paths
  skipped : other.skipped.Perm report.skipped
  rest : other = { report with paths := other.paths, skipped := other.skipped }

/-- What is known of a file or folder is in its shell. -/
theorem Attributes.ofNode_shell (path : Path) (withContent : Bool) (node : Node) :
    ofNode path withContent node.shell = ofNode path withContent node := by
  cases node <;> rfl

theorem Target.accepts_shell (target : Target) (node : Node) :
    target.accepts node.shell = target.accepts node := by
  cases target <;> cases node <;> rfl

/-- A path opens the same folder in a tree that lists its entries in another order. -/
theorem FileTree.Alike.opens {tree other : FileTree} {path : Path} {place : Place}
    (alike : tree.Alike other) (opens : tree.Opens path place) : other.Opens path place := by
  obtain ⟨⟨left, reaches⟩, stamps, entries, isFolder⟩ := opens
  exact ⟨⟨left, reaches.keeps alike.keeps⟩, alike.keeps.folders place stamps entries isFolder⟩

/-- A path opens one folder. -/
theorem FileTree.Opens.unique {tree : FileTree} {path : Path} {place other : Place}
    (opens : tree.Opens path place) (opens' : tree.Opens path other) : other = place := by
  obtain ⟨left, reaches⟩ := opens.1
  obtain ⟨left', reaches'⟩ := opens'.1
  exact (reaches.unique reaches').2

namespace Plan

variable {plan : Plan} {tree other : FileTree} {root folder : Path} {stamps stamps' : Stamps}
  {name : String} {node node' : Node} {entries entries' : List (String × Node)}
  {found : List Path}

/-- Matches that are found are among the entries of a folder that is found. -/
theorem exists_folder_of_findMatches (finds : plan.findMatches tree root = .ok found) :
    ∃ stamps entries, tree.find (plan.folder root) = .ok (.folder stamps entries) := by
  unfold findMatches at finds
  dsimp only at finds
  split at finds
  · contradiction
  · contradiction
  · rename_i isFolder
    exact ⟨_, _, isFolder⟩
  · contradiction
  · contradiction

/-- What comes of evaluating the condition at an entry depends on the path and the shell. -/
theorem fulfils_congr (named : tree.Named) (named' : other.Named)
    (isFolder : tree.find folder = .ok (.folder stamps entries))
    (isFolder' : other.find folder = .ok (.folder stamps' entries'))
    (listed : (name, node) ∈ entries) (listed' : (name, node') ∈ entries')
    (same : node'.shell = node.shell) (accepts : plan.target.accepts node = true) :
    plan.fulfils other (folder.child name) = plan.fulfils tree (folder.child name) := by
  have accepts' : plan.target.accepts node' = true := by
    rw [← Target.accepts_shell, same, Target.accepts_shell, accepts]
  unfold fulfils
  split
  · rfl
  unfold Condition.holdsAt
  split
  · rfl
  rw [Attributes.read, Attributes.read,
    FileTree.find_entry named isFolder listed (ne_link_of_accepts accepts),
    FileTree.find_entry named' isFolder' listed' (ne_link_of_accepts accepts')]
  cases FileTree.namingFault (folder.child name) name with
  | some error => rfl
  | none =>
    simp only [Except.map]
    rw [← Attributes.ofNode_shell _ _ node', same, Attributes.ofNode_shell]

theorem looksAt_congr (same : node'.shell = node.shell) :
    plan.looksAt (name, node') = plan.looksAt (name, node) := by
  rw [looksAt, looksAt, ← Target.accepts_shell plan.target node', same, Target.accepts_shell]

theorem accepts_of_looksAt (looks : plan.looksAt (name, node) = true) :
    plan.target.accepts node = true := by
  simp only [looksAt, Bool.and_eq_true] at looks
  exact looks.2

/-- An entry that is in two folders with the same shell matches in both or in neither. -/
theorem matchesEntry_congr (named : tree.Named) (named' : other.Named)
    (isFolder : tree.find folder = .ok (.folder stamps entries))
    (isFolder' : other.find folder = .ok (.folder stamps' entries'))
    (listed : (name, node) ∈ entries) (listed' : (name, node') ∈ entries')
    (same : node'.shell = node.shell) :
    plan.matchesEntry other folder (name, node') = plan.matchesEntry tree folder (name, node) := by
  rw [matchesEntry, matchesEntry, looksAt_congr same]
  cases looks : plan.looksAt (name, node) with
  | false => rfl
  | true =>
    rw [fulfils_congr named named' isFolder isFolder' listed listed' same
      (accepts_of_looksAt looks)]

/-- In a folder that has no entries but some of another, as far as their shells go, the condition
    has no error if it has none there. -/
theorem Faultless.of_among (faultless : plan.Faultless tree folder entries) (named : tree.Named)
    (named' : other.Named) (isFolder : tree.find folder = .ok (.folder stamps entries))
    (isFolder' : other.find folder = .ok (.folder stamps' entries'))
    (among : ∀ name node', (name, node') ∈ entries' → ∃ node, (name, node) ∈ entries ∧
      node'.shell = node.shell) : plan.Faultless other folder entries' := by
  intro entry listed' looks
  obtain ⟨node, listed, same⟩ := among entry.1 entry.2 listed'
  have looks' : plan.looksAt (entry.1, node) = true := (looksAt_congr same).symm.trans looks
  obtain ⟨holds, fulfils⟩ := faultless (entry.1, node) listed looks'
  have fulfils' := fulfils_congr named named' isFolder isFolder' listed listed' same
    (accepts_of_looksAt looks')
  exact ⟨holds, fulfils'.trans fulfils⟩

/-- What matches in a folder matches in another one that has all its entries, as far as their
    shells go. -/
theorem matching_subset (named : tree.Named) (named' : other.Named)
    (isFolder : tree.find folder = .ok (.folder stamps entries))
    (isFolder' : other.find folder = .ok (.folder stamps' entries'))
    (among : ∀ name node, (name, node) ∈ entries → ∃ node', (name, node') ∈ entries' ∧
      node'.shell = node.shell) :
    plan.matching tree folder entries ⊆ plan.matching other folder entries' := by
  intro path member
  obtain ⟨⟨name, node⟩, isMatch, rfl⟩ := List.mem_map.mp member
  obtain ⟨listed, isMatch⟩ := List.mem_filter.mp isMatch
  obtain ⟨node', listed', same⟩ := among name node listed
  rw [← matchesEntry_congr named named' isFolder isFolder' listed listed' same] at isMatch
  exact List.mem_map.mpr ⟨(name, node'), List.mem_filter.mpr ⟨listed', isMatch⟩, rfl⟩

/-- In a tree that lists its entries in another order the same matches are found, in that order. -/
theorem findMatches_alike (named : tree.Named) (named' : other.Named) (alike : tree.Alike other)
    (finds : plan.findMatches tree root = .ok found) :
    ∃ found', plan.findMatches other root = .ok found' ∧ found'.Perm found := by
  obtain ⟨stamps, entries, isFolder⟩ := exists_folder_of_findMatches finds
  obtain ⟨left, place, reaches, at_place⟩ := FileTree.reaches_of_find isFolder
  obtain ⟨entries', at_place'⟩ :=
    FileTree.exists_folder_of_shell? ((alike.shells place).trans (FileTree.shell?_folder at_place))
  have isFolder' : other.find (plan.folder root) = .ok (.folder stamps entries') :=
    FileTree.find_folder_of_find isFolder (reaches.keeps alike.keeps) at_place'
  obtain ⟨faultless, rfl⟩ := ((findMatches_comprehends named isFolder).1 found).mp finds
  have there (name : String) (node : Node) (listed : (name, node) ∈ entries) :=
    alike.exists_entry named named' at_place at_place' listed
  have back (name : String) (node' : Node) (listed : (name, node') ∈ entries') :
      ∃ node, (name, node) ∈ entries ∧ node'.shell = node.shell := by
    obtain ⟨node, listed', same⟩ :=
      alike.symm.exists_entry named' named at_place' at_place listed
    exact ⟨node, listed', same.symm⟩
  have faultless' := faultless.of_among named named' isFolder isFolder' back
  refine ⟨_, ((findMatches_comprehends named' isFolder').1 _).mpr ⟨faultless', rfl⟩, ?_⟩
  refine (List.perm_ext_iff_of_nodup (nodup_matching named' isFolder')
    (nodup_matching named isFolder)).mpr fun path => ⟨fun member => ?_, fun member => ?_⟩
  · refine matching_subset named' named isFolder' isFolder (fun name node' listed => ?_) member
    obtain ⟨node, listed', same⟩ := back name node' listed
    exact ⟨node, listed', same.symm⟩
  · exact matching_subset named named' isFolder isFolder' there member

/-- The matches of a plan are the entries with some names in the folder at a place. -/
structure Selects (plan : Plan) (root : Path) (tree : FileTree) (place : Place)
    (names : List String) : Prop where
  finds : plan.findMatches tree root = .ok (names.map (plan.folder root).child)
  opens : tree.Opens (plan.folder root) place
  areNames : ∀ name ∈ names, IsName name
  distinct : names.Nodup
  present : ∀ name ∈ names, ∃ node, tree.get? (place ++ [name]) = some node ∧
    plan.target.accepts node = true

/-- The matches of a plan are entries of the folder that its path opens, each of the target's kind
    and with a name of its own. -/
theorem exists_selects (named : tree.Named) (finds : plan.findMatches tree root = .ok found) :
    ∃ place names, plan.Selects root tree place names ∧
      found = names.map (plan.folder root).child := by
  obtain ⟨names, areNames, distinct, rfl⟩ := names_of_findMatches named finds
  obtain ⟨left, place, stamps, entries, reaches, isFolder, present⟩ :=
    exists_of_findMatches named finds
  refine ⟨place, names, ⟨finds, ⟨⟨left, reaches⟩, stamps, entries, isFolder⟩, areNames, distinct,
    fun name member => ?_⟩, rfl⟩
  obtain ⟨other, node, isName, same, accepts, at_name⟩ :=
    present _ (List.mem_map_of_mem member)
  obtain rfl := Path.child_injective (areNames name member) isName same
  exact ⟨node, at_name, accepts⟩

/-- The matches of a plan are found in one place, under the same names. -/
theorem Selects.unique {place place' : Place} {names names' : List String}
    (selects : plan.Selects root tree place names)
    (selects' : plan.Selects root tree place' names') : place' = place ∧ names' = names := by
  have named {names : List String} (areNames : ∀ name ∈ names, IsName name) :
      (names.map (plan.folder root).child).map Path.fileName? = names.map some := by
    rw [List.map_map]
    exact List.map_congr_left fun name listed => Path.fileName?_child _ (areNames name listed)
  have same := Except.ok.inj (selects'.finds.symm.trans selects.finds)
  have same' := congrArg (List.map Path.fileName?) same
  rw [named selects'.areNames, named selects.areNames] at same'
  exact ⟨selects.opens.unique selects'.opens, (Option.some_injective _).list_map same'⟩

/-- In a tree that lists its entries in another order the same names match, in that order. -/
theorem Selects.alike {place : Place} {names : List String}
    (selects : plan.Selects root tree place names) (named : tree.Named) (named' : other.Named)
    (alike : tree.Alike other) :
    ∃ names', plan.Selects root other place names' ∧ names'.Perm names := by
  obtain ⟨found', finds', same⟩ := findMatches_alike named named' alike selects.finds
  obtain ⟨place', names', selects', rfl⟩ := exists_selects named' finds'
  obtain ⟨⟨left, reaches⟩, stamps, entries, isFolder⟩ := selects.opens
  obtain rfl : place' = place := by
    obtain ⟨left', reaches'⟩ := selects'.opens.1
    exact ((reaches.keeps alike.keeps).unique reaches').2
  have member_iff (name : String) : name ∈ names' ↔ name ∈ names := by
    constructor
    · intro member
      obtain ⟨other, member', same'⟩ := List.mem_map.mp (same.subset (List.mem_map_of_mem member))
      rwa [Path.child_injective (selects'.areNames name member) (selects.areNames other member')
        same'.symm]
    · intro member
      obtain ⟨other, member', same'⟩ :=
        List.mem_map.mp (same.symm.subset (List.mem_map_of_mem member))
      rwa [Path.child_injective (selects.areNames name member) (selects'.areNames other member')
        same'.symm]
  exact ⟨names', selects', (List.perm_ext_iff_of_nodup selects'.distinct selects.distinct).mpr
    member_iff⟩

end Plan

end FileQuery

namespace FileQuery

variable {tree later other after : FileTree} {place : Place} {root folder : Path} {left : Nat}
  {name : String} {names gone : List String} {node : Node} {target : Target} {stamps : Stamps}
  {entries : List (String × Node)} {report final : Report} {found : List Path}

namespace Removal

end Removal

/-! ## Plans and statements that delete -/

namespace Plan

variable {plan : Plan} {converter : Converter}

end Plan

namespace Statement

variable {selection : Selection} {plan : Plan} {converter : Converter}

end Statement

end FileQuery

import FileQuery.Proofs.FileTree.Relocation
import FileQuery.Proofs.Transfer.Destinations

/-!
# Moving matches

Whether an entry can be moved is settled before anything is moved: its own path and its new one can
be followed, neither folder is in what is moved or replaced, and what stands at the goal may be
replaced. So a run that moves matches either moves all that do not hold the destination, or ends
with an error.
-/

namespace FileQuery

variable {tree start later after other : FileTree} {base folder root : Path}
  {home source goal place : Place} {rest rest' : List String} {left left' : Nat} {name : String}
  {names gone : List String} {node : Node} {report final : Report}

namespace FileTree

/-- Whether what is at a place may take the place of what is at another one. -/
def Replaceable (tree : FileTree) (origin goal : Place) : Prop :=
  ∀ node replaced, tree.get? origin = some node → tree.get? goal = some replaced →
    checkReplacement node replaced = .ok ()

/-- Whether an entry of one folder can be moved into another one. -/
structure Movable (tree : FileTree) (base folder : Path) (source goal : Place) (name : String) :
    Prop where
  leaves : namingFault (base.child name) name = none
  arrives : namingFault (folder.child name) name = none
  fits : goal = source ∨
    Clears source goal name ∧ tree.Replaceable (source ++ [name]) (goal ++ [name])

/-- What comes of renaming an entry of one folder into another one. -/
theorem rename_child (reaches : tree.Reaches base left source)
    (reaches' : tree.Reaches folder left' goal) (isName : IsName name)
    (found : tree.get? (source ++ [name]) = some node) :
    tree.rename (base.child name) (folder.child name) =
      match namingFault (base.child name) name, namingFault (folder.child name) name with
      | some error, _ => .error error
      | none, some error => .error error
      | none, none =>
        if source ++ [name] = goal ++ [name] then .ok tree
        else if source ++ [name] <+: goal ++ [name] then .error .invalid
        else if goal ++ [name] <+: source ++ [name] then .error .notEmpty
        else
          match tree.get? (goal ++ [name]) with
          | none => .ok ((tree.erase (source ++ [name])).insert (goal ++ [name]) node)
          | some replaced =>
            match checkReplacement node replaced with
            | .error error => .error error
            | .ok () => .ok ((tree.erase (source ++ [name])).insert (goal ++ [name]) node) := by
  unfold rename
  rw [resolve_child reaches isName .keep nofun, resolve_child reaches' isName .keep nofun, found]
  cases namingFault (base.child name) name with
  | some error => cases namingFault (folder.child name) name <;> rfl
  | none =>
    cases namingFault (folder.child name) name with
    | some error => rfl
    | none =>
      refine (if_neg (by simp)).trans (if_congr Iff.rfl rfl ?_)
      exact if_congr List.isPrefixOf_iff_prefix rfl (if_congr List.isPrefixOf_iff_prefix rfl rfl)

theorem checkReplacement_ne_notFound (node replaced : Node) :
    checkReplacement node replaced ≠ .error .notFound := by
  unfold checkReplacement
  split
  · split
    · nofun
    · split <;> nofun
  · split <;> nofun

/-- An entry is moved if it can be, and else there is an error that is not that of a vanished
    entry. -/
theorem rename_child_cases (reaches : tree.Reaches base left source)
    (reaches' : tree.Reaches folder left' goal) (isName : IsName name)
    (found : tree.get? (source ++ [name]) = some node)
    (isFolder : ∃ stamps entries, tree.get? source = some (.folder stamps entries))
    (isFolder' : ∃ stamps entries, tree.get? goal = some (.folder stamps entries)) :
    (tree.Movable base folder source goal name ∧ ∃ changed,
        tree.rename (base.child name) (folder.child name) = .ok changed ∧
        (goal = source ∧ changed = tree ∨
          Clears source goal name ∧ tree.Moved source goal name changed)) ∨
      ¬ tree.Movable base folder source goal name ∧ ∃ error,
        tree.rename (base.child name) (folder.child name) = .error error ∧
          error ≠ .notFound := by
  have present := namingFault_ne_notFound base isName
  have present' := namingFault_ne_notFound folder isName
  rw [rename_child reaches reaches' isName found]
  cases leaves : namingFault (base.child name) name with
  | some error =>
    refine .inr ⟨fun movable => ?_, error, rfl, fun same => present (leaves.trans (same ▸ rfl))⟩
    cases leaves.symm.trans movable.leaves
  | none =>
  cases arrives : namingFault (folder.child name) name with
  | some error =>
    refine .inr ⟨fun movable => ?_, error, rfl, fun same => present' (arrives.trans (same ▸ rfl))⟩
    cases arrives.symm.trans movable.arrives
  | none =>
  dsimp only
  by_cases same : goal = source
  · rw [if_pos (congrArg (· ++ [name]) same.symm)]
    exact .inl ⟨⟨leaves, arrives, .inl same⟩, tree, rfl, .inl ⟨same, rfl⟩⟩
  have differs : source ++ [name] ≠ goal ++ [name] := fun alike =>
    same (List.append_inj' alike rfl).1.symm
  rw [if_neg differs]
  by_cases inside : source ++ [name] <+: goal
  · rw [if_pos (inside.trans (List.prefix_append _ _))]
    refine .inr ⟨fun movable => ?_, .invalid, rfl, nofun⟩
    exact (movable.fits.resolve_left same).1.leaves inside
  have notBelow : ¬ source ++ [name] <+: goal ++ [name] := fun below =>
    (List.prefix_concat_iff.mp below).elim differs inside
  rw [if_neg notBelow]
  by_cases around : goal ++ [name] <+: source
  · rw [if_pos (around.trans (List.prefix_append _ _))]
    refine .inr ⟨fun movable => ?_, .notEmpty, rfl, nofun⟩
    exact (movable.fits.resolve_left same).1.enters around
  have notAbove : ¬ goal ++ [name] <+: source ++ [name] := fun above =>
    (List.prefix_concat_iff.mp above).elim differs.symm around
  rw [if_neg notAbove]
  have clears : Clears source goal name := ⟨same, inside, around⟩
  have moved := moved_insert_erase clears isFolder isFolder' found
  have moves (fits : tree.Replaceable (source ++ [name]) (goal ++ [name])) :
      tree.Movable base folder source goal name := ⟨leaves, arrives, .inr ⟨clears, fits⟩⟩
  cases at_goal : tree.get? (goal ++ [name]) with
  | none =>
    refine .inl ⟨moves fun node replaced _ at_goal' => ?_, _, rfl, .inr ⟨clears, moved⟩⟩
    cases at_goal.symm.trans at_goal'
  | some replaced =>
    dsimp only
    cases check : checkReplacement node replaced with
    | ok =>
      refine .inl ⟨moves fun node' replaced' found' at_goal' => ?_, _, rfl, .inr ⟨clears, moved⟩⟩
      obtain rfl := Option.some.inj (found.symm.trans found')
      obtain rfl := Option.some.inj (at_goal.symm.trans at_goal')
      exact check
    | error error =>
      refine .inr ⟨fun movable => ?_, error, rfl, fun same =>
        checkReplacement_ne_notFound node replaced (check.trans (congrArg _ same))⟩
      have fits := (movable.fits.resolve_left same).2 node replaced found at_goal
      cases check.symm.trans fits

/-- Whether an entry can be moved is not changed by moving others. -/
theorem Relocated.movable_iff (relocated : start.Relocated source goal gone later)
    (clear : ∀ next ∈ gone, Clears source goal next) (fresh : name ∉ gone) :
    later.Movable base folder source goal name ↔ start.Movable base folder source goal name := by
  have fits (clears : Clears source goal name) :
      later.Replaceable (source ++ [name]) (goal ++ [name]) ↔
        start.Replaceable (source ++ [name]) (goal ++ [name]) := by
    obtain ⟨same, same'⟩ := relocated.untouched clear clears fresh []
    rw [Replaceable, Replaceable, same, same']
  constructor <;> rintro ⟨leaves, arrives, within | ⟨clears, replaces⟩⟩
  · exact ⟨leaves, arrives, .inl within⟩
  · exact ⟨leaves, arrives, .inr ⟨clears, (fits clears).mp replaces⟩⟩
  · exact ⟨leaves, arrives, .inl within⟩
  · exact ⟨leaves, arrives, .inr ⟨clears, (fits clears).mpr replaces⟩⟩

/-- What is still to be moved is there, even if it cannot be moved. -/
theorem Relocated.present (relocated : start.Relocated source goal gone later)
    (clear : ∀ next ∈ gone, Clears source goal next) (differs : goal ≠ source)
    (fresh : name ∉ gone) (found : start.get? (source ++ [name]) = some node)
    (isFolder : ∃ stamps entries, start.get? goal = some (.folder stamps entries)) :
    ∃ node, later.get? (source ++ [name]) = some node := by
  by_cases inside : source ++ [name] <+: goal
  · obtain ⟨_, _, isFolder'⟩ :=
      relocated.isFolder (.inr inside) (exists_folder_of_above inside isFolder)
    exact ⟨_, isFolder'⟩
  · refine ⟨node, ?_⟩
    rw [relocated.elsewhere _ (not_prefix_folder _ _ _) inside, found]
    intro next listed
    have apart : next ≠ name := fun same => fresh (same ▸ listed)
    exact ⟨not_prefix_sibling apart, not_prefix_below differs (clear next listed).enters inside⟩

/-- A folder has no entries in one tree if it has none in the other. -/
theorem Alike.isEmpty_entries (alike : tree.Alike other) (named : tree.Named)
    (named' : other.Named) {node' : Node} (found : tree.get? place = some node)
    (found' : other.get? place = some node') (same : node.shell = node'.shell) :
    node'.entries.isEmpty = node.entries.isEmpty := by
  cases node with
  | file | link =>
    cases node' <;> cases same
    rfl
  | folder stamps entries =>
  cases node' with
  | file | link => cases same
  | folder stamps' entries' =>
  cases entries with
  | nil =>
    cases entries' with
    | nil => rfl
    | cons entry' =>
      obtain ⟨_, listed, -⟩ :=
        alike.symm.exists_entry named' named found' found List.mem_cons_self
      cases listed
  | cons entry =>
    cases entries' with
    | nil =>
      obtain ⟨_, listed, -⟩ := alike.exists_entry named named' found found' List.mem_cons_self
      cases listed
    | cons => rfl

/-- What can be replaced in one tree can be in a tree that lists its entries in another order. -/
theorem Alike.replaceable (alike : tree.Alike other) (named : tree.Named) (named' : other.Named)
    {origin : Place} (replaces : tree.Replaceable origin goal) : other.Replaceable origin goal := by
  intro node' replaced' found' at_goal'
  obtain ⟨node, found, same⟩ := alike.symm.exists_of_get? found'
  obtain ⟨replaced, at_goal, same'⟩ := alike.symm.exists_of_get? at_goal'
  have kind {node node' : Node} (same : node.shell = node'.shell) :
      node'.isFolder = node.isFolder := by
    cases node <;> cases node' <;> cases same <;> rfl
  have fits := replaces node replaced found at_goal
  rw [checkReplacement] at fits ⊢
  rwa [kind same, kind same', alike.isEmpty_entries named named' at_goal at_goal' same']

theorem Alike.movable (alike : tree.Alike other) (named : tree.Named) (named' : other.Named)
    (movable : tree.Movable base folder source goal name) :
    other.Movable base folder source goal name where
  leaves := movable.leaves
  arrives := movable.arrives
  fits := movable.fits.imp_right fun ⟨clears, replaces⟩ =>
    ⟨clears, alike.replaceable named named' replaces⟩

/-- What is taken out of a plain tree leaves it plain. -/
theorem Plain.erase (plain : tree.Plain) (place : Place) : (tree.erase place).Plain := by
  rcases List.eq_nil_or_concat place with rfl | ⟨folder, name, rfl⟩
  · exact plain
  rw [List.concat_eq_append]
  have erased : tree.erase (folder ++ [name]) = tree.edit folder (.eraseEntry tree.now name) := by
    simp [FileTree.erase, splitPlace, edit]
  rw [erased]
  refine ⟨plain.root.modify fun found reached => ?_, plain.working⟩
  have below := Node.plain_iff_throughout.mp (plain.root.below reached)
  exact Node.plain_iff_throughout.mpr (below.eraseEntry tree.now name)

/-- A plain tree in which something gets another path stays plain. -/
theorem Plain.rename (plain : tree.Plain) {path target : Path}
    (renamed : tree.rename path target = .ok later) : later.Plain := by
  rcases Enclosed.rename_eq_ok renamed with rfl | ⟨origin, node, _, goal, _, _, leads, leads', rfl⟩
  · exact plain
  · have found : tree.get? origin = some node := (resolve_node? leads).symm
    exact (plain.erase origin).insert (plain.root.below found) (plain.isName_place leads')

end FileTree

/-! ## One match after another -/

/-- A path within the root that led to a folder leads there as long as changes stay below the folder
    to which the root leads, if there still is a folder. -/
theorem Enclosed.reaches_within (surrounds : tree.Surrounds root home)
    (enclosed : Enclosed (Descends home) home tree later) {path : Path}
    (within : root.Within path rest) (opens : start.Opens path place)
    (isFolder : ∃ stamps entries, later.get? (home ++ rest) = some (.folder stamps entries)) :
    ∃ left, later.Reaches path left (home ++ rest) := by
  obtain ⟨left, around⟩ := surrounds
  obtain ⟨_, led⟩ := opens.1
  have short (name : String) (listed : name ∈ rest) :
      ¬ FileTree.nameLimit < Text.byteLength name.toList := by
    have step : name ∈ FileTree.steps path := by
      rw [within.steps]
      exact List.mem_append_right _ listed
    exact led.short name step
  exact ⟨left, (enclosed.reaches around).of_within within short isFolder⟩

/-- What is below a folder of a plain tree is orderly. -/
theorem FileTree.Plain.enclosed (plain : tree.Plain)
    (isFolder : ∃ stamps entries, tree.get? home = some (.folder stamps entries)) :
    Enclosed (Descends home) home tree tree := by
  obtain ⟨stamps, entries, isFolder⟩ := isFolder
  have throughout := (Node.plain_iff_throughout.mp plain.root).below isFolder
  exact (Enclosed.refl isFolder throughout).mono fun _ impossible => impossible.elim

/-- A stage of moving entries from one folder to another one. -/
structure Transfer.Moving (tree start : FileTree) (home source goal : Place) (gone : List String)
    (later : FileTree) : Prop where
  enclosed : Enclosed (Descends home) home tree later
  plain : later.Plain
  relocated : start.Relocated source goal gone later
  clear : goal = source ∧ later = start ∨
    goal ≠ source ∧ ∀ next ∈ gone, FileTree.Clears source goal next

namespace Transfer

theorem moveEntry_eq (source target : Path) (tree : FileTree) :
    moveEntry source target tree =
      match tree.rename source target with
      | .ok changed => (.ok (), changed)
      | .error error => (.error (.file source error), tree) := by
  unfold moveEntry Changes.at Changes.mapError Changes.ofChange
  dsimp only
  cases tree.rename source target <;> rfl

/-- An entry is moved if that was possible in the beginning. -/
theorem Moving.settles (prepared : Prepared tree start root base folder home rest rest')
    (surrounds : tree.Surrounds root home) (isName : IsName name) (fresh : name ∉ gone)
    (found : start.get? (home ++ rest ++ [name]) = some node)
    (moving : Moving tree start home (home ++ rest) (home ++ rest') gone later) :
    Settles moveEntry (start.Movable base folder (home ++ rest) (home ++ rest') name)
      (Moving tree start home (home ++ rest) (home ++ rest') (gone ++ [name])) base folder name
      later := by
  obtain ⟨enclosed, plain, relocated, clear⟩ := moving
  have isFolder := relocated.isFolder (.inl (List.prefix_refl _)) prepared.source.2
  have isFolder' := relocated.isFolder (.inr (List.prefix_refl _)) prepared.goal.2
  obtain ⟨left, reaches⟩ :=
    enclosed.reaches_within surrounds prepared.within prepared.source isFolder
  obtain ⟨left', reaches'⟩ :=
    enclosed.reaches_within surrounds prepared.within' prepared.goal isFolder'
  have here : (∃ node, later.get? (home ++ rest ++ [name]) = some node) ∧
      (later.Movable base folder (home ++ rest) (home ++ rest') name ↔
        start.Movable base folder (home ++ rest) (home ++ rest') name) := by
    rcases clear with ⟨-, rfl⟩ | ⟨differs, clear⟩
    · exact ⟨⟨node, found⟩, Iff.rfl⟩
    · exact ⟨relocated.present clear differs fresh found prepared.goal.2,
        relocated.movable_iff clear fresh⟩
  obtain ⟨⟨node', found'⟩, same⟩ := here
  have after (changed : FileTree)
      (renamed : later.rename (base.child name) (folder.child name) = .ok changed) :=
    enclosed.rename surrounds prepared.within prepared.within' isName isName renamed
  unfold Settles
  rw [moveEntry_eq, ← same]
  rcases FileTree.rename_child_cases reaches reaches' isName found' isFolder isFolder' with
    ⟨movable, changed, renamed, moved⟩ | ⟨fixed, error, fails, lasting⟩
  · refine .inl ⟨movable, changed, by rw [renamed], after changed renamed, plain.rename renamed,
      ?_, ?_⟩
    · rcases moved with ⟨within, rfl⟩ | ⟨clears, moves⟩
      · rw [within] at relocated ⊢
        exact relocated.within name
      · rcases clear with ⟨within, -⟩ | ⟨-, clear⟩
        · exact absurd within clears.differs
        · exact relocated.step clear clears fresh moves
    · rcases clear with ⟨within, rfl⟩ | ⟨differs, clear⟩
      · rcases moved with ⟨-, rfl⟩ | ⟨clears, -⟩
        · exact .inl ⟨within, rfl⟩
        · exact absurd within clears.differs
      · rcases moved with ⟨within, -⟩ | ⟨clears, -⟩
        · exact absurd within differs
        · exact .inr ⟨differs, List.forall_mem_append.mpr
            ⟨clear, List.forall_mem_singleton.mpr clears⟩⟩
  · refine .inr ⟨fixed, .file (base.child name) error, later, by rw [fails], ?_⟩
    cases error <;> first | rfl | exact absurd rfl lasting

end Transfer

end FileQuery

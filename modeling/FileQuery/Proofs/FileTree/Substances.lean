import FileQuery.FileTree.Change
import FileQuery.Proofs.FileTree.ClearWays
import FileQuery.Proofs.FileTree.Entries
import FileQuery.Proofs.FileTree.Plain
import Mathlib.Data.List.Induction

/-!
# What nodes are made of

Apart from its times and its mode, a node is a folder, a file with its bytes, or a link with its
target. The substances at all places tell the structure of a tree and what its files hold. A change
at a place leaves the substances at all other places, and where a path led to a file, it leads to
the file after the file was written.
-/

namespace FileQuery

/-- What a node is, apart from its times and its mode and from what is below it. -/
inductive Substance
  | folder
  | file (bytes : List UInt8)
  | link (target : String)
  deriving DecidableEq, Repr

/-- What a node is. -/
def Node.substance : Node → Substance
  | folder .. => .folder
  | file _ _ bytes => .file bytes
  | link target => .link target

namespace Node

@[simp] theorem substance_shell (node : Node) : node.shell.substance = node.substance := by
  cases node <;> rfl

@[simp] theorem substance_touch (now : Instant) (node : Node) :
    (node.touch now).substance = node.substance := by
  cases node <;> rfl

@[simp] theorem substance_setExecutable (executable : Bool) (node : Node) :
    (node.setExecutable executable).substance = node.substance := by
  cases node <;> rfl

end Node

namespace FileTree

/-- What is at a place. -/
def substance? (tree : FileTree) (place : Place) : Option Substance :=
  (tree.get? place).map Node.substance

/-- Relative paths start from a folder. -/
def Grounded (tree : FileTree) : Prop :=
  ∃ stamps entries, tree.get? tree.working = some (.folder stamps entries)

variable {tree later opened : FileTree} {place folder other : Place} {name : String} {path : Path}
  {bytes : List UInt8} {stamps : Stamps} {entries : List (String × Node)}

/-! ## Substances and nodes -/

theorem substance?_eq_shell? (tree : FileTree) (place : Place) :
    tree.substance? place = (tree.shell? place).map Node.substance := by
  simp only [substance?, shell?, Option.map_map]
  congr 1
  funext node
  exact (Node.substance_shell node).symm

theorem substance?_eq_folder : tree.substance? place = some .folder ↔
    ∃ stamps entries, tree.get? place = some (.folder stamps entries) := by
  rw [substance?, Option.map_eq_some_iff]
  constructor
  · rintro ⟨node, found, same⟩
    cases node with
    | folder stamps entries => exact ⟨stamps, entries, found⟩
    | file | link => cases same
  · rintro ⟨stamps, entries, found⟩
    exact ⟨_, found, rfl⟩

theorem substance?_eq_file : tree.substance? place = some (.file bytes) ↔
    ∃ stamps executable, tree.get? place = some (.file stamps executable bytes) := by
  rw [substance?, Option.map_eq_some_iff]
  constructor
  · rintro ⟨node, found, same⟩
    cases node with
    | file stamps executable held =>
      obtain rfl := Substance.file.inj same
      exact ⟨stamps, executable, found⟩
    | folder | link => cases same
  · rintro ⟨stamps, executable, found⟩
    exact ⟨_, found, rfl⟩

theorem substance?_eq_link {target : String} : tree.substance? place = some (.link target) ↔
    tree.get? place = some (.link target) := by
  rw [substance?, Option.map_eq_some_iff]
  constructor
  · rintro ⟨node, found, same⟩
    cases node with
    | link =>
      obtain rfl := Substance.link.inj same
      exact found
    | folder | file => cases same
  · exact fun found => ⟨_, found, rfl⟩

theorem substance?_eq_none : tree.substance? place = none ↔ tree.get? place = none :=
  Option.map_eq_none_iff

/-! ## Changes -/

/-- A new entry changes the substance at its place only. -/
theorem substance?_insert {made : Node}
    (isFolder : tree.get? folder = some (.folder stamps entries))
    (free : tree.get? (folder ++ [name]) = none)
    (empty : ∀ next rest, made.get? (next :: rest) = none) (other : Place) :
    (tree.insert (folder ++ [name]) made).substance? other =
      if other = folder ++ [name] then some made.substance else tree.substance? other := by
  split
  · rename_i same
    rw [same, substance?, get?_insert_self _ isFolder]
    rfl
  rename_i differs
  rw [substance?_eq_shell?, substance?_eq_shell?]
  by_cases above : other = folder
  · rw [above, shell?_insert_folder, Option.map_map]
    congr 1
    funext node
    exact Node.substance_touch _ node
  · rw [shell?_insert_other free empty above differs]

/-- Other bytes in a file change the substance at its place only. -/
theorem substance?_rewrite {executable : Bool} {held : List UInt8} (executable' : Bool)
    (isFile : tree.get? place = some (.file stamps executable held)) (other : Place) :
    (tree.rewrite place executable' bytes).substance? other =
      if other = place then some (.file bytes) else tree.substance? other := by
  split
  · rename_i same
    rw [same, substance?, get?_rewrite_self, isFile]
    rfl
  · rename_i differs
    rw [substance?_eq_shell?, substance?_eq_shell?, shell?_rewrite_other _ _ differs]

/-- The mode of a file is no part of its substance. -/
theorem substance?_setExecutable (place other : Place) (executable : Bool) :
    (tree.edit place (.setExecutable executable)).substance? other = tree.substance? other := by
  by_cases same : other = place
  · rw [same, substance?, substance?, edit, get?, Node.get?_modify_self, Option.map_map]
    congr 1
    funext node
    exact Node.substance_setExecutable executable node
  · have alone (node : Node) (name : String) (rest : Place) :
        (node.setExecutable executable).get? (name :: rest) = node.get? (name :: rest) := by
      cases node <;> rfl
    rw [substance?_eq_shell?, substance?_eq_shell?, shell?_edit_other alone same]

/-! ## Writing files -/

/-- What is above a folder is a folder. -/
theorem exists_folder_of_above (above : place <+: folder)
    (isFolder : ∃ stamps entries, tree.get? folder = some (.folder stamps entries)) :
    ∃ stamps entries, tree.get? place = some (.folder stamps entries) := by
  obtain ⟨below, rfl⟩ := above
  by_cases here : below = []
  · simpa [here] using isFolder
  · obtain ⟨_, _, found⟩ := isFolder
    exact exists_folder_above found here

/-- A path that is followed in a folder starts from a folder. -/
theorem exists_folder_at_start (text : String)
    (isFolder : ∃ stamps entries, tree.get? place = some (.folder stamps entries)) :
    ∃ stamps entries, tree.get? (start text place) = some (.folder stamps entries) := by
  unfold start
  split
  · exact exists_folder_of_above List.nil_prefix isFolder
  · exact isFolder

/-- A way from a folder leads to a folder. -/
theorem Leads.exists_folder {links left : Nat} {here reached : Place} {segments : List String}
    (leads : tree.Leads links here segments left reached)
    (isFolder : ∃ stamps entries, tree.get? here = some (.folder stamps entries)) :
    ∃ stamps entries, tree.get? reached = some (.folder stamps entries) := by
  induction leads with
  | nil => exact isFolder
  | silent _ _ inductionHypothesis => exact inductionHypothesis isFolder
  | parent _ inductionHypothesis =>
    exact inductionHypothesis (exists_folder_of_above (List.dropLast_prefix _) isFolder)
  | folder _ _ _ found _ inductionHypothesis => exact inductionHypothesis ⟨_, _, found⟩
  | @link _ _ _ _ _ target _ _ _ _ _ _ inductionHypothesis =>
    exact inductionHypothesis (exists_folder_at_start target isFolder)

/-- The segments of a path hold no slash. -/
theorem unslashed_names (text : String) : ∀ segment ∈ names text, '/' ∉ segment.toList := by
  intro segment listed
  obtain ⟨characters, among, rfl⟩ := List.mem_map.mp listed
  simpa using Path.slash_notMem_segments _ characters among

section

variable {last : LastLink} {links : Nat} {here : Place} {segments : List String}
  {destination : Destination}

/-- Where nothing is, segments that start from a folder come out at a name in a folder. -/
theorem ComesOut.exists_folder
    (comesOut : tree.ComesOut last links here segments destination)
    (isFolder : ∃ stamps entries, tree.get? here = some (.folder stamps entries))
    (unslashed : ∀ segment ∈ segments, '/' ∉ segment.toList) (free : destination.node? = none) :
    ∃ folder name stamps entries, destination.place = folder ++ [name] ∧ IsName name ∧
      tree.get? folder = some (.folder stamps entries) := by
  induction comesOut with
  | nil =>
    obtain ⟨_, _, found⟩ := isFolder
    cases found.symm.trans free
  | silent _ _ inductionHypothesis =>
    exact inductionHypothesis isFolder (List.forall_mem_cons.mp unslashed).2 free
  | parent _ inductionHypothesis =>
    exact inductionHypothesis (exists_folder_of_above (List.dropLast_prefix _) isFolder)
      (List.forall_mem_cons.mp unslashed).2 free
  | final saying down _ _ _ _ =>
    obtain ⟨stamps, entries, found⟩ := isFolder
    obtain ⟨nonempty, notHere⟩ := not_or.mp (not_silent saying)
    exact ⟨_, _, stamps, entries, rfl,
      ⟨nonempty, notHere, down, (List.forall_mem_cons.mp unslashed).1⟩, found⟩
  | folder _ _ _ found _ _ inductionHypothesis =>
    exact inductionHypothesis ⟨_, _, found⟩ (List.forall_mem_cons.mp unslashed).2 free
  | @link _ here _ target _ _ _ _ _ _ _ _ inductionHypothesis =>
    exact inductionHypothesis (exists_folder_at_start target isFolder) (List.forall_mem_append.mpr
      ⟨unslashed_names target, (List.forall_mem_cons.mp unslashed).2⟩) free

/-- Where segments came out, they come out later, if a file is there then. -/
theorem ComesOut.descend_keeps (comesOut : tree.ComesOut last links here segments destination)
    (keeps : tree.Keeps later) {executable : Bool}
    (isFile : later.get? destination.place = some (.file stamps executable bytes)) :
    later.descend last links here segments =
      .ok ⟨destination.place, some (.file stamps executable bytes), destination.slash⟩ := by
  induction comesOut with
  | nil => rw [descend, isFile]
  | silent unsaying _ inductionHypothesis =>
    rw [descend_silent (speaks_eq_false.mp unsaying)]
    exact inductionHypothesis isFile
  | parent _ inductionHypothesis =>
    rw [descend_parent]
    exact inductionHypothesis isFile
  | final saying down short _ atEnd =>
    rw [descend_file (not_silent saying) down short isFile, if_pos atEnd]
  | folder saying down short found goesOn _ inductionHypothesis =>
    obtain ⟨_, _, found'⟩ := keeps.folders _ _ _ found
    rw [descend_folder (not_silent saying) down short found', goesOn]
    exact inductionHypothesis isFile
  | link saying down short found followed _ inductionHypothesis =>
    have found' := keeps.links _ _ found
    rw [descend_link (not_silent saying) down short found']
    · exact inductionHypothesis isFile
    · intro kept
      obtain ⟨atEnd, isKept⟩ := Bool.and_eq_true_iff.mp kept
      rw [followed (eq_of_beq isKept)] at atEnd
      cases atEnd

end

/-- Relative paths still start from a folder. -/
theorem Grounded.keeps (grounded : tree.Grounded) (keeps : tree.Keeps later) : later.Grounded := by
  obtain ⟨_, _, found⟩ := grounded
  obtain ⟨stamps, entries, found'⟩ := keeps.folders _ _ _ found
  exact ⟨stamps, entries, keeps.working ▸ found'⟩

/-- A file is opened for writing where there is one, or where nothing is in a folder. -/
theorem truncate_cases (grounded : tree.Grounded)
    (opens : tree.truncate path = .ok (opened, place)) :
    (∃ folder name stamps entries, place = folder ++ [name] ∧ IsName name ∧
      tree.get? folder = some (.folder stamps entries) ∧ tree.get? place = none ∧
      opened = tree.insert place (.file (.ofInstant tree.now) false [])) ∨
    ∃ stamps executable bytes, tree.get? place = some (.file stamps executable bytes) ∧
      opened = tree.rewrite place executable [] := by
  obtain ⟨node?, slash, leads, cases_⟩ := truncate_eq_ok opens
  have at_place : node? = tree.get? place := resolve_node? leads
  rcases cases_ with ⟨rfl, rfl⟩ | ⟨stamps, executable, held, rfl, rfl⟩
  · obtain ⟨folder, name, stamps, entries, same, isName, isFolder⟩ :=
      (comesOut_of_resolve leads).exists_folder (exists_folder_at_start path.text grounded)
        (unslashed_names _) rfl
    exact .inl ⟨folder, name, stamps, entries, same, isName, isFolder, at_place.symm, rfl⟩
  · exact .inr ⟨stamps, executable, held, at_place.symm, rfl⟩

/-- Opening a file for writing leaves an empty file at its place and no other change of
    substance, and keeps the ways. -/
theorem substance?_truncate (grounded : tree.Grounded)
    (opens : tree.truncate path = .ok (opened, place)) :
    (∀ other, opened.substance? other =
      if other = place then some (.file []) else tree.substance? other) ∧
    tree.Keeps opened := by
  rcases truncate_cases grounded opens with
    ⟨folder, name, stamps, entries, rfl, -, isFolder, free, rfl⟩ |
      ⟨stamps, executable, held, found, rfl⟩
  · exact ⟨substance?_insert isFolder free fun _ _ => rfl, keeps_insert free fun _ _ => rfl⟩
  · refine ⟨substance?_rewrite executable found, ?_⟩
    exact keeps_edit (fun _ _ _ => ⟨_, _, _, rfl⟩) (fun _ _ => rfl) fun _ => rfl

/-- What is written to a file keeps the names in a tree. -/
theorem Named.rewrite (named : tree.Named) (place : Place) (executable : Bool)
    (bytes : List UInt8) : (tree.rewrite place executable bytes).Named := by
  rw [named_iff_throughout] at named ⊢
  exact named.modify fun _ reached => (named.below reached).rewrite _ _ _

/-- Opening a file for writing keeps the names in a tree. -/
theorem Named.truncate (named : tree.Named) (grounded : tree.Grounded)
    (opens : tree.truncate path = .ok (opened, place)) : opened.Named := by
  rcases truncate_cases grounded opens with
    ⟨folder, name, _, _, rfl, isName, _, _, rfl⟩ | ⟨_, executable, _, _, rfl⟩
  · rw [named_iff_throughout] at named ⊢
    rw [insert_concat]
    refine named.modify fun found reached => ?_
    exact (named.below reached).insertEntry _ isName (Node.throughout_file _ _ _)
  · exact named.rewrite _ _ _

section

variable {executable : Bool} {held : List UInt8}

/-- The path by which a file was opened for writing leads to it again. -/
theorem resolve_again (opens : tree.truncate path = .ok (opened, place))
    (keeps : tree.Keeps later) (isFile : later.get? place = some (.file stamps executable held)) :
    later.resolve .follow path = .ok ⟨place, some (.file stamps executable held), false⟩ := by
  unfold truncate at opens
  cases leads : tree.resolve .follow path with
  | error error =>
    rw [leads] at opens
    cases opens
  | ok destination =>
    obtain ⟨goal, node?, slash⟩ := destination
    rw [leads] at opens
    have comesOut := comesOut_of_resolve leads
    dsimp only at opens
    split at opens
    · cases opens
    rename_i notSlash
    obtain rfl : slash = false := Bool.eq_false_iff.mpr notSlash
    have same : goal = place := by
      split at opens
      · exact (Prod.mk.inj (Except.ok.inj opens)).2
      · exact (Prod.mk.inj (Except.ok.inj opens)).2
      · cases opens
      · cases opens
    obtain rfl := same
    unfold resolve at leads ⊢
    split at leads
    · cases leads
    · rw [keeps.working]
      exact comesOut.descend_keeps keeps isFile

/-- A file that was opened for writing is opened again by the same path. -/
theorem truncate_again (opens : tree.truncate path = .ok (opened, place))
    (keeps : tree.Keeps later) (isFile : later.get? place = some (.file stamps executable held)) :
    later.truncate path = .ok (later.rewrite place executable [], place) := by
  rw [truncate, resolve_again opens keeps isFile]
  rfl

/-- A file that was opened for writing can be read by the same path. -/
theorem read_again (opens : tree.truncate path = .ok (opened, place))
    (keeps : tree.Keeps later) (isFile : later.get? place = some (.file stamps executable held)) :
    later.read path = .ok held := by
  rw [read, find, locate, resolve_again opens keeps isFile]
  rfl

end

/-- A file that can be opened for writing can be written: what is there is then a file with the
    bytes, no other substance changes, and the ways and the names are kept. -/
theorem exists_written (named : tree.Named) (grounded : tree.Grounded)
    (opens : tree.truncate path = .ok (opened, place)) (bytes : List UInt8) :
    ∃ later, tree.write path bytes = .ok later ∧ (∀ other, later.substance? other =
      if other = place then some (.file bytes) else tree.substance? other) ∧
      tree.Keeps later ∧ later.Named := by
  obtain ⟨same, keeps⟩ := substance?_truncate grounded opens
  have empty : opened.substance? place = some (.file []) := by rw [same, if_pos rfl]
  obtain ⟨stamps, executable, found⟩ := substance?_eq_file.mp empty
  refine ⟨opened.rewrite place (opened.isExecutable place) bytes, by rw [write, opens],
    fun other => ?_, keeps.trans ?_, (named.truncate grounded opens).rewrite _ _ _⟩
  · rw [substance?_rewrite _ found, same]
    split <;> rfl
  · exact keeps_edit (fun _ _ _ => ⟨_, _, _, rfl⟩) (fun _ _ => rfl) fun _ => rfl

end FileTree

end FileQuery

/-!
## Going down by names

A path that goes down by names from where a folder is leads to the place of these names, if it is
not longer than paths can be, no name is longer than names can be, and there are folders on the way.
-/

namespace FileQuery

/-- What begins a text that is a path is a path as well, if it is not empty. -/
theorem FileTree.checkPath_of_prefix {text whole : String} (starts : text.toList <+: whole.toList)
    (nonempty : text.toList ≠ []) (check : checkPath whole = .ok ()) : checkPath text = .ok () := by
  obtain ⟨rest, same⟩ := starts
  have lengths : Text.byteLength text.toList ≤ Text.byteLength whole.toList := by
    rw [← same, Text.byteLength_append]
    exact Nat.le_add_right _ _
  unfold checkPath at check ⊢
  split at check
  · cases check
  rename_i noNull
  split at check
  · cases check
  split at check
  · cases check
  rename_i short
  have noNull' : ¬ text.toList.contains '\x00' = true := by
    rw [← same] at noNull
    simp only [List.contains_eq_mem, decide_eq_true_eq, List.mem_append, not_or] at noNull ⊢
    exact noNull.1
  rw [if_neg noNull', if_neg (by simpa using nonempty), if_neg (by omega)]

namespace Path

/-- The path that goes down by names can be followed: neither it nor a name is too long. -/
structure Followable (base : Path) (place : Place) : Prop where
  fits : FileTree.checkPath (base.down place).text = .ok ()
  short : ∀ name ∈ place, ¬ FileTree.nameLimit < Text.byteLength name.toList

variable {base : Path} {front : Place} {name : String}

theorem Followable.namingFault (followable : base.Followable (front ++ [name])) :
    FileTree.namingFault ((base.down front).child name) name = none := by
  have fits := followable.fits
  rw [down_concat] at fits
  rw [FileTree.namingFault, fits]
  exact if_neg (followable.short name (by simp))

/-- Where a path can be followed, so can the paths on the way. -/
theorem Followable.of_concat (areNames : ∀ name ∈ front, IsName name) (some_names : front ≠ [])
    (isName : IsName name) (followable : base.Followable (front ++ [name])) :
    base.Followable front := by
  refine ⟨?_, fun name listed => followable.short name (by simp [listed])⟩
  have nonempty : (base.down front).text.toList ≠ [] := by
    obtain ⟨before, last, rfl⟩ : ∃ before last, front = before ++ [last] :=
      ⟨_, _, (List.dropLast_concat_getLast some_names).symm⟩
    intro empty
    have ends := fileName?_child (base.down before) (areNames last (by simp))
    rw [← down_concat, fileName?, components, isAbsolute, pieces, isAbsolute, empty] at ends
    cases ends
  obtain ⟨before, whole, starts⟩ := join_text isName.relative nonempty
  have shorter : (base.down front).text.toList <+: ((base.down front).child name).text.toList := by
    rw [child, whole]
    rcases starts with same | same
    · exact same ▸ List.prefix_append _ _
    · rw [same]
      exact (List.prefix_append_right_inj before).mpr (by simp)
  have fits := followable.fits
  rw [down_concat] at fits
  exact FileTree.checkPath_of_prefix shorter nonempty fits

theorem Followable.of_append {more : Place} (areNames : ∀ name ∈ front ++ more, IsName name)
    (some_names : front ≠ []) (followable : base.Followable (front ++ more)) :
    base.Followable front := by
  induction more using List.reverseRecOn with
  | nil => simpa using followable
  | append_singleton more name inductionHypothesis =>
    rw [← List.append_assoc] at areNames followable
    have areNames' (name : String) (listed : name ∈ front ++ more) : IsName name :=
      areNames name (List.mem_append_left _ listed)
    exact inductionHypothesis areNames'
      (followable.of_concat areNames' (by simp [some_names]) (areNames name (by simp)))

/-- A path that ends with a name has components. -/
theorem components_child_ne_nil (base : Path) (isName : IsName name) :
    (base.child name).components ≠ [] := by
  intro none
  have ends := fileName?_child base isName
  rw [fileName?, none] at ends
  cases ends

/-- Going down by names stays within the path that this starts from. -/
theorem within_down {place : Place} (areNames : ∀ name ∈ place, IsName name) :
    base.Within (base.down place) place := by
  induction place using List.reverseRecOn with
  | nil => exact .refl base
  | append_singleton front name inductionHypothesis =>
    rw [down_concat]
    exact (inductionHypothesis fun name listed => areNames name (by simp [listed])).child
      (areNames name (by simp))

end Path

namespace FileTree

variable {tree : FileTree} {base : Path} {left : Nat} {folder place front : Place} {name : String}

/-- Going down by the name of a folder leads there. -/
theorem Reaches.child (reaches : tree.Reaches base left folder) (isName : IsName name)
    (short : ¬ nameLimit < Text.byteLength name.toList)
    (isFolder : ∃ stamps entries, tree.get? (folder ++ [name]) = some (.folder stamps entries)) :
    tree.Reaches (base.child name) left (folder ++ [name]) := by
  obtain ⟨stamps, entries, found⟩ := isFolder
  obtain ⟨before, whole, same⟩ := names_child base isName
  have within := (Path.Within.refl base).child isName
  rw [Reaches, within.start_eq, whole]
  exact (Leads.congr reaches same).append
    (.folder (speaks_of_isName isName) isName.notParent short found .nil)

/-- Going down by names leads to the folder that is at their place. -/
theorem Reaches.down (reaches : tree.Reaches base left folder)
    (areNames : ∀ name ∈ place, IsName name)
    (short : ∀ name ∈ place, ¬ nameLimit < Text.byteLength name.toList)
    (isFolder : ∃ stamps entries, tree.get? (folder ++ place) = some (.folder stamps entries)) :
    tree.Reaches (base.down place) left (folder ++ place) := by
  induction place using List.reverseRecOn with
  | nil => simpa [Path.down] using reaches
  | append_singleton front name inductionHypothesis =>
    have above : folder ++ front <+: folder ++ (front ++ [name]) := by simp
    have reaches' := inductionHypothesis (fun name listed => areNames name (by simp [listed]))
      (fun name listed => short name (by simp [listed])) (exists_folder_of_above above isFolder)
    rw [Path.down_concat, ← List.append_assoc]
    exact reaches'.child (areNames name (by simp)) (short name (by simp))
      (by rwa [List.append_assoc])

/-- Where a path leads that goes down by names to something in a folder. -/
theorem resolve_down (reaches : tree.Reaches base left folder)
    (areNames : ∀ next ∈ front ++ [name], IsName next)
    (followable : base.Followable (front ++ [name]))
    (isFolder : ∃ stamps entries, tree.get? (folder ++ front) = some (.folder stamps entries))
    (last : LastLink)
    (unlinked : ∀ target, tree.get? (folder ++ (front ++ [name])) ≠ some (.link target)) :
    tree.resolve last (base.down (front ++ [name])) =
      .ok ⟨folder ++ (front ++ [name]), tree.get? (folder ++ (front ++ [name])), false⟩ := by
  have reaches' := reaches.down (fun name listed => areNames name (by simp [listed]))
    (fun name listed => followable.short name (by simp [listed])) isFolder
  rw [← List.append_assoc] at unlinked ⊢
  rw [Path.down_concat, resolve_child reaches' (areNames name (by simp)) last fun _ _ => unlinked,
    followable.namingFault]

/-- Where a path leads that takes the way to a folder and then the step to something there. -/
theorem place_of_within (reaches : tree.Reaches base left folder)
    (isFolder : ∃ stamps entries, tree.get? folder = some (.folder stamps entries)) {path : Path}
    (within : base.Within path [name])
    (unlinked : ∀ target, tree.get? (folder ++ [name]) ≠ some (.link target)) {last : LastLink}
    {destination : Destination} (leads : tree.resolve last path = .ok destination) :
    destination.place = folder ++ [name] := by
  have isName : IsName name := within.areNames name List.mem_cons_self
  have comesOut := comesOut_of_resolve leads
  rw [within.start_eq] at comesOut
  obtain ⟨before, after, whole, same, same'⟩ := List.filter_eq_append_iff.mp within.steps
  obtain ⟨silent, rest, rfl, unsaying, saying, none⟩ := List.filter_eq_cons_iff.mp same'
  have none' : rest.filter speaks = [] := none
  rw [whole, ← List.append_assoc] at comesOut
  have goesOn : (name :: rest).all (· == "") = false := by simp [isName.nonempty]
  obtain ⟨left', reached, way, out⟩ := comesOut.exists_leads goesOn
  have itself : (before ++ silent).filter speaks = (names base.text).filter speaks := by
    rw [List.filter_append, same, List.filter_eq_nil_iff.mpr unsaying, List.append_nil]
    rfl
  obtain ⟨rfl, rfl⟩ := (Leads.congr reaches itself).unique way
  have step : (name :: rest).filter speaks = [name] := by
    rw [List.filter_cons_of_pos saying, none']
  have down : ".." ∉ name :: rest := by
    rintro (_ | ⟨_, among⟩)
    · exact isName.notParent rfl
    · exact List.filter_eq_nil_iff.mp none' _ among rfl
  have clear : tree.Clear (reached ++ (name :: rest).filter speaks) := by
    obtain ⟨_, _, found⟩ := isFolder
    rw [step]
    exact (clear_of_get? found nofun).concat unlinked
  rw [← step]
  exact (out.of_clear isFolder down clear).1
/-- The path of a place leads to the folder that is there. -/
theorem reaches_ofPlace (areNames : ∀ name ∈ place, IsName name)
    (short : ∀ name ∈ place, ¬ nameLimit < Text.byteLength name.toList)
    (isFolder : ∃ stamps entries, tree.get? place = some (.folder stamps entries)) :
    tree.Reaches (.ofPlace place) linkLimit place := by
  have top : tree.Reaches .top linkLimit [] := Leads.of_silent (by decide)
  have reaches := top.down areNames short isFolder
  have within : Path.top.Within (Path.top.down place) place := Path.within_down areNames
  have same := Path.within_ofPlace areNames
  refine reaches.within ⟨same.start.trans within.start.symm, ?_, fun _ => nofun⟩
  rw [same.steps, within.steps, List.append_nil]

/-! ### What is made at the end -/

/-- A folder that can be made is made, and no other one. -/
theorem makeFolders_of_makeFolder {path : Path} {later : FileTree}
    (somewhere : path.components ≠ []) (made : tree.makeFolder path = .ok later) :
    makeFolders path tree = (.ok (), later) := by
  rw [makeFolders, makeMissing]
  dsimp only
  rw [if_neg somewhere, made]

section

variable (reaches : tree.Reaches base left folder)
  (areNames : ∀ next ∈ front ++ [name], IsName next)
  (followable : base.Followable (front ++ [name]))
  (isFolder : ∃ stamps entries, tree.get? (folder ++ front) = some (.folder stamps entries))

include reaches areNames followable isFolder

/-- Where a path goes down to where nothing is in a folder, a folder is made. -/
theorem makeFolder_down (free : tree.get? (folder ++ (front ++ [name])) = none) :
    tree.makeFolder (base.down (front ++ [name])) =
      .ok (tree.insert (folder ++ (front ++ [name])) (.emptyFolder tree.now)) := by
  have leads := resolve_down reaches areNames followable isFolder .keep
    fun _ linked => by cases free.symm.trans linked
  rw [makeFolder, leads, free]

/-- A folder is made at the end of a path that goes down to where nothing is. -/
theorem makeFolders_down (free : tree.get? (folder ++ (front ++ [name])) = none) :
    ∃ later, makeFolders (base.down (front ++ [name])) tree = (.ok (), later) ∧
      ∀ other, later.substance? other =
        if other = folder ++ (front ++ [name]) then some .folder else tree.substance? other := by
  have made := makeFolder_down reaches areNames followable isFolder free
  obtain ⟨stamps, entries, found⟩ := isFolder
  have somewhere : (base.down (front ++ [name])).components ≠ [] := by
    rw [Path.down_concat]
    exact Path.components_child_ne_nil _ (areNames name (by simp))
  refine ⟨_, makeFolders_of_makeFolder somewhere made, ?_⟩
  rw [← List.append_assoc] at free ⊢
  exact substance?_insert found free fun _ _ => rfl

/-- A file is written at the end of a path that goes down to where nothing is. -/
theorem write_down (free : tree.get? (folder ++ (front ++ [name])) = none) (bytes : List UInt8) :
    ∃ later, tree.write (base.down (front ++ [name])) bytes = .ok later ∧
      ∀ other, later.substance? other =
        if other = folder ++ (front ++ [name]) then some (.file bytes)
        else tree.substance? other := by
  obtain ⟨stamps, entries, found⟩ := isFolder
  have leads := resolve_down reaches areNames followable ⟨stamps, entries, found⟩ .follow
    fun _ linked => by cases free.symm.trans linked
  have opens : tree.truncate (base.down (front ++ [name])) =
      .ok (tree.insert (folder ++ (front ++ [name])) (.file (.ofInstant tree.now) false []),
        folder ++ (front ++ [name])) := by
    rw [truncate, leads, free]
    rfl
  refine ⟨_, by rw [write, opens], fun other => ?_⟩
  rw [← List.append_assoc] at free ⊢
  rw [substance?_rewrite _ (get?_insert_self _ found), substance?_insert found free fun _ _ => rfl]
  split <;> rfl

/-- The mode of a file is set at the end of a path that goes down to it. -/
theorem setExecutable_down {bytes : List UInt8}
    (isFile : tree.substance? (folder ++ (front ++ [name])) = some (.file bytes))
    (executable : Bool) :
    ∃ later, tree.setExecutable (base.down (front ++ [name])) executable = .ok later ∧
      ∀ other, later.substance? other = tree.substance? other := by
  obtain ⟨stamps, executable', found⟩ := substance?_eq_file.mp isFile
  have leads := resolve_down reaches areNames followable isFolder .follow
    fun _ linked => by cases found.symm.trans linked
  refine ⟨tree.edit (folder ++ (front ++ [name])) (.setExecutable executable), ?_,
    fun other => substance?_setExecutable _ other executable⟩
  rw [setExecutable, locate, leads, found]
  rfl

end

end FileTree

end FileQuery

import FileQuery.Proofs.FileTree.Contents

/-!
# Nodes one by one

A node without what is below it is its shell. To put a file into a folder changes two shells: that
of the file, and if the file is new, that of the folder, which was touched. Two trees with the same
shells differ only in the order in which their folders list their entries.
-/

namespace FileQuery

namespace Node

/-- A node without what is below it. -/
def shell : Node → Node
  | file stamps executable bytes => file stamps executable bytes
  | folder stamps _ => folder stamps []
  | link target => link target

/-- A folder after something happened in it. -/
def touch (now : Instant) : Node → Node
  | folder stamps entries => folder (stamps.touched now) entries
  | other => other

/-- A change below a node does not show in its shell. -/
theorem shell_modify (node : Node) (name : String) (rest : Place) (change : Node → Node) :
    (node.modify (name :: rest) change).shell = node.shell := by
  cases node <;> rfl

theorem shell_insertEntry (now : Instant) (name : String) (made node : Node) :
    (insertEntry now name made node).shell = node.shell.touch now := by
  cases node <;> rfl

/-- To touch a folder once more at the same time changes nothing. -/
theorem touch_touch (now : Instant) (node : Node) :
    (node.touch now).touch now = node.touch now := by
  cases node <;> rfl

end Node

namespace FileTree

/-- The shell of the node at a place. -/
def shell? (tree : FileTree) (place : Place) : Option Node := (tree.get? place).map Node.shell

/-- Two trees with the same nodes, whatever the order of the entries in their folders. -/
structure Alike (tree other : FileTree) : Prop where
  working : other.working = tree.working
  now : other.now = tree.now
  shells : ∀ place, other.shell? place = tree.shell? place

variable {tree : FileTree} {place other folder : Place} {name : String}

theorem Alike.refl (tree : FileTree) : tree.Alike tree := ⟨rfl, rfl, fun _ => rfl⟩

theorem Alike.symm {other : FileTree} (alike : tree.Alike other) : other.Alike tree :=
  ⟨alike.working.symm, alike.now.symm, fun place => (alike.shells place).symm⟩

theorem Alike.trans {middle other : FileTree} (first : tree.Alike middle)
    (second : middle.Alike other) : tree.Alike other :=
  ⟨second.working.trans first.working, second.now.trans first.now,
    fun place => (second.shells place).trans (first.shells place)⟩

/-! ## What a shell tells -/

section

variable {stamps : Stamps} {executable : Bool} {bytes : List UInt8} {entries : List (String × Node)}
  {target : String}

theorem exists_folder_of_shell? (shows : tree.shell? place = some (.folder stamps [])) :
    ∃ entries, tree.get? place = some (.folder stamps entries) := by
  obtain ⟨node, found, same⟩ := Option.map_eq_some_iff.mp shows
  cases node with
  | folder =>
    obtain ⟨rfl, -⟩ := Node.folder.inj same
    exact ⟨_, found⟩
  | file | link => cases same

theorem get?_of_shell?_link (shows : tree.shell? place = some (.link target)) :
    tree.get? place = some (.link target) := by
  obtain ⟨node, found, same⟩ := Option.map_eq_some_iff.mp shows
  cases node with
  | link =>
    obtain rfl := Node.link.inj same
    exact found
  | file | folder => cases same

theorem get?_of_shell?_file (shows : tree.shell? place = some (.file stamps executable bytes)) :
    tree.get? place = some (.file stamps executable bytes) := by
  obtain ⟨node, found, same⟩ := Option.map_eq_some_iff.mp shows
  cases node with
  | file =>
    obtain ⟨rfl, rfl, rfl⟩ := Node.file.inj same
    exact found
  | folder | link => cases same

theorem shell?_folder (found : tree.get? place = some (.folder stamps entries)) :
    tree.shell? place = some (.folder stamps []) := by
  rw [shell?, found]
  rfl

theorem shell?_file (found : tree.get? place = some (.file stamps executable bytes)) :
    tree.shell? place = some (.file stamps executable bytes) := by
  rw [shell?, found]
  rfl

theorem shell?_link (found : tree.get? place = some (.link target)) :
    tree.shell? place = some (.link target) := by
  rw [shell?, found]
  rfl

end

/-- A change at a place shows in no shell above it. -/
theorem shell_modify_above {below : Place} (deeper : below ≠ []) (change : Node → Node) :
    ((tree.root.modify (place ++ below) change).get? place).map Node.shell =
      tree.shell? place := by
  obtain ⟨name, rest, rfl⟩ := List.exists_cons_of_ne_nil deeper
  rw [Node.get?_modify_above, Option.map_map, shell?, get?]
  congr 1
  funext node
  exact node.shell_modify name rest change

/-- A tree with a change at a place. -/
def edit (tree : FileTree) (place : Place) (change : Node → Node) : FileTree :=
  { tree with root := tree.root.modify place change }

/-- A change of a node that leaves its entries alone shows nowhere else. -/
theorem shell?_edit_other {change : Node → Node}
    (alone : ∀ node name rest, (change node).get? (name :: rest) = node.get? (name :: rest))
    (differs : other ≠ place) : (tree.edit place change).shell? other = tree.shell? other := by
  rw [shell?, get?, edit]
  by_cases above : other <+: place
  · obtain ⟨below, rfl⟩ := above
    have deeper : below ≠ [] := by
      rintro rfl
      simp at differs
    exact shell_modify_above deeper _
  by_cases under : place <+: other
  · obtain ⟨below, rfl⟩ := under
    have deeper : below ≠ [] := by
      rintro rfl
      simp at differs
    obtain ⟨name, rest, rfl⟩ := List.exists_cons_of_ne_nil deeper
    rw [Node.get?_modify_below, shell?, get?, Node.get?_append]
    congr 2
    funext node
    exact alone node name rest
  · rw [Node.get?_modify_other _ _ under above]
    rfl

/-- What is written to a file shows at its place. -/
theorem get?_rewrite_self (place : Place) (executable : Bool) (bytes : List UInt8) :
    (tree.rewrite place executable bytes).get? place =
      (tree.get? place).map (.rewrite tree.now executable bytes) :=
  Node.get?_modify_self _ _ _

/-- What is written to a file shows nowhere else. -/
theorem shell?_rewrite_other (executable : Bool) (bytes : List UInt8) (differs : other ≠ place) :
    (tree.rewrite place executable bytes).shell? other = tree.shell? other :=
  shell?_edit_other (fun node _ _ => by cases node <;> rfl) differs

/-- What is put into a folder is there. -/
theorem get?_insert_self {stamps : Stamps} {entries : List (String × Node)} (made : Node)
    (isFolder : tree.get? folder = some (.folder stamps entries)) :
    (tree.insert (folder ++ [name]) made).get? (folder ++ [name]) = some made := by
  rw [insert_concat, get?, Node.get?_modify_below, ← get?, isFolder]
  simp [Node.insertEntry, Node.get?, Node.lookup_put_self]

/-- A folder into which something is put was touched. -/
theorem shell?_insert_folder (made : Node) :
    (tree.insert (folder ++ [name]) made).shell? folder =
      (tree.shell? folder).map (.touch tree.now) := by
  rw [insert_concat, shell?, get?, Node.get?_modify_self, Option.map_map, shell?, Option.map_map]
  congr 1
  funext node
  exact Node.shell_insertEntry _ _ _ _

/-- What is put where nothing was shows nowhere else, if it has no entries. -/
theorem shell?_insert_other {made : Node} (free : tree.get? (folder ++ [name]) = none)
    (empty : ∀ next rest, made.get? (next :: rest) = none) (notFolder : other ≠ folder)
    (differs : other ≠ folder ++ [name]) :
    (tree.insert (folder ++ [name]) made).shell? other = tree.shell? other := by
  rw [insert_concat, shell?, get?]
  by_cases above : other <+: folder
  · obtain ⟨below, rfl⟩ := above
    have deeper : below ≠ [] := by
      rintro rfl
      simp at notFolder
    exact shell_modify_above deeper _
  by_cases under : folder <+: other
  · obtain ⟨below, rfl⟩ := under
    obtain ⟨next, rest, rfl⟩ := List.exists_cons_of_ne_nil (l := below) (by
      rintro rfl
      simp at notFolder)
    rw [Node.get?_modify_below, shell?, get?, Node.get?_append]
    rw [get?, Node.get?_append] at free
    cases found : tree.root.get? folder with
    | none => rfl
    | some node =>
      rw [found] at free
      cases node with
      | file | link => rfl
      | folder stamps entries =>
        simp only [Option.bind_some, Node.insertEntry, Node.get?]
        by_cases same : next = name
        · subst same
          obtain ⟨deeper, more, rfl⟩ := List.exists_cons_of_ne_nil (l := rest) (by
            rintro rfl
            simp at differs)
          have nothing : entries.lookup next = none := by
            cases child : entries.lookup next with
            | none => rfl
            | some node => simp [Node.get?, child] at free
          simp [Node.lookup_put_self, nothing, empty]
        · rw [Node.lookup_put_other _ _ same]
  · rw [Node.get?_modify_other _ _ under above]
    rfl

end FileTree

end FileQuery

import FileQuery.Proofs.Execution.Comprehension
import FileQuery.Proofs.FileTree.Relocation
import FileQuery.Proofs.FileTree.NewFolders

/-!
# Paths to entries, and copies that lie over entries

A path that ends with a name, or with a name and a slash, leads to the entry of that name in the
folder to which it leads before. So what comes of listing a folder, making one and copying a file by
such paths depends only on whether the paths can be followed and on the entries. An entry is never
missed on the way to it, because the folder is there.
-/

namespace FileQuery

section

open FileTree (speaks)

namespace Path

/-- A path with a slash at its end, or without. -/
def slashed (path : Path) (slash : Bool) : Path := if slash then path.child "" else path

variable {base : Path} {name next : String} (slash : Bool)

/-- What follows a path to a name comes after a slash. -/
theorem join_child (base : Path) (isName : IsName name) {path : Path}
    (relative : path.isAbsolute = false) :
    (base.child name).join path = ⟨(base.child name).text ++ "/" ++ path.text⟩ := by
  have ends : ∃ before, (base.child name).text.toList = before ++ name.toList := by
    by_cases empty : base.text.toList = []
    · have noText : base.text = "" := by simpa using empty
      exact ⟨[], by simp [child, join, isName.relative, noText]⟩
    · obtain ⟨before, whole, -⟩ := join_text isName.relative empty
      exact ⟨before ++ ['/'], by rw [child, whole]; simp⟩
  obtain ⟨before, whole⟩ := ends
  have some_text : name.toList ≠ [] := by simpa using isName.nonempty
  have nonempty : (base.child name).text.isEmpty = false := by
    have text : (base.child name).text.toList ≠ [] := by simp [whole, some_text]
    simpa using text
  have unslashed : ((base.child name).text.toList.getLast? == some '/') = false := by
    rw [whole, List.getLast?_append_of_ne_nil _ some_text, beq_eq_false_iff_ne]
    exact fun last => isName.unslashed (List.mem_of_getLast? last)
  rw [join, relative, nonempty, unslashed]
  rfl

/-- Going down from a path to a name is the same with a slash after it. -/
theorem slashed_child (isName : IsName name) (isName' : IsName next) :
    ((base.child name).slashed slash).child next = (base.child name).child next := by
  unfold slashed
  split
  · have whole : (base.child name).child "" = ⟨(base.child name).text ++ "/" ++ ""⟩ :=
      join_child base isName rfl
    have after : (base.child name).child next = ⟨(base.child name).text ++ "/" ++ next⟩ :=
      join_child base isName isName'.relative
    rw [whole, after, child, join, isName'.relative]
    simp
  · rfl

theorem Within.slashed {rest : List String} {path : Path} (within : base.Within path rest) :
    base.Within (path.slashed slash) rest := by
  unfold Path.slashed
  split
  · exact within.child_empty
  · exact within

/-- The segments of a path to a name, with a slash after it. -/
theorem names_slashed (base : Path) (isName : IsName name) :
    ∃ front, FileTree.names ((base.child name).slashed slash).text =
        front ++ name :: (if slash then [""] else []) ∧
      front.filter speaks = (FileTree.names base.text).filter speaks := by
  obtain ⟨front, whole, same⟩ := FileTree.names_child base isName
  refine ⟨front, ?_, same⟩
  cases slash with
  | false => exact whole
  | true =>
    have after : (base.child name).child "" = ⟨(base.child name).text ++ "/" ++ ""⟩ :=
      join_child base isName rfl
    have text : ((base.child name).child "").text.toList =
        (base.child name).text.toList ++ '/' :: [] := by simp [after]
    rw [slashed, if_pos rfl, FileTree.names, text, segments_append_slash, List.map_append,
      ← FileTree.names, whole, List.append_assoc]
    rfl

end Path

namespace FileTree

variable {tree : FileTree} {base source target : Path} {left : Nat} {folder : Place}
  {name : String} {stamps : Stamps} {entries : List (String × Node)} (slash : Bool)

/-- A path to a name comes out there, whether or not a slash follows the name. -/
theorem resolve_slashed (reaches : tree.Reaches base left folder) (isName : IsName name)
    (last : LastLink) (unlinked : ∀ target, tree.get? (folder ++ [name]) ≠ some (.link target)) :
    tree.resolve last ((base.child name).slashed slash) =
      match namingFault ((base.child name).slashed slash) name with
      | some error => .error error
      | none => .ok ⟨folder ++ [name], tree.get? (folder ++ [name]), slash⟩ := by
  obtain ⟨front, whole, same⟩ := Path.names_slashed slash base isName
  have within := ((Path.Within.refl base).child isName).slashed slash
  have leads := Leads.congr reaches same
  have goesOn : (name :: if slash then [""] else []).all (· == "") = false := by
    simp [isName.nonempty]
  have atEnd : (if slash then [""] else []).all (· == "") = true := by cases slash <;> rfl
  have silent : (!(if slash then [""] else []).isEmpty) = slash := by cases slash <;> rfl
  unfold resolve namingFault
  cases checkPath ((base.child name).slashed slash).text with
  | error error => rfl
  | ok _ =>
    dsimp only
    rw [within.start_eq, whole, leads.descend_append last goesOn, descend,
      if_neg (not_or.mpr ⟨isName.nonempty, isName.notHere⟩), if_neg isName.notParent]
    split
    · rfl
    · dsimp only
      rw [atEnd, silent]
      cases found : tree.get? (folder ++ [name]) with
      | none => rfl
      | some node =>
        cases node with
        | file | folder => rfl
        | link target => exact absurd found (unlinked target)

/-- A path to a name is not empty, so the system finds no fault that says that nothing is there. -/
theorem namingFault_slashed_ne_notFound (base : Path) (isName : IsName name) :
    namingFault ((base.child name).slashed slash) name ≠ some .notFound := by
  intro fault
  obtain ⟨front, whole, -⟩ := Path.names_slashed slash base isName
  unfold namingFault at fault
  split at fault
  · rename_i check
    obtain rfl := Option.some.inj fault
    rw [eq_empty_of_checkPath check] at whole
    have alone : front ++ name :: (if slash then [""] else []) = [""] := whole.symm
    have among : name ∈ front ++ name :: (if slash then [""] else []) := by simp
    rw [alone] at among
    exact isName.nonempty (List.mem_singleton.mp among)
  · split at fault <;> cases fault

/-- A path can be followed if it can be with a slash after it. -/
theorem namingFault_of_slashed {slash : Bool} (isName : IsName name)
    (fault : namingFault ((base.child name).slashed slash) name = none) :
    namingFault (base.child name) name = none := by
  have after : (base.child name).child "" = ⟨(base.child name).text ++ "/" ++ ""⟩ :=
    Path.join_child base isName rfl
  have starts :
      (base.child name).text.toList <+: ((base.child name).slashed slash).text.toList := by
    unfold Path.slashed
    split
    · rw [after]
      simp
    · exact List.prefix_refl _
  have nonempty : (base.child name).text.toList ≠ [] := by
    intro empty
    have ends := Path.fileName?_child base isName
    have noText : (base.child name).text = "" := by simpa using empty
    rw [← show Path.mk (base.child name).text = base.child name from rfl, noText] at ends
    cases ends
  unfold namingFault at fault ⊢
  split at fault
  · cases fault
  · rename_i fits
    have fits' : checkPath (base.child name).text = .ok () :=
      checkPath_of_prefix starts nonempty fits
    rw [fits']
    exact fault

/-- What comes of making the folder of a name in a folder. -/
theorem makeFolders_slashed (reaches : tree.Reaches base left folder) (isName : IsName name)
    (unlinked : ∀ target, tree.get? (folder ++ [name]) ≠ some (.link target)) :
    makeFolders ((base.child name).slashed slash) tree =
      match namingFault ((base.child name).slashed slash) name, tree.get? (folder ++ [name]) with
      | some error, _ => (.error error, tree)
      | none, none => (.ok (), tree.insert (folder ++ [name]) (.emptyFolder tree.now))
      | none, some (.folder ..) => (.ok (), tree)
      | none, some _ => (.error .alreadyExists, tree) := by
  have within := ((Path.Within.refl base).child isName).slashed slash
  have somewhere : ((base.child name).slashed slash).components ≠ [] := by
    intro none
    simpa [Path.steps_eq_nil none] using within.steps
  have present := namingFault_slashed_ne_notFound slash base isName
  have leads := resolve_slashed slash reaches isName .keep unlinked
  have leads' := resolve_slashed slash reaches isName .follow unlinked
  rw [makeFolders, makeMissing]
  dsimp only
  rw [if_neg somewhere, makeFolder, leads]
  unfold unlessFolder isFolder find locate
  rw [leads']
  cases fault : namingFault ((base.child name).slashed slash) name with
  | some error =>
    rw [fault] at present
    cases error <;> first | exact absurd rfl present | rfl
  | none =>
    dsimp only
    cases found : tree.get? (folder ++ [name]) with
    | none => rfl
    | some node =>
      cases node with
      | folder => cases slash <;> rfl
      | file => cases slash <;> rfl
      | link target => exact absurd found (unlinked target)

/-- What comes of listing the folder of a name in a folder. -/
theorem list_child (reaches : tree.Reaches base left folder) (isName : IsName name)
    (isFolder : tree.get? (folder ++ [name]) = some (.folder stamps entries)) :
    tree.list (base.child name) =
      match namingFault (base.child name) name with
      | some error => .error error
      | none => .ok entries := by
  have unlinked (target : String) : tree.get? (folder ++ [name]) ≠ some (.link target) :=
    fun linked => by cases isFolder.symm.trans linked
  rw [list, find, locate, resolve_child reaches isName .follow fun _ _ => unlinked, isFolder]
  cases namingFault (base.child name) name <;> rfl

/-- A tree with an empty file at a place, or with what there was emptied. -/
def opened (tree : FileTree) (place : Place) : FileTree :=
  match tree.get? place with
  | some (.file _ executable _) => tree.rewrite place executable []
  | _ => tree.insert place (.file (.ofInstant tree.now) false [])

/-- What comes of copying a file to a name in a folder. -/
theorem copyFile_child {base' : Path} {left' : Nat} {folder' : Place} {executable : Bool}
    {bytes : List UInt8} (reaches : tree.Reaches base left folder)
    (reaches' : tree.Reaches base' left' folder') (isName : IsName name)
    (isFile : tree.get? (folder ++ [name]) = some (.file stamps executable bytes))
    (unlinked : ∀ target, tree.get? (folder' ++ [name]) ≠ some (.link target)) :
    tree.copyFile (base.child name) (base'.child name) =
      match namingFault (base.child name) name, namingFault (base'.child name) name,
        tree.get? (folder' ++ [name]) with
      | some error, _, _ => .error error
      | none, some error, _ => .error error
      | none, none, some (.folder ..) => .error .isFolder
      | none, none, _ =>
        .ok ((tree.opened (folder' ++ [name])).rewrite (folder' ++ [name]) executable
          ((((tree.opened (folder' ++ [name])).get? (folder ++ [name])).map Node.bytes).getD
            [])) := by
  have unlinked' (target : String) : tree.get? (folder ++ [name]) ≠ some (.link target) :=
    fun linked => by cases isFile.symm.trans linked
  rw [copyFile, locate, resolve_child reaches isName .follow fun _ _ => unlinked', isFile]
  cases namingFault (base.child name) name with
  | some error => rfl
  | none =>
    dsimp only
    rw [truncate, resolve_child reaches' isName .follow fun _ _ => unlinked, opened]
    cases namingFault (base'.child name) name with
    | some error => rfl
    | none =>
      dsimp only
      cases found : tree.get? (folder' ++ [name]) with
      | none => rfl
      | some node =>
        cases node with
        | file | folder => rfl
        | link target => exact absurd found (unlinked target)

end FileTree

end

/-!
## Copying entries from folder to folder

A copy of an entry lies over what had its name in the other folder: where the entry has a file or a
folder there is the same file or a folder afterwards, and else what was there before. Neither folder
may be in the entry of the other one: then the entries that are copied later, and what their copies
will lie over, are not changed by it, so entries can be copied one after another in any order.
-/

section

variable {tree before later : FileTree} {source goal place other : Place} {name : String}
  {names : List String} {node : Node} {stamps : Stamps} {executable : Bool} {bytes : List UInt8}
  {entries : List (String × Node)}

namespace FileTree

/-- What has the same shell in two trees has the same substance. -/
theorem substance?_congr (same : tree.shell? place = later.shell? place) :
    tree.substance? place = later.substance? place := by
  rw [substance?_eq_shell?, substance?_eq_shell?, same]

theorem get?_eq_none_congr (same : tree.shell? place = later.shell? place) :
    tree.get? place = none ↔ later.get? place = none := by
  rw [← substance?_eq_none, ← substance?_eq_none, substance?_congr same]

theorem Keeps.isFolder (keeps : tree.Keeps later)
    (isFolder : ∃ stamps entries, tree.get? place = some (.folder stamps entries)) :
    ∃ stamps entries, later.get? place = some (.folder stamps entries) := by
  obtain ⟨stamps, entries, found⟩ := isFolder
  exact keeps.folders place stamps entries found

/-- Writing to a file takes nothing out of a tree. -/
theorem keeps_rewrite (tree : FileTree) (place : Place) (executable : Bool) (bytes : List UInt8) :
    tree.Keeps (tree.rewrite place executable bytes) :=
  keeps_edit (fun _ _ _ => ⟨_, _, _, rfl⟩) (fun _ _ => rfl) fun _ => rfl

/-! ### What lies over what -/

/-- Whether an entry of one folder would be new in another one. -/
def Enters (tree : FileTree) (source goal : Place) (name : String) : Prop :=
  tree.get? (source ++ [name]) ≠ none ∧ tree.get? (goal ++ [name]) = none

theorem enters_congr
    (origin : tree.shell? (source ++ [name]) = later.shell? (source ++ [name]))
    (replaced : tree.shell? (goal ++ [name]) = later.shell? (goal ++ [name])) :
    tree.Enters source goal name ↔ later.Enters source goal name :=
  and_congr (not_congr (get?_eq_none_congr origin)) (get?_eq_none_congr replaced)

end FileTree

namespace Node

open Classical in
/-- A folder after entries came into it, if any did. -/
noncomputable def grow (now : Instant) (grows : Prop) (node : Node) : Node :=
  if grows then node.touch now else node

theorem grow_congr {now : Instant} {grows grows' : Prop} (same : grows ↔ grows') (node : Node) :
    node.grow now grows = node.grow now grows' := by
  rw [propext same]

theorem grow_of {now : Instant} {grows : Prop} (holds : grows) (node : Node) :
    node.grow now grows = node.touch now := if_pos holds

theorem grow_of_not {now : Instant} {grows : Prop} (fails : ¬ grows) (node : Node) :
    node.grow now grows = node := if_neg fails

theorem grow_grow {now : Instant} {grows grows' : Prop} (node : Node) :
    (node.grow now grows).grow now grows' = node.grow now (grows ∨ grows') := by
  unfold grow
  by_cases first : grows <;> by_cases second : grows' <;> simp [first, second, touch_touch]

/-- What is at a place after something was copied there. A file is what was copied, with the stamps
    of the file that it was copied over. A folder stays what it was, whether or not entries came
    into it. -/
noncomputable def laid (now : Instant) (grows : Prop) : Option Node → Option Node → Option Node
  | some (file _ executable bytes), some (file stamps _ _) =>
    some (file (stamps.touched now) executable bytes)
  | some (file _ executable bytes), _ => some (file (.ofInstant now) executable bytes)
  | some (folder ..), some (folder stamps entries) => some (grow now grows (folder stamps entries))
  | some (folder ..), _ => some (emptyFolder now)
  | _, replaced => replaced

theorem laid_congr {now : Instant} {grows grows' : Prop} (same : grows ↔ grows')
    (origin replaced : Option Node) :
    laid now grows origin replaced = laid now grows' origin replaced := by
  rw [propext same]

end Node

namespace FileTree

/-- A tree after the entries with some names were copied from one folder to another one. -/
structure Overlaid (before : FileTree) (source goal : Place) (names : List String)
    (tree : FileTree) : Prop where
  plain : tree.Plain
  keeps : before.Keeps tree
  now : tree.now = before.now
  laid : ∀ name ∈ names, ∀ below, tree.shell? (goal ++ name :: below) =
    Node.laid before.now
      (∃ next, before.Enters (source ++ name :: below) (goal ++ name :: below) next)
      (before.shell? (source ++ name :: below)) (before.shell? (goal ++ name :: below))
  touched : tree.shell? goal =
    (before.shell? goal).map (.grow before.now (∃ name ∈ names, before.Enters source goal name))
  elsewhere : ∀ other, other ≠ goal → (∀ name ∈ names, ¬ goal ++ [name] <+: other) →
    tree.shell? other = before.shell? other

namespace Overlaid

theorem refl (plain : before.Plain) (source goal : Place) :
    before.Overlaid source goal [] before where
  plain := plain
  keeps := .refl before
  now := rfl
  laid := by simp
  touched := by
    cases before.shell? goal with
    | none => rfl
    | some node => exact congrArg some (Node.grow_of_not (by simp) node).symm
  elsewhere _ _ _ := rfl

/-- Where there is something to copy it is there afterwards, and else what was there before. -/
theorem copied (overlaid : before.Overlaid source goal names tree) (plain : before.Plain)
    (listed : name ∈ names) (below : Place) : tree.substance? (goal ++ name :: below) =
      (before.substance? (source ++ name :: below)).or
        (before.substance? (goal ++ name :: below)) := by
  rw [substance?_eq_shell?, overlaid.laid name listed below, substance?_eq_shell?,
    substance?_eq_shell?]
  cases origin : before.shell? (source ++ name :: below) with
  | none => rfl
  | some node =>
    cases node with
    | link target => exact absurd (get?_of_shell?_link origin) (plain.unlinked _ target)
    | file =>
      rcases before.shell? (goal ++ name :: below) with _ | ⟨_ | _ | _⟩ <;> rfl
    | folder =>
      rcases before.shell? (goal ++ name :: below) with _ | ⟨_ | _ | _⟩ <;>
        first | rfl | simp only [Node.laid, Node.grow]; split <;> rfl

/-- Where there is nothing to copy everything is as it was. -/
theorem spared (overlaid : before.Overlaid source goal names tree) (listed : name ∈ names)
    {below : Place} (nothing : before.get? (source ++ name :: below) = none) :
    tree.shell? (goal ++ name :: below) = before.shell? (goal ++ name :: below) := by
  rw [overlaid.laid name listed below, shell?, nothing]
  rfl

/-- What is still to be copied is as it was, and so is what its copy will lie over. -/
theorem untouched (overlaid : before.Overlaid source goal names tree)
    (clear : ∀ next ∈ names, Clears source goal next) (clears : Clears source goal name)
    (fresh : name ∉ names) (below : Place) :
    tree.shell? (source ++ name :: below) = before.shell? (source ++ name :: below) ∧
      tree.shell? (goal ++ name :: below) = before.shell? (goal ++ name :: below) := by
  have entry (place : Place) : place ++ [name] <+: place ++ name :: below :=
    (List.prefix_append_right_inj place).mpr (by simp)
  constructor
  · refine overlaid.elsewhere _ ?_ fun next listed => ?_
    · exact fun same => clears.leaves (same ▸ entry source)
    · exact not_prefix_below clears.differs (clear next listed).enters clears.leaves
  · exact overlaid.elsewhere _ (by simp) fun next listed =>
      not_prefix_sibling fun same => fresh (same ▸ listed)

/-- One more entry is copied. -/
theorem step {copied : FileTree} (overlaid : before.Overlaid source goal names tree)
    (clear : ∀ next ∈ names, Clears source goal next) (clears : Clears source goal name)
    (fresh : name ∉ names) (more : tree.Overlaid source goal [name] copied) :
    before.Overlaid source goal (names ++ [name]) copied := by
  have untouched := overlaid.untouched clear clears fresh
  have enters (below : Place) (next : String) :
      tree.Enters (source ++ name :: below) (goal ++ name :: below) next ↔
        before.Enters (source ++ name :: below) (goal ++ name :: below) next := by
    have whole (place : Place) : place ++ name :: below ++ [next] =
        place ++ name :: (below ++ [next]) := by simp
    obtain ⟨origin, replaced⟩ := untouched (below ++ [next])
    exact enters_congr (by rwa [whole]) (by rwa [whole])
  refine ⟨more.plain, overlaid.keeps.trans more.keeps, more.now.trans overlaid.now,
    fun other member below => ?_, ?_, fun other differs apart => ?_⟩
  · rcases List.mem_append.mp member with old | new
    · have kept := more.elsewhere (goal ++ other :: below)
        (by simp)
        (List.forall_mem_singleton.mpr (not_prefix_sibling fun same => fresh (same ▸ old)))
      rw [kept, overlaid.laid other old below]
    · obtain rfl := List.mem_singleton.mp new
      obtain ⟨origin, replaced⟩ := untouched below
      rw [more.laid other (List.mem_singleton.mpr rfl) below, overlaid.now, origin, replaced]
      exact Node.laid_congr (exists_congr (enters below)) _ _
  · have enters_ : tree.Enters source goal name ↔ before.Enters source goal name := by
      obtain ⟨origin, replaced⟩ := untouched []
      exact enters_congr origin replaced
    rw [more.touched, overlaid.touched, overlaid.now, Option.map_map]
    congr 1
    funext node
    simp only [Function.comp, Node.grow_grow]
    refine Node.grow_congr ?_ node
    simp [or_and_right, exists_or, enters_]
  · rw [more.elsewhere other differs (List.forall_mem_singleton.mpr (apart name (by simp))),
      overlaid.elsewhere other differs fun next listed =>
        apart next (List.mem_append_left _ listed)]

end Overlaid

/-! ### A file -/

/-- The names on the way to something in a plain tree are names that a path can go down by. -/
theorem Plain.areNames (plain : tree.Plain) (found : tree.get? place = some node) :
    ∀ name ∈ place, IsName name :=
  (named_iff_throughout.mp plain.named).areNames found

/-- A tree in which an entry of a folder was opened for writing. -/
structure Opened (before : FileTree) (goal : Place) (name : String) (tree : FileTree) : Prop where
  plain : tree.Plain
  keeps : before.Keeps tree
  now : tree.now = before.now
  isFile : ∃ stamps executable, tree.get? (goal ++ [name]) = some (.file stamps executable []) ∧
    ∀ grows stamps' executable' bytes,
      Node.laid before.now grows (some (.file stamps' executable' bytes))
          (before.shell? (goal ++ [name])) =
        some (.file (stamps.touched before.now) executable' bytes)
  touched : tree.shell? goal =
    (before.shell? goal).map (.grow before.now (before.get? (goal ++ [name]) = none))
  elsewhere : ∀ other, other ≠ goal → other ≠ goal ++ [name] →
    tree.shell? other = before.shell? other

/-- What is at the place of an entry of a folder in a plain tree can be opened for writing, if it is
    no folder. -/
theorem opened_effect (plain : tree.Plain) (isName : IsName name)
    (isFolder : ∃ stamps entries, tree.get? goal = some (.folder stamps entries))
    (noFolder : tree.substance? (goal ++ [name]) ≠ some .folder) :
    tree.Opened goal name (tree.opened (goal ++ [name])) := by
  obtain ⟨stamps, entries, isFolder⟩ := isFolder
  have areNames : ∀ next ∈ goal ++ [name], IsName next :=
    List.forall_mem_append.mpr ⟨plain.areNames isFolder, List.forall_mem_singleton.mpr isName⟩
  unfold opened
  cases found : tree.get? (goal ++ [name]) with
  | none =>
    dsimp only
    refine ⟨plain.insert (Node.plain_file _ _ _) areNames, keeps_insert found fun _ _ => rfl,
      now_insert _ _ _, ⟨_, _, get?_insert_self _ isFolder, ?_⟩, ?_, fun other differs differs' =>
        shell?_insert_other found (fun _ _ => rfl) differs differs'⟩
    · rw [shell?, found]
      exact fun _ _ _ _ => rfl
    · rw [shell?_insert_folder, shell?_folder isFolder]
      exact congrArg some (Node.grow_of found _).symm
  | some node =>
    cases node with
    | folder => exact absurd (substance?_eq_folder.mpr ⟨_, _, found⟩) noFolder
    | link target => exact absurd found (plain.unlinked _ target)
    | file stamps' executable held =>
      have kept : some (Node.file (stamps'.touched tree.now) executable []) =
          (tree.get? (goal ++ [name])).map (.rewrite tree.now executable []) := by
        rw [found]
        rfl
      refine ⟨plain.rewrite _ _ _, keeps_rewrite _ _ _ _, now_rewrite _ _ _ _,
        ⟨_, _, (get?_rewrite_self _ _ _).trans kept.symm, ?_⟩, ?_,
        fun other _ differs' => shell?_rewrite_other _ _ differs'⟩
      · rw [shell?_file found]
        exact fun _ _ _ _ => rfl
      · rw [shell?_rewrite_other _ _ (by simp), shell?_folder isFolder]
        exact congrArg some (Node.grow_of_not (by simp [found]) _).symm

/-- A file that is copied to an entry of a folder lies over it. -/
theorem overlaid_file (plain : tree.Plain) (isName : IsName name)
    (isFolder : ∃ stamps entries, tree.get? goal = some (.folder stamps entries))
    (noFolder : tree.substance? (goal ++ [name]) ≠ some .folder)
    (isFile : tree.get? (source ++ [name]) = some (.file stamps executable bytes)) :
    tree.Overlaid source goal [name]
      ((tree.opened (goal ++ [name])).rewrite (goal ++ [name]) executable bytes) := by
  obtain ⟨plain', keeps, now, ⟨stamps', executable', opened_, laid⟩, touched, elsewhere⟩ :=
    opened_effect plain isName isFolder noFolder
  have nothing (next : String) (below : Place) :
      tree.shell? (source ++ name :: next :: below) = none := by
    rw [shell?, List.append_cons, get?_append, isFile]
    rfl
  have apart {other : Place} (differs : other ≠ goal) (differs' : other ≠ goal ++ [name]) :
      ((tree.opened (goal ++ [name])).rewrite (goal ++ [name]) executable bytes).shell? other =
        tree.shell? other := by
    rw [shell?_rewrite_other _ _ differs', elsewhere other differs differs']
  refine ⟨plain'.rewrite _ _ _, keeps.trans (keeps_rewrite _ _ _ _),
    (now_rewrite _ _ _ _).trans now, List.forall_mem_singleton.mpr fun below => ?_, ?_,
    fun other differs outside => apart differs ?_⟩
  · cases below with
    | nil =>
      rw [shell?_file isFile, laid, shell?, get?_rewrite_self, opened_, now]
      rfl
    | cons next below =>
      rw [nothing]
      exact apart (by simp) (by simp)
  · rw [shell?_rewrite_other _ _ (by simp), touched]
    congr 1
    funext node
    refine Node.grow_congr ?_ node
    simp [Enters, isFile]
  · rintro rfl
    exact outside name (List.mem_singleton.mpr rfl) (List.prefix_refl _)

/-! ### A folder -/

/-- A tree in which a folder has a folder of some name, which was made if it was not there. -/
structure Hosts (before : FileTree) (goal : Place) (name : String) (tree : FileTree) : Prop where
  plain : tree.Plain
  keeps : before.Keeps tree
  now : tree.now = before.now
  isFolder : ∃ stamps entries, tree.get? (goal ++ [name]) = some (.folder stamps entries)
  hosted : tree.shell? (goal ++ [name]) =
    some ((before.shell? (goal ++ [name])).getD (.emptyFolder before.now))
  touched : tree.shell? goal =
    (before.shell? goal).map (.grow before.now (before.get? (goal ++ [name]) = none))
  elsewhere : ∀ other, other ≠ goal → other ≠ goal ++ [name] →
    tree.shell? other = before.shell? other

/-- The folder is made where nothing is. -/
theorem hosts_insert (plain : tree.Plain) (isName : IsName name)
    (isFolder : ∃ stamps entries, tree.get? goal = some (.folder stamps entries))
    (free : tree.get? (goal ++ [name]) = none) :
    tree.Hosts goal name (tree.insert (goal ++ [name]) (.emptyFolder tree.now)) := by
  obtain ⟨stamps, entries, isFolder⟩ := isFolder
  have areNames : ∀ next ∈ goal ++ [name], IsName next :=
    List.forall_mem_append.mpr ⟨plain.areNames isFolder, List.forall_mem_singleton.mpr isName⟩
  have made : (tree.insert (goal ++ [name]) (.emptyFolder tree.now)).get? (goal ++ [name]) =
      some (.emptyFolder tree.now) := get?_insert_self _ isFolder
  refine ⟨plain.insert (Node.plain_emptyFolder _) areNames, keeps_insert free fun _ _ => rfl,
    now_insert _ _ _, ⟨_, _, made⟩, ?_, ?_, fun other differs differs' =>
      shell?_insert_other free (fun _ _ => rfl) differs differs'⟩
  · rw [shell?_folder made, shell?, free]
    rfl
  · rw [shell?_insert_folder, shell?_folder isFolder]
    exact congrArg some (Node.grow_of free _).symm

theorem hosts_refl (plain : tree.Plain)
    (isFolder : tree.get? (goal ++ [name]) = some (.folder stamps entries)) :
    tree.Hosts goal name tree := by
  refine ⟨plain, .refl tree, rfl, ⟨_, _, isFolder⟩, by rw [shell?_folder isFolder]; rfl, ?_,
    fun _ _ _ => rfl⟩
  have there : tree.get? (goal ++ [name]) ≠ none := by simp [isFolder]
  cases tree.shell? goal with
  | none => rfl
  | some node => exact congrArg some (Node.grow_of_not there node).symm

/-- The folder of a name is made, or was there, if the path can be followed and no file has the
    name. -/
theorem makeFolders_cases {folder : Path} {left : Nat} (slash : Bool) (plain : tree.Plain)
    (reaches : tree.Reaches folder left goal) (isName : IsName name)
    (isFolder : ∃ stamps entries, tree.get? goal = some (.folder stamps entries)) :
    (namingFault ((folder.child name).slashed slash) name = none ∧
          ∀ replaced, tree.substance? (goal ++ [name]) = some replaced → replaced = .folder) ∧
        (∃ made, makeFolders ((folder.child name).slashed slash) tree = (.ok (), made) ∧
          tree.Hosts goal name made) ∨
      ¬ (namingFault ((folder.child name).slashed slash) name = none ∧
          ∀ replaced, tree.substance? (goal ++ [name]) = some replaced → replaced = .folder) ∧
        ∃ error after, makeFolders ((folder.child name).slashed slash) tree =
          (.error error, after) ∧ error ≠ .notFound := by
  have present := namingFault_slashed_ne_notFound slash folder isName
  rw [makeFolders_slashed slash reaches isName (plain.unlinked _)]
  cases arrives : namingFault ((folder.child name).slashed slash) name with
  | some error =>
    exact .inr ⟨fun able => (by cases able.1), error, tree, rfl,
      fun same => present (same ▸ arrives)⟩
  | none =>
  rw [substance?]
  cases found : tree.get? (goal ++ [name]) with
  | none =>
    exact .inl ⟨⟨rfl, fun _ nothing => (by cases nothing)⟩, _, rfl,
      hosts_insert plain isName isFolder found⟩
  | some node =>
    cases node with
    | folder => exact .inl ⟨⟨rfl, fun _ same => (Option.some.inj same).symm⟩, _, rfl,
        hosts_refl plain found⟩
    | file =>
      exact .inr ⟨fun able => (by cases able.2 _ rfl), _, _, rfl, fun same => (by cases same)⟩
    | link target => exact absurd found (plain.unlinked _ target)

namespace Hosts

variable {copied : FileTree} (hosts : tree.Hosts goal name later) (clears : Clears source goal name)

include hosts

/-- What is below the folder is as it was. -/
theorem shell?_below (next : String) (below : Place) :
    later.shell? (goal ++ name :: next :: below) = tree.shell? (goal ++ name :: next :: below) :=
  hosts.elsewhere _ (by simp) (by simp)

include clears

/-- What is to be copied is as it was. -/
theorem shell?_source (below : Place) :
    later.shell? (source ++ name :: below) = tree.shell? (source ++ name :: below) := by
  have entry : source ++ [name] <+: source ++ name :: below :=
    (List.prefix_append_right_inj source).mpr (by simp)
  refine hosts.elsewhere _ (fun same => clears.leaves (same ▸ entry)) fun same => ?_
  have outside : ¬ goal ++ [name] <+: source ++ name :: below :=
    not_prefix_below clears.differs clears.enters clears.leaves
  exact outside (same ▸ List.prefix_refl _)

/-- What would be new below the folder is what would have been. -/
theorem enters_iff (below : Place) (next : String) :
    later.Enters (source ++ name :: below) (goal ++ name :: below) next ↔
      tree.Enters (source ++ name :: below) (goal ++ name :: below) next := by
  have whole (place : Place) :
      place ++ name :: below ++ [next] = place ++ name :: (below ++ [next]) := by simp
  refine enters_congr ?_ ?_ <;> rw [whole]
  · exact hosts.shell?_source clears _
  · cases below with
    | nil => exact hosts.shell?_below next []
    | cons first rest => exact hosts.shell?_below first (rest ++ [next])

/-- Where the entries of a folder were copied into the folder of its name, the folder was copied. -/
theorem overlaid (isFolder : tree.substance? (source ++ [name]) = some .folder)
    (fits : ∀ replaced, tree.substance? (goal ++ [name]) = some replaced → replaced = .folder)
    (all : ∀ next, tree.get? (source ++ [name, next]) ≠ none → next ∈ names)
    (overlaid : later.Overlaid (source ++ [name]) (goal ++ [name]) names copied) :
    tree.Overlaid source goal [name] copied := by
  obtain ⟨stamps, entries, isFolder⟩ := substance?_eq_folder.mp isFolder
  have enters := hosts.enters_iff clears
  have whole (place : Place) (next : String) (below : Place) :
      place ++ [name] ++ next :: below = place ++ name :: next :: below := by simp
  -- Entries that the copied folder does not have stay in the folder that it is copied to.
  have kept {next : String} (extra : next ∉ names) (below : Place) :
      copied.shell? (goal ++ name :: next :: below) =
        tree.shell? (goal ++ name :: next :: below) := by
    rw [← hosts.shell?_below, ← whole]
    exact overlaid.elsewhere _ (by simp) fun other listed =>
      not_prefix_sibling fun same => extra (same ▸ listed)
  have nothing {next : String} (extra : next ∉ names) (below : Place) :
      tree.shell? (source ++ name :: next :: below) = none := by
    have above : tree.get? (source ++ [name, next]) = none := by
      by_contra some_
      exact extra (all next some_)
    have split : source ++ name :: next :: below = source ++ [name, next] ++ below := by simp
    rw [shell?, split, get?_append, above]
    rfl
  refine ⟨overlaid.plain, hosts.keeps.trans overlaid.keeps, overlaid.now.trans hosts.now,
    List.forall_mem_singleton.mpr fun below => ?_, ?_, fun other differs outside => ?_⟩
  · cases below with
    | nil =>
      have same : (∃ next ∈ names, later.Enters (source ++ [name]) (goal ++ [name]) next) ↔
          ∃ next, tree.Enters (source ++ [name]) (goal ++ [name]) next := by
        simp only [enters []]
        constructor
        · rintro ⟨next, -, enters⟩
          exact ⟨next, enters⟩
        · rintro ⟨next, enters⟩
          refine ⟨next, all next fun none_ => enters.1 ?_, enters⟩
          rwa [List.append_assoc]
      rw [overlaid.touched, hosts.hosted, hosts.now, shell?_folder isFolder, propext same]
      cases found : tree.shell? (goal ++ [name]) with
      | none =>
        refine congrArg some ?_
        unfold Node.grow
        split <;> rfl
      | some replaced =>
        have isFolder' := fits replaced.substance (by rw [substance?_eq_shell?, found]; rfl)
        cases replaced with
        | file | link => cases isFolder'
        | folder => rfl
    | cons next below =>
      by_cases listed : next ∈ names
      · rw [← whole, overlaid.laid next listed below, hosts.now, whole, whole,
          hosts.shell?_source clears, hosts.shell?_below]
        exact Node.laid_congr (exists_congr (enters (next :: below))) _ _
      · rw [nothing listed, kept listed]
        rfl
  · have kept : copied.shell? goal = later.shell? goal :=
      overlaid.elsewhere goal (by simp) fun next _ within =>
        not_prefix_folder goal [next] name (by simpa using within)
    rw [kept, hosts.touched]
    congr 1
    funext node
    refine Node.grow_congr ?_ node
    simp [Enters, isFolder]
  · have outside' : ¬ goal ++ [name] <+: other := outside name (List.mem_singleton.mpr rfl)
    have differs' : other ≠ goal ++ [name] := by
      rintro rfl
      exact outside' (List.prefix_refl _)
    rw [← hosts.elsewhere other differs differs']
    exact overlaid.elsewhere other differs' fun next _ within =>
      outside' ((List.prefix_append _ _).trans within)

end Hosts

end FileTree

end

end FileQuery

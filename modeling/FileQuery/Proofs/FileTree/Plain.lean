import FileQuery.Proofs.FileTree.Lexical

/-!
# Plain trees and named trees

A tree is plain if it has no links, its entries have names that a path can go down by, and no
folder has two entries of one name. New folders and copies of files keep a tree plain.
-/

/-!
## Orderly nodes

A node is orderly if its entries have names that a path can go down by, each its own, and if it is
no link but one of those that are allowed. What is orderly throughout stays so when something
orderly is put into it, when an entry is taken out, and when a file is written to.
-/

namespace FileQuery

section

variable {α β : Type} [BEq α] [LawfulBEq α] {entries : List (α × β)} {key : α} {value : β}

/-- What is found under a key is listed with it. -/
theorem mem_of_lookup (found : entries.lookup key = some value) : (key, value) ∈ entries := by
  obtain ⟨before, after, rfl, -⟩ := List.lookup_eq_some_iff.mp found
  simp

/-- Where each key is listed once, what is listed is found under its key. -/
theorem lookup_of_mem (distinct : (entries.map (·.1)).Nodup) (member : (key, value) ∈ entries) :
    entries.lookup key = some value := by
  obtain ⟨before, after, rfl⟩ := List.append_of_mem member
  refine List.lookup_eq_some_iff.mpr ⟨before, after, rfl, fun entry earlier => ?_⟩
  rw [List.map_append, List.nodup_append] at distinct
  have differs := distinct.2.2 entry.1 (List.mem_map_of_mem earlier) key (by simp)
  simpa using Ne.symm differs

end

namespace Node

/-- A node whose entries have names, each its own, and whose target is allowed if it is a link. -/
def Orderly (allowed : String → Prop) : Node → Prop
  | file .. => True
  | link target => allowed target
  | folder _ entries => (∀ name ∈ entries.map (·.1), IsName name) ∧ (entries.map (·.1)).Nodup

/-- A node that is orderly with all that is below it. -/
def Throughout (allowed : String → Prop) (node : Node) : Prop :=
  ∀ place found, node.get? place = some found → found.Orderly allowed

variable {allowed other : String → Prop} {node made found : Node} {place : Place} {name : String}
  {entries : List (String × Node)} {stamps : Stamps}

theorem Orderly.mono (orderly : node.Orderly allowed) (implies : ∀ target, allowed target →
    other target) : node.Orderly other := by
  cases node with
  | file => trivial
  | link target => exact implies target orderly
  | folder => exact orderly

theorem Throughout.mono (throughout : node.Throughout allowed) (implies : ∀ target,
    allowed target → other target) : node.Throughout other :=
  fun place found reached => (throughout place found reached).mono implies

/-- A node without entries is orderly throughout if it is orderly. -/
theorem throughout_of_empty (empty : ∀ next rest, node.get? (next :: rest) = none)
    (orderly : node.Orderly allowed) : node.Throughout allowed := by
  intro place found reached
  cases place with
  | nil =>
    obtain rfl := Option.some.inj reached
    exact orderly
  | cons next rest =>
    rw [empty] at reached
    contradiction

theorem throughout_file (stamps : Stamps) (executable : Bool) (bytes : List UInt8) :
    (file stamps executable bytes).Throughout allowed :=
  throughout_of_empty (fun _ _ => rfl) trivial

theorem throughout_link {target : String} (allows : allowed target) :
    (link target).Throughout allowed :=
  throughout_of_empty (fun _ _ => rfl) allows

theorem throughout_emptyFolder (now : Instant) : (emptyFolder now).Throughout allowed :=
  throughout_of_empty (fun _ _ => rfl) (by simp [Orderly, emptyFolder])

/-- A folder is orderly throughout if it is orderly and its entries are orderly throughout. -/
theorem throughout_folder (orderly : Orderly allowed (folder stamps entries))
    (below : ∀ entry ∈ entries, entry.2.Throughout allowed) :
    Throughout allowed (folder stamps entries) := by
  intro place found reached
  cases place with
  | nil =>
    obtain rfl := Option.some.inj reached
    exact orderly
  | cons name rest =>
    obtain ⟨child, listed, reached'⟩ := Option.bind_eq_some_iff.mp reached
    exact below (name, child) (mem_of_lookup listed) rest found reached'

/-- What is below a node that is orderly throughout is so, too. -/
theorem Throughout.below (throughout : node.Throughout allowed)
    (reached : node.get? place = some found) : found.Throughout allowed := by
  intro rest deeper reached'
  refine throughout (place ++ rest) deeper ?_
  rw [get?_append, reached]
  exact reached'

/-! ### Changes -/

/-- The names of entries after one was put among them. -/
theorem map_put (name : String) (node : Node) (entries : List (String × Node)) :
    (put name node entries).map (·.1) =
      if name ∈ entries.map (·.1) then entries.map (·.1) else entries.map (·.1) ++ [name] := by
  induction entries with
  | nil => simp [put]
  | cons entry rest inductionHypothesis =>
    obtain ⟨other, found⟩ := entry
    rw [put]
    by_cases same : other = name
    · simp [same]
    · rw [if_neg same, List.map_cons, inductionHypothesis]
      by_cases among : name ∈ rest.map (·.1)
      · simp [among]
      · simp [among, Ne.symm same]

theorem map_update (name : String) (change : Node → Node) (entries : List (String × Node)) :
    (update name change entries).map (·.1) = entries.map (·.1) := by
  simp [update]

/-- A change in an orderly node leaves it orderly, if it is not made to this node itself. -/
theorem orderly_modify_cons (orderly : node.Orderly allowed) (name : String) (rest : Place)
    (change : Node → Node) : (node.modify (name :: rest) change).Orderly allowed := by
  cases node with
  | file | link => exact orderly
  | folder stamps entries =>
    rw [modify, Orderly, map_update]
    exact orderly

/-- A node stays orderly throughout if what is changed in it becomes so. -/
theorem Throughout.modify (throughout : node.Throughout allowed) {change : Node → Node}
    (becomes : ∀ found, node.get? place = some found → (change found).Throughout allowed) :
    (node.modify place change).Throughout allowed := by
  intro other found reached
  by_cases below : place <+: other
  · obtain ⟨rest, rfl⟩ := below
    rw [get?_modify_below] at reached
    obtain ⟨changed, at_place, reached⟩ := Option.bind_eq_some_iff.mp reached
    exact becomes changed at_place rest found reached
  by_cases above : other <+: place
  · obtain ⟨rest, rfl⟩ := above
    rw [get?_modify_above] at reached
    obtain ⟨before, at_other, rfl⟩ := Option.map_eq_some_iff.mp reached
    cases rest with
    | nil => simp at below
    | cons name rest =>
      exact orderly_modify_cons (throughout other before at_other) name rest change
  · rw [get?_modify_other _ _ below above] at reached
    exact throughout other found reached

/-- Something orderly can be put into a node under a name. -/
theorem Throughout.insertEntry (throughout : node.Throughout allowed) (now : Instant)
    (isName : IsName name) (orderly : made.Throughout allowed) :
    (Node.insertEntry now name made node).Throughout allowed := by
  cases node with
  | file | link => exact throughout
  | folder stamps entries =>
    intro place found reached
    cases place with
    | nil =>
      obtain rfl := Option.some.inj reached
      obtain ⟨names, distinct⟩ := throughout [] _ rfl
      rw [Node.insertEntry, Orderly, map_put]
      split
      · exact ⟨names, distinct⟩
      · rename_i fresh
        refine ⟨fun other member => ?_, ?_⟩
        · rcases List.mem_append.mp member with old | new
          · exact names other old
          · exact List.mem_singleton.mp new ▸ isName
        · exact List.nodup_append.mpr ⟨distinct, by simp, by
            rintro other old _ new rfl
            exact fresh (List.mem_singleton.mp new ▸ old)⟩
    | cons other rest =>
      by_cases same : other = name
      · subst same
        refine orderly rest found ?_
        simpa [Node.insertEntry, get?, lookup_put_self] using reached
      · refine throughout (other :: rest) found ?_
        simpa [Node.insertEntry, get?, lookup_put_other _ _ same] using reached

/-- An entry can be taken out of a node. -/
theorem Throughout.eraseEntry (throughout : node.Throughout allowed) (now : Instant)
    (name : String) : (node.eraseEntry now name).Throughout allowed := by
  cases node with
  | file | link => exact throughout
  | folder stamps entries =>
    intro place found reached
    cases place with
    | nil =>
      obtain rfl := Option.some.inj reached
      obtain ⟨names, distinct⟩ := throughout [] _ rfl
      have fewer : ((drop name entries).map (·.1)).Sublist (entries.map (·.1)) :=
        List.filter_sublist.map _
      exact ⟨fun other member => names other (fewer.subset member), distinct.sublist fewer⟩
    | cons other rest =>
      by_cases same : other = name
      · subst same
        simp [Node.eraseEntry, get?, lookup_drop_self] at reached
      · refine throughout (other :: rest) found ?_
        simpa [Node.eraseEntry, get?, lookup_drop_other _ same] using reached

/-- A node can be written to. -/
theorem Throughout.rewrite (throughout : node.Throughout allowed) (now : Instant)
    (executable : Bool) (bytes : List UInt8) :
    (node.rewrite now executable bytes).Throughout allowed := by
  cases node with
  | file => exact throughout_file _ _ _
  | folder | link => exact throughout

theorem Throughout.setExecutable (throughout : node.Throughout allowed) (executable : Bool) :
    (node.setExecutable executable).Throughout allowed := by
  cases node with
  | file => exact throughout_file _ _ _
  | folder | link => exact throughout

end Node

end FileQuery

namespace FileQuery

namespace Node

/-- A node that is no link, with entries that have names, each its own. -/
def Tidy : Node → Prop
  | file .. => True
  | link _ => False
  | folder _ entries => (∀ entry ∈ entries, IsName entry.1) ∧ (entries.map (·.1)).Nodup

/-- A node that is tidy with all that is below it. -/
def Plain (node : Node) : Prop := ∀ place found, node.get? place = some found → found.Tidy

/-- A node is plain if it is orderly throughout, with no links allowed. -/
theorem plain_iff_throughout {node : Node} : node.Plain ↔ node.Throughout fun _ => False := by
  refine forall₂_congr fun place found => imp_congr_right fun _ => ?_
  cases found <;> simp [Tidy, Orderly]

theorem plain_file (stamps : Stamps) (executable : Bool) (bytes : List UInt8) :
    Plain (file stamps executable bytes) :=
  plain_iff_throughout.mpr (throughout_file stamps executable bytes)

/-- A folder is plain if it is tidy and its entries are plain. -/
theorem plain_folder {stamps : Stamps} {entries : List (String × Node)}
    (tidy : Tidy (folder stamps entries)) (below : ∀ entry ∈ entries, entry.2.Plain) :
    Plain (folder stamps entries) := by
  refine plain_iff_throughout.mpr (throughout_folder ?_ fun entry listed => ?_)
  · simpa [Tidy, Orderly] using tidy
  · exact plain_iff_throughout.mp (below entry listed)

theorem plain_emptyFolder (now : Instant) : Plain (emptyFolder now) :=
  plain_iff_throughout.mpr (throughout_emptyFolder now)

/-- What is below a plain node is plain. -/
theorem Plain.below {node found : Node} {place : Place} (plain : node.Plain)
    (reached : node.get? place = some found) : found.Plain :=
  plain_iff_throughout.mpr ((plain_iff_throughout.mp plain).below reached)

/-- A node stays plain if what is changed in it becomes plain. -/
theorem Plain.modify {node : Node} (plain : node.Plain) {place : Place} {change : Node → Node}
    (becomes : ∀ found, node.get? place = some found → (change found).Plain) :
    (node.modify place change).Plain := by
  refine plain_iff_throughout.mpr ((plain_iff_throughout.mp plain).modify fun found reached => ?_)
  exact plain_iff_throughout.mp (becomes found reached)

/-- A plain node stays plain when something plain is put into it under a name. -/
theorem Plain.insertEntry {node made : Node} (plain : node.Plain) (now : Instant) {name : String}
    (isName : IsName name) (made_plain : made.Plain) :
    (insertEntry now name made node).Plain := by
  have throughout := (plain_iff_throughout.mp plain).insertEntry now isName
    (plain_iff_throughout.mp made_plain)
  exact plain_iff_throughout.mpr throughout

/-- A plain node stays plain when it is written to. -/
theorem Plain.rewrite {node : Node} (plain : node.Plain) (now : Instant) (executable : Bool)
    (bytes : List UInt8) : (rewrite now executable bytes node).Plain :=
  plain_iff_throughout.mpr ((plain_iff_throughout.mp plain).rewrite now executable bytes)

end Node

namespace FileTree

/-- A tree that is plain, with a folder for relative paths that has a name that paths can go
    down by. -/
structure Plain (tree : FileTree) : Prop where
  root : tree.root.Plain
  working : ∀ name ∈ tree.working, IsName name

variable {tree : FileTree} {place : Place}

theorem Plain.unlinked (plain : tree.Plain) (place : Place) (target : String) :
    tree.get? place ≠ some (.link target) :=
  fun found => plain.root place _ found

/-- Every name that a path goes down by in a plain tree can be the name of an entry. -/
theorem isName_down {here : Place} {segments : List String} (names : ∀ name ∈ here, IsName name)
    (unslashed : ∀ segment ∈ segments, '/' ∉ segment.toList) :
    ∀ name ∈ down here segments, IsName name := by
  induction segments generalizing here with
  | nil => exact names
  | cons segment rest inductionHypothesis =>
    obtain ⟨free, later⟩ := List.forall_mem_cons.mp unslashed
    rw [down]
    split
    · exact inductionHypothesis names later
    rename_i speaks
    split
    · exact inductionHypothesis (fun name member => names name (List.dropLast_subset here member))
        later
    · rename_i notParent
      obtain ⟨nonempty, notHere⟩ := not_or.mp speaks
      refine inductionHypothesis (List.forall_mem_append.mpr ⟨names, ?_⟩) later
      exact List.forall_mem_singleton.mpr ⟨nonempty, notHere, notParent, free⟩

/-- A path in a plain tree leads down by names. -/
theorem Plain.isName_lexical (plain : tree.Plain) (path : Path) :
    ∀ name ∈ tree.lexical path, IsName name := by
  refine isName_down (fun name member => ?_) fun segment member => ?_
  · unfold start at member
    split at member
    · simp at member
    · exact plain.working name member
  · obtain ⟨characters, listed, rfl⟩ := List.mem_map.mp member
    simpa using Path.slash_notMem_segments _ characters listed

/-- A path in a plain tree leads where it says. -/
theorem Plain.resolve_place (plain : tree.Plain) {last : LastLink} {path : Path}
    {destination : Destination} (leads : tree.resolve last path = .ok destination) :
    destination.place = tree.lexical path :=
  FileTree.resolve_place plain.unlinked leads

theorem Plain.isName_place (plain : tree.Plain) {last : LastLink} {path : Path}
    {destination : Destination} (leads : tree.resolve last path = .ok destination) :
    ∀ name ∈ destination.place, IsName name := by
  rw [plain.resolve_place leads]
  exact plain.isName_lexical path

/-- A plain tree stays plain when something plain is put where a path leads. -/
theorem Plain.insert (plain : tree.Plain) {made : Node} (made_plain : made.Plain)
    (names : ∀ name ∈ place, IsName name) : (tree.insert place made).Plain := by
  rcases List.eq_nil_or_concat place with rfl | ⟨folder, name, rfl⟩
  · exact plain
  rw [List.concat_eq_append] at names ⊢
  rw [insert_concat]
  refine ⟨plain.root.modify fun found reached => ?_, plain.working⟩
  refine Node.Plain.insertEntry ?_ _ (names name (by simp)) made_plain
  exact plain.root.below reached

/-- A new folder keeps a tree plain. -/
theorem Plain.makeFolder (plain : tree.Plain) {path : Path} {changed : FileTree}
    (made : tree.makeFolder path = .ok changed) : changed.Plain := by
  obtain ⟨place, slash, leads, rfl⟩ := makeFolder_eq_ok made
  exact plain.insert (Node.plain_emptyFolder _) (plain.isName_place leads)

/-- What is written to a file keeps a tree plain. -/
theorem Plain.rewrite (plain : tree.Plain) (place : Place) (executable : Bool)
    (bytes : List UInt8) : (tree.rewrite place executable bytes).Plain :=
  ⟨plain.root.modify fun _ reached => (plain.root.below reached).rewrite _ _ _, plain.working⟩

/-- Opening a file for writing keeps a tree plain. -/
theorem Plain.truncate (plain : tree.Plain) {path : Path} {opened : FileTree}
    (opens : tree.truncate path = .ok (opened, place)) : opened.Plain := by
  obtain ⟨node?, slash, leads, ⟨-, rfl⟩ | ⟨_, executable, _, -, rfl⟩⟩ := truncate_eq_ok opens
  · exact plain.insert (Node.plain_file _ _ _) (plain.isName_place leads)
  · exact plain.rewrite _ _ _

/-- Copying a file keeps a tree plain. -/
theorem Plain.copyFile (plain : tree.Plain) {source target : Path} {changed : FileTree}
    (copied : tree.copyFile source target = .ok changed) : changed.Plain := by
  obtain ⟨_, _, _, _, opened, _, -, opens, rfl⟩ := copyFile_eq_ok copied
  exact (plain.truncate opens).rewrite _ _ _

/-- What is found by a path in a plain tree is where the path says it leads. -/
theorem Plain.get?_of_locate (plain : tree.Plain) {last : LastLink} {path : Path} {node : Node}
    (found : (tree.locate last path).map (·.2) = .ok node) :
    tree.get? (tree.lexical path) = some node := by
  cases located : tree.locate last path with
  | error error =>
    rw [located] at found
    cases found
  | ok reached =>
    rw [located] at found
    obtain rfl : reached.2 = node := Except.ok.inj found
    obtain ⟨slash, leads, at_place⟩ := locate_eq_ok located
    rw [← plain.resolve_place leads]
    exact at_place

/-- What is listed is in the folder that the path leads to. -/
theorem Plain.get?_of_list (plain : tree.Plain) {path : Path} {entries : List (String × Node)}
    (listed : tree.list path = .ok entries) :
    ∃ stamps, tree.get? (tree.lexical path) = some (.folder stamps entries) := by
  unfold list at listed
  split at listed
  · contradiction
  · rename_i found
    obtain rfl := Except.ok.inj listed
    exact ⟨_, plain.get?_of_locate found⟩
  · contradiction
  · contradiction

/-- The entries that are listed in a plain tree have names. -/
theorem Plain.isName_of_list (plain : tree.Plain) {path : Path}
    {entries : List (String × Node)} (listed : tree.list path = .ok entries) :
    ∀ entry ∈ entries, IsName entry.1 := by
  obtain ⟨stamps, at_place⟩ := plain.get?_of_list listed
  exact (plain.root _ _ at_place).1

end FileTree

/-!
## Trees with names

The entries of a folder have names that a path can go down by, and no two of them have the same
one. Every file system is like this. Links may stand anywhere.
-/

/-- A node whose entries have names, each its own. -/
def Node.Named : Node → Prop
  | file .. | link _ => True
  | folder _ entries => (∀ entry ∈ entries, IsName entry.1) ∧ (entries.map (·.1)).Nodup

/-- A tree whose folders have entries with names, each its own. -/
def FileTree.Named (tree : FileTree) : Prop :=
  ∀ place node, tree.get? place = some node → node.Named

namespace FileTree

variable {tree : FileTree} {path : Path}

/-- The entries in a tree have names if it is orderly throughout, whatever its links. -/
theorem named_iff_throughout : tree.Named ↔ tree.root.Throughout fun _ => True := by
  have same (node : Node) : node.Named ↔ node.Orderly fun _ => True := by
    cases node <;> simp [Node.Named, Node.Orderly]
  simp only [Named, Node.Throughout, same]
  rfl

/-- A plain tree has names. -/
theorem Plain.named (plain : tree.Plain) : tree.Named := by
  intro place node found
  have tidy := plain.root place node found
  cases node with
  | file | link => trivial
  | folder => exact tidy

/-- The entries of a folder that is found have names, each its own. -/
theorem Named.of_find (named : tree.Named) {stamps : Stamps} {entries : List (String × Node)}
    (found : tree.find path = .ok (.folder stamps entries)) :
    (∀ entry ∈ entries, IsName entry.1) ∧ (entries.map (·.1)).Nodup := by
  obtain ⟨place, slash, -, at_place⟩ := find_eq_ok found
  exact named place _ at_place

end FileTree

/-!
## Trees that grow

New folders and copies of files take nothing out of a tree. In a plain tree every path leads where
it led before, and every file is still a file, if with other bytes.
-/

namespace FileTree

variable {tree later changed : FileTree} {place : Place} {bytes : List UInt8}

theorem working_insert (tree : FileTree) (place : Place) (made : Node) :
    (tree.insert place made).working = tree.working := by
  unfold insert
  split <;> rfl

theorem working_makeFolder {path : Path} (made : tree.makeFolder path = .ok changed) :
    changed.working = tree.working := by
  obtain ⟨place, slash, -, rfl⟩ := makeFolder_eq_ok made
  exact working_insert _ _ _

theorem working_truncate {path : Path} (opens : tree.truncate path = .ok (changed, place)) :
    changed.working = tree.working := by
  obtain ⟨node?, slash, -, ⟨-, rfl⟩ | ⟨_, executable, _, -, rfl⟩⟩ := truncate_eq_ok opens
  · exact working_insert _ _ _
  · rfl

theorem working_copyFile {source target : Path}
    (copied : tree.copyFile source target = .ok changed) : changed.working = tree.working := by
  obtain ⟨_, _, _, _, opened, _, -, opens, rfl⟩ := copyFile_eq_ok copied
  have same : opened.working = tree.working := working_truncate opens
  exact same

/-- A plain tree in which paths start where they start in another one, and in which the files of
    that one are files. -/
structure Extends (tree later : FileTree) : Prop where
  plain : later.Plain
  working : later.working = tree.working
  files : ∀ place bytes, tree.content? place = some bytes →
    ∃ bytes', later.content? place = some bytes'

namespace Extends

theorem refl (plain : tree.Plain) : tree.Extends tree :=
  ⟨plain, rfl, fun _ bytes holds => ⟨bytes, holds⟩⟩

theorem makeFolder (grows : tree.Extends later) {path : Path}
    (made : later.makeFolder path = .ok changed) : tree.Extends changed := by
  refine ⟨grows.plain.makeFolder made, (working_makeFolder made).trans grows.working, ?_⟩
  intro place bytes holds
  obtain ⟨bytes', holds'⟩ := grows.files place bytes holds
  exact ⟨bytes', content?_makeFolder made holds'⟩

theorem copyFile (grows : tree.Extends later) {source target : Path}
    (copied : later.copyFile source target = .ok changed) : tree.Extends changed := by
  refine ⟨grows.plain.copyFile copied, (working_copyFile copied).trans grows.working, ?_⟩
  intro place bytes holds
  obtain ⟨bytes', holds'⟩ := grows.files place bytes holds
  obtain ⟨_, _, _, _, _, _, effect⟩ := content?_copyFile copied
  exact ⟨_, effect place bytes' holds'⟩

/-- A path leads where it says it led before. -/
theorem lexical (grows : tree.Extends later) (path : Path) :
    later.lexical path = tree.lexical path := by
  simp only [FileTree.lexical, grows.working]

/-- A path leads in a plain tree where it says it leads. -/
theorem place_of_leadsTo (grows : tree.Extends later) {path : Path}
    (leads : later.LeadsTo path place) : place = tree.lexical path := by
  obtain ⟨_, _, resolved⟩ := leads
  rw [← grows.lexical path]
  exact grows.plain.resolve_place resolved

/-- What is found by a path is where the path says it leads. -/
theorem get?_of_locate (grows : tree.Extends later) {last : LastLink} {path : Path} {node : Node}
    (found : (later.locate last path).map (·.2) = .ok node) :
    later.get? (tree.lexical path) = some node := by
  rw [← grows.lexical path]
  exact grows.plain.get?_of_locate found

end Extends

/-- What is below a place is in a folder there, under its name. -/
theorem exists_entry_of_get? {name : String} {rest : Place} {node : Node}
    (found : tree.get? (place ++ name :: rest) = some node) :
    ∃ stamps entries child, tree.get? place = some (.folder stamps entries) ∧
      entries.lookup name = some child ∧ child.get? rest = some node := by
  rw [get?, Node.get?_append] at found
  obtain ⟨above, at_place, below⟩ := Option.bind_eq_some_iff.mp found
  cases above with
  | file | link => simp [Node.get?] at below
  | folder stamps entries =>
    obtain ⟨child, listed, reached⟩ := Option.bind_eq_some_iff.mp below
    exact ⟨stamps, entries, child, at_place, listed, reached⟩

/-- In a plain tree every name on the way down can be the name of an entry. -/
theorem Plain.isName_of_get? (plain : tree.Plain) {name : String} {rest : Place} {node : Node}
    (found : tree.get? (place ++ name :: rest) = some node) : IsName name := by
  obtain ⟨stamps, entries, child, at_place, listed, -⟩ := exists_entry_of_get? found
  exact (plain.root place _ at_place).1 (name, child) (mem_of_lookup listed)

end FileTree

end FileQuery

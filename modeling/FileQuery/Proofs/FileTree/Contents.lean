import FileQuery.FileTree.Change
import FileQuery.FileTree.Resolution

/-!
# Where paths come out, and what files hold there

A path is followed a segment at a time: down a folder, up for two dots, on from the target of a
link. It comes out at its last name, or where nothing is left of it, and with what is there.
-/

namespace FileQuery.FileTree

variable {tree : FileTree} {last : LastLink} {links : Nat} {here : Place} {segments : List String}
  {path : Path} {destination : Destination}

/-- Whether a segment of a path says something. -/
def speaks (segment : String) : Bool := segment != "" && segment != "."

theorem speaks_eq_false {segment : String} :
    speaks segment = false ↔ segment = "" ∨ segment = "." := by
  rw [speaks, Bool.and_eq_false_iff]
  simp

theorem not_silent {segment : String} (saying : speaks segment = true) :
    ¬ (segment = "" ∨ segment = ".") := by
  rw [← speaks_eq_false, saying]
  decide

/-! ### One segment -/

section

variable {name : String} {rest : List String}

/-- A segment that says nothing is passed. -/
theorem descend_silent (silent : name = "" ∨ name = ".") :
    tree.descend last links here (name :: rest) = tree.descend last links here rest := by
  rw [descend, if_pos silent]

/-- Two dots lead up. -/
theorem descend_parent :
    tree.descend last links here (".." :: rest) = tree.descend last links here.dropLast rest := by
  rw [descend, if_neg (by decide), if_pos rfl]

variable (speaking : ¬ (name = "" ∨ name = ".")) (down : ¬ name = "..")

include speaking down

/-- A name that is too long leads nowhere. -/
theorem descend_long (long : nameLimit < Text.byteLength name.toList) :
    tree.descend last links here (name :: rest) = .error .nameTooLong := by
  rw [descend, if_neg speaking, if_neg down, if_pos long]

variable (short : ¬ nameLimit < Text.byteLength name.toList)

include short

/-- Nothing has a name that is the last one, or else it is missing. -/
theorem descend_free (free : tree.get? (here ++ [name]) = none) :
    tree.descend last links here (name :: rest) =
      if rest.all (· == "") then .ok ⟨here ++ [name], none, !rest.isEmpty⟩
      else .error .notFound := by
  rw [descend, if_neg speaking, if_neg down, if_neg short]
  dsimp only
  rw [free]

/-- A folder is at the end, or leads on. -/
theorem descend_folder {stamps : Stamps} {entries : List (String × Node)}
    (found : tree.get? (here ++ [name]) = some (.folder stamps entries)) :
    tree.descend last links here (name :: rest) =
      if rest.all (· == "") then
        .ok ⟨here ++ [name], some (.folder stamps entries), !rest.isEmpty⟩
      else tree.descend last links (here ++ [name]) rest := by
  rw [descend, if_neg speaking, if_neg down, if_neg short]
  dsimp only
  rw [found]

/-- A file is at the end. -/
theorem descend_file {stamps : Stamps} {executable : Bool} {bytes : List UInt8}
    (found : tree.get? (here ++ [name]) = some (.file stamps executable bytes)) :
    tree.descend last links here (name :: rest) =
      if rest.all (· == "") then
        .ok ⟨here ++ [name], some (.file stamps executable bytes), !rest.isEmpty⟩
      else .error .notFolder := by
  rw [descend, if_neg speaking, if_neg down, if_neg short]
  dsimp only
  rw [found]

section

variable {target : String} (found : tree.get? (here ++ [name]) = some (.link target))

include found

/-- A link at the end is kept, if it is not to be followed. -/
theorem descend_link_kept (kept : (rest.all (· == "") && last == .keep) = true) :
    tree.descend last links here (name :: rest) =
      .ok ⟨here ++ [name], some (.link target), !rest.isEmpty⟩ := by
  rw [descend, if_neg speaking, if_neg down, if_neg short]
  dsimp only
  rw [found]
  dsimp only
  rw [if_pos kept]

variable (followed : ¬ (rest.all (· == "") && last == .keep) = true)

include followed

/-- Another link is followed. -/
theorem descend_link :
    tree.descend last (links + 1) here (name :: rest) =
      tree.descend last links (start target here) (names target ++ rest) := by
  rw [descend, if_neg speaking, if_neg down, if_neg short]
  dsimp only
  rw [found]
  dsimp only
  rw [if_neg followed]

/-- When too many links were followed already, none is. -/
theorem descend_link_refused :
    tree.descend last 0 here (name :: rest) = .error .tooManyLinks := by
  rw [descend, if_neg speaking, if_neg down, if_neg short]
  dsimp only
  rw [found]
  dsimp only
  rw [if_neg followed]

end

end

/-! ### Many segments -/

/-- Where a path ends, only empty segments are left, and they say nothing. -/
theorem filter_speaks_of_final {rest : List String} (final : rest.all (· == "") = true) :
    rest.filter speaks = [] := by
  refine List.filter_eq_nil_iff.mpr fun segment member => ?_
  have empty : segment = "" := by simpa using List.all_eq_true.mp final segment member
  simp [empty, speaks]

/-- Where some segment says something, a path does not end. -/
theorem not_final_of_speaks {rest : List String} (saying : rest.filter speaks ≠ []) :
    rest.all (· == "") = false :=
  Bool.eq_false_iff.mpr fun final => saying (filter_speaks_of_final final)

/-- From a folder, with so many links to follow at most, going down segments comes out at a
    destination. It ends at the last name, unless a link that is followed has it. -/
inductive ComesOut (tree : FileTree) (last : LastLink) :
    Nat → Place → List String → Destination → Prop
  | nil {links : Nat} {here : Place} :
    ComesOut tree last links here [] ⟨here, tree.get? here, false⟩
  | silent {links : Nat} {here : Place} {segment : String} {rest : List String}
    {destination : Destination} (unsaying : speaks segment = false)
    (later : ComesOut tree last links here rest destination) :
    ComesOut tree last links here (segment :: rest) destination
  | parent {links : Nat} {here : Place} {rest : List String} {destination : Destination}
    (later : ComesOut tree last links here.dropLast rest destination) :
    ComesOut tree last links here (".." :: rest) destination
  | final {links : Nat} {here : Place} {name : String} {rest : List String} {node? : Option Node}
    (saying : speaks name = true) (down : name ≠ "..")
    (short : ¬ nameLimit < Text.byteLength name.toList) (found : tree.get? (here ++ [name]) = node?)
    (atEnd : rest.all (· == "") = true)
    (kept : ∀ target, node? = some (.link target) → last = .keep) :
    ComesOut tree last links here (name :: rest) ⟨here ++ [name], node?, !rest.isEmpty⟩
  | folder {links : Nat} {here : Place} {name : String} {rest : List String}
    {destination : Destination} {stamps : Stamps} {entries : List (String × Node)}
    (saying : speaks name = true) (down : name ≠ "..")
    (short : ¬ nameLimit < Text.byteLength name.toList)
    (found : tree.get? (here ++ [name]) = some (.folder stamps entries))
    (goesOn : rest.all (· == "") = false)
    (later : ComesOut tree last links (here ++ [name]) rest destination) :
    ComesOut tree last links here (name :: rest) destination
  | link {links : Nat} {here : Place} {name target : String} {rest : List String}
    {destination : Destination} (saying : speaks name = true) (down : name ≠ "..")
    (short : ¬ nameLimit < Text.byteLength name.toList)
    (found : tree.get? (here ++ [name]) = some (.link target))
    (followed : last = .keep → rest.all (· == "") = false)
    (later : ComesOut tree last links (start target here) (names target ++ rest) destination) :
    ComesOut tree last (links + 1) here (name :: rest) destination

/-- What `descend` answers is where its segments come out. -/
theorem comesOut_of_descend (goes : tree.descend last links here segments = .ok destination) :
    tree.ComesOut last links here segments destination := by
  have saying_of {name : String} (speaking : ¬ (name = "" ∨ name = ".")) : speaks name = true := by
    simpa [speaks, not_or] using speaking
  fun_induction descend tree last links here segments with
  | case1 =>
    obtain rfl := Except.ok.inj goes
    exact .nil
  | case2 _ _ _ _ silent inductionHypothesis =>
    exact .silent (speaks_eq_false.mpr silent) (inductionHypothesis goes)
  | case3 _ _ _ _ inductionHypothesis => exact .parent (inductionHypothesis goes)
  | case4 | case6 | case10 | case12 => cases goes
  -- at the end a name is taken for what has it: nothing, a folder or a file
  | case5 _ _ _ _ speaking down short _ _ found atEnd
  | case7 _ _ _ _ speaking down short _ _ _ _ found atEnd
  | case9 _ _ _ _ speaking down short _ _ _ _ _ found atEnd =>
    obtain rfl := Except.ok.inj goes
    exact .final (saying_of speaking) down short found atEnd (by simp)
  | case8 _ _ _ _ speaking down short _ _ _ _ found notFinal inductionHypothesis =>
    exact .folder (saying_of speaking) down short found (Bool.eq_false_iff.mpr notFinal)
      (inductionHypothesis goes)
  -- and for a link, if this is kept
  | case11 _ _ _ _ speaking down short _ _ _ found kept =>
    obtain rfl := Except.ok.inj goes
    obtain ⟨atEnd, keeps⟩ := Bool.and_eq_true_iff.mp kept
    exact .final (saying_of speaking) down short found atEnd fun _ _ => eq_of_beq keeps
  | case13 _ _ _ speaking down short _ _ _ found followed _ inductionHypothesis =>
    refine .link (saying_of speaking) down short found (fun keeps => ?_) (inductionHypothesis goes)
    rw [keeps, beq_self_eq_true, Bool.and_true] at followed
    exact Bool.eq_false_iff.mpr followed

/-- A path that leads somewhere comes out there. -/
theorem comesOut_of_resolve (leads : tree.resolve last path = .ok destination) :
    tree.ComesOut last linkLimit (start path.text tree.working) (names path.text) destination := by
  unfold resolve at leads
  split at leads
  · contradiction
  · exact comesOut_of_descend leads

/-- Segments come out with what is at their end. -/
theorem ComesOut.node?_eq (comesOut : tree.ComesOut last links here segments destination) :
    destination.node? = tree.get? destination.place := by
  induction comesOut with
  | nil => rfl
  | final _ _ _ found => exact found.symm
  | silent _ _ inductionHypothesis => exact inductionHypothesis
  | parent _ inductionHypothesis => exact inductionHypothesis
  | folder _ _ _ _ _ _ inductionHypothesis => exact inductionHypothesis
  | link _ _ _ _ _ _ inductionHypothesis => exact inductionHypothesis

end FileQuery.FileTree

/-!
## What files hold after a change

A change to a file tree shows in one file at most. Where something new is made, nothing was before,
so every file is still where it was with the bytes that it held. Where a file is written, this file
holds what was written and every other file holds what it held before.
-/

namespace FileQuery

namespace Node

/-- The bytes of a node, if it is a file. -/
def content? : Node → Option (List UInt8)
  | file _ _ found => some found
  | folder .. | link _ => none

theorem content?_eq_some {node : Node} {bytes : List UInt8} :
    node.content? = some bytes ↔ ∃ stamps executable, node = file stamps executable bytes := by
  cases node <;> simp [content?]

/-- A change at a place shows above the place as a change further down. -/
theorem get?_modify_above (node : Node) (place below : Place) (change : Node → Node) :
    (node.modify (place ++ below) change).get? place =
      (node.get? place).map (·.modify below change) := by
  induction place generalizing node with
  | nil => simp [get?]
  | cons name rest inductionHypothesis =>
    cases node with
    | file => simp [modify, get?]
    | link => simp [modify, get?]
    | folder stamps entries =>
      simp only [List.cons_append, modify, get?, lookup_update_self]
      cases entries.lookup name with
      | none => rfl
      | some child => simpa using inductionHypothesis child

/-- A change at a place shows below the place as far as it goes. -/
theorem get?_modify_below (node : Node) (place below : Place) (change : Node → Node) :
    (node.modify place change).get? (place ++ below) =
      (node.get? place).bind fun found => (change found).get? below := by
  rw [get?_append, get?_modify_self]
  cases node.get? place <;> rfl

/-- A change that keeps the bytes of every node keeps them further down as well. -/
theorem content?_modify {change : Node → Node} (keeps : ∀ node, (change node).content? =
    node.content?) (node : Node) (place : Place) :
    (node.modify place change).content? = node.content? := by
  cases place with
  | nil => exact keeps node
  | cons name rest => cases node <;> rfl

theorem content?_insertEntry (now : Instant) (name : String) (made node : Node) :
    (insertEntry now name made node).content? = node.content? := by
  cases node <;> rfl

end Node

namespace FileTree

/-- The bytes of the file at a place, if there is one. -/
def content? (tree : FileTree) (place : Place) : Option (List UInt8) :=
  (tree.get? place).bind Node.content?

variable {tree : FileTree} {place other : Place} {bytes : List UInt8}

theorem get?_of_content? (holds : tree.content? place = some bytes) :
    ∃ stamps executable, tree.get? place = some (.file stamps executable bytes) := by
  obtain ⟨node, found, isFile⟩ := Option.bind_eq_some_iff.mp holds
  obtain ⟨stamps, executable, rfl⟩ := Node.content?_eq_some.mp isFile
  exact ⟨stamps, executable, found⟩

/-- What is below a place is in what is there. -/
theorem get?_append (tree : FileTree) (place below : Place) :
    tree.get? (place ++ below) = (tree.get? place).bind (·.get? below) :=
  Node.get?_append tree.root place below

/-- Nothing is below where nothing is. -/
theorem get?_eq_none_of_above {above : Place} (free : tree.get? above = none)
    (starts : above <+: place) : tree.get? place = none := by
  obtain ⟨below, rfl⟩ := starts
  rw [get?_append, free]
  rfl

/-- There is nothing below a file. -/
theorem get?_below_file (holds : tree.content? place = some bytes) {below : Place}
    (deeper : below ≠ []) : tree.get? (place ++ below) = none := by
  obtain ⟨stamps, executable, found⟩ := get?_of_content? holds
  obtain ⟨name, rest, rfl⟩ := List.exists_cons_of_ne_nil deeper
  rw [get?_append, found]
  rfl

theorem insert_concat (folder : Place) (name : String) (made : Node) :
    tree.insert (folder ++ [name]) made =
      { tree with root := tree.root.modify folder (.insertEntry tree.now name made) } := by
  simp [insert, splitPlace]

/-- What is put where nothing was changes no file. -/
theorem content?_insert (free : tree.get? place = none) (made : Node)
    (holds : tree.content? other = some bytes) :
    (tree.insert place made).content? other = some bytes := by
  rcases List.eq_nil_or_concat place with rfl | ⟨folder, name, rfl⟩
  · exact holds
  rw [List.concat_eq_append] at free ⊢
  rw [insert_concat, content?, get?]
  by_cases above : other <+: folder
  · obtain ⟨rest, rfl⟩ := above
    rw [Node.get?_modify_above, Option.bind_map]
    have keeps : (Node.content? ∘ fun found =>
        found.modify rest (.insertEntry tree.now name made)) = Node.content? := by
      funext found
      exact Node.content?_modify (Node.content?_insertEntry _ _ _) found rest
    rw [keeps]
    exact holds
  by_cases below : folder <+: other
  · obtain ⟨rest, rfl⟩ := below
    rw [content?, get?, Node.get?_append] at holds
    rw [get?, Node.get?_append] at free
    rw [Node.get?_modify_below]
    cases found : tree.root.get? folder with
    | none => simp [found] at holds
    | some node =>
      simp only [found, Option.bind_some] at holds free ⊢
      cases node with
      | file => exact holds
      | link => exact holds
      | folder stamps entries =>
        cases rest with
        | nil => simp at above
        | cons next rest =>
          have differs : next ≠ name := by
            rintro rfl
            cases child : entries.lookup next with
            | none => simp [Node.get?, child] at holds
            | some node => simp [Node.get?, child] at free
          simpa [Node.insertEntry, Node.get?, Node.lookup_put_other _ _ differs] using holds
  · rw [Node.get?_modify_other _ _ below above]
    exact holds

/-- What is written to a file shows in this file alone. -/
theorem content?_rewrite (place : Place) (executable : Bool) (written : List UInt8)
    (holds : tree.content? other = some bytes) :
    (tree.rewrite place executable written).content? other =
      some (if other = place then written else bytes) := by
  obtain ⟨stamps, executable', found⟩ := get?_of_content? holds
  rw [content?, get?, rewrite]
  by_cases same : other = place
  · subst same
    rw [if_pos rfl, Node.get?_modify_self, ← get?, found]
    rfl
  rw [if_neg same]
  by_cases above : other <+: place
  · obtain ⟨rest, rfl⟩ := above
    have deeper : rest ≠ [] := by
      rintro rfl
      simp at same
    obtain ⟨name, rest, rfl⟩ := List.exists_cons_of_ne_nil deeper
    rw [Node.get?_modify_above, ← get?, found]
    rfl
  by_cases below : place <+: other
  · obtain ⟨rest, rfl⟩ := below
    rw [get?, Node.get?_append] at found
    rw [Node.get?_modify_below]
    cases reached : tree.root.get? place with
    | none => simp [reached] at found
    | some node =>
      rw [reached] at found
      cases node with
      | folder | link => exact congrArg (Option.bind · Node.content?) found
      | file =>
        cases rest with
        | nil => simp at same
        | cons name rest => simp [Node.get?] at found
  · rw [Node.get?_modify_other _ _ below above, ← get?, found]
    rfl

/-- A path leads to what is at its place. -/
theorem resolve_node? {last : LastLink} {path : Path} {destination : Destination}
    (leads : tree.resolve last path = .ok destination) :
    destination.node? = tree.get? destination.place :=
  (comesOut_of_resolve leads).node?_eq

/-- A folder is made where the path leads, if nothing is there. -/
theorem makeFolder_eq_ok {path : Path} {changed : FileTree}
    (made : tree.makeFolder path = .ok changed) :
    ∃ place slash, tree.resolve .keep path = .ok ⟨place, none, slash⟩ ∧
      changed = tree.insert place (.emptyFolder tree.now) := by
  unfold makeFolder at made
  split at made
  · contradiction
  · contradiction
  · rename_i leads
    exact ⟨_, _, leads, (Except.ok.inj made).symm⟩

/-- A new folder changes no file. -/
theorem content?_makeFolder {path : Path} {changed : FileTree}
    (made : tree.makeFolder path = .ok changed) (holds : tree.content? other = some bytes) :
    changed.content? other = some bytes := by
  obtain ⟨place, slash, leads, rfl⟩ := makeFolder_eq_ok made
  exact content?_insert (resolve_node? leads).symm _ holds

/-- A path leads to a place, whether or not something is there. -/
def LeadsTo (tree : FileTree) (path : Path) (place : Place) : Prop :=
  ∃ node? slash, tree.resolve .follow path = .ok ⟨place, node?, slash⟩

/-- A path leads to one place. -/
theorem LeadsTo.unique {path : Path} (leads : tree.LeadsTo path place)
    (leads' : tree.LeadsTo path other) : other = place := by
  obtain ⟨_, _, leads⟩ := leads
  obtain ⟨_, _, leads'⟩ := leads'
  exact (Destination.mk.inj (Except.ok.inj (leads'.symm.trans leads))).1

/-- A file is opened for writing where the path leads: it is made if nothing is there, and emptied
    if it is there already. -/
theorem truncate_eq_ok {path : Path} {opened : FileTree}
    (opens : tree.truncate path = .ok (opened, place)) :
    ∃ node? slash, tree.resolve .follow path = .ok ⟨place, node?, slash⟩ ∧
      ((node? = none ∧ opened = tree.insert place (.file (.ofInstant tree.now) false [])) ∨
        ∃ stamps executable bytes, node? = some (.file stamps executable bytes) ∧
          opened = tree.rewrite place executable []) := by
  unfold truncate at opens
  split at opens
  · contradiction
  rename_i leads
  split at opens
  · contradiction
  split at opens
  · obtain ⟨rfl, rfl⟩ := Prod.mk.inj (Except.ok.inj opens)
    exact ⟨_, _, leads, .inl ⟨rfl, rfl⟩⟩
  · obtain ⟨rfl, rfl⟩ := Prod.mk.inj (Except.ok.inj opens)
    exact ⟨_, _, leads, .inr ⟨_, _, _, rfl, rfl⟩⟩
  · contradiction
  · contradiction

/-- Opening a file for writing empties the file that the path leads to, and changes no other. -/
theorem content?_truncate {path : Path} {opened : FileTree}
    (opens : tree.truncate path = .ok (opened, place)) :
    tree.LeadsTo path place ∧ ∀ other bytes, tree.content? other = some bytes →
      opened.content? other = some (if other = place then [] else bytes) := by
  obtain ⟨node?, slash, leads, made⟩ := truncate_eq_ok opens
  refine ⟨⟨_, _, leads⟩, fun other bytes holds => ?_⟩
  rcases made with ⟨rfl, rfl⟩ | ⟨_, executable, _, -, rfl⟩
  · have free : tree.get? place = none := (resolve_node? leads).symm
    have differs : other ≠ place := by
      rintro rfl
      simp [content?, free] at holds
    rw [if_neg differs]
    exact content?_insert free _ holds
  · exact content?_rewrite _ _ _ holds

/-- What is located is at the place that the path leads to. -/
theorem locate_eq_ok {last : LastLink} {path : Path} {node : Node}
    (located : tree.locate last path = .ok (place, node)) :
    ∃ slash, tree.resolve last path = .ok ⟨place, some node, slash⟩ ∧
      tree.get? place = some node := by
  unfold locate at located
  split at located
  · contradiction
  · contradiction
  · rename_i leads
    split at located
    · contradiction
    · obtain ⟨rfl, rfl⟩ := Prod.mk.inj (Except.ok.inj located)
      exact ⟨_, leads, (resolve_node? leads).symm⟩

/-- What is found is at the place that the path leads to. -/
theorem find_eq_ok {path : Path} {node : Node} (found : tree.find path = .ok node) :
    ∃ place slash, tree.resolve .follow path = .ok ⟨place, some node, slash⟩ ∧
      tree.get? place = some node := by
  cases located : tree.locate .follow path with
  | error error =>
    rw [find, located] at found
    cases found
  | ok reached =>
    obtain ⟨place, node'⟩ := reached
    rw [find, located] at found
    obtain rfl : node' = node := Except.ok.inj found
    obtain ⟨slash, leads, at_place⟩ := locate_eq_ok located
    exact ⟨place, slash, leads, at_place⟩

/-- To copy a file, the target is opened for writing, and what is then read from the source is
    written there. -/
theorem copyFile_eq_ok {source target : Path} {changed : FileTree}
    (copied : tree.copyFile source target = .ok changed) :
    ∃ origin stamps executable held opened place,
      tree.locate .follow source = .ok (origin, .file stamps executable held) ∧
      tree.truncate target = .ok (opened, place) ∧
      changed =
        opened.rewrite place executable (((opened.get? origin).map Node.bytes).getD []) := by
  unfold copyFile at copied
  split at copied
  · contradiction
  · contradiction
  · contradiction
  rename_i located
  split at copied
  · contradiction
  rename_i opens
  exact ⟨_, _, _, _, _, _, located, opens, (Except.ok.inj copied).symm⟩

/-- Copying a file writes to the file that the target leads to, and changes no other. It writes
    what the source held, or nothing if both lead to the same file. -/
theorem content?_copyFile {source target : Path} {changed : FileTree}
    (copied : tree.copyFile source target = .ok changed) :
    ∃ origin place held, tree.LeadsTo source origin ∧ tree.LeadsTo target place ∧
      tree.content? origin = some held ∧
      ∀ other bytes, tree.content? other = some bytes → changed.content? other =
        some (if other = place then (if origin = place then [] else held) else bytes) := by
  obtain ⟨origin, stamps, executable, held, opened, place, located, opens, rfl⟩ :=
    copyFile_eq_ok copied
  obtain ⟨slash, leads, found⟩ := locate_eq_ok located
  have holds : tree.content? origin = some held := by
    rw [content?, found]
    rfl
  obtain ⟨leadsTo, emptied⟩ := content?_truncate opens
  refine ⟨origin, place, held, ⟨_, _, leads⟩, leadsTo, holds, fun other bytes kept => ?_⟩
  obtain ⟨_, _, read⟩ := get?_of_content? (emptied origin held holds)
  rw [content?_rewrite _ _ _ (emptied other bytes kept), read]
  split <;> rfl

end FileTree

end FileQuery

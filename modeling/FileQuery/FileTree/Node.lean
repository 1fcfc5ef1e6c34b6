import FileQuery.Instant

/-!
# Files, folders and links

A node of a file tree is a file with its bytes, a folder with its entries in listing order, or a
symbolic link with the path that it leads to. A place names a node below another by the names on
the way down; links are not followed.

The main statements say what a node looks like after a change: at the place itself
(`get?_modify_self`), and at a place that the change does not touch (`get?_modify_other`).
-/

namespace FileQuery

/-- When a file or folder was created, changed and read. -/
structure Stamps where
  created : Instant
  modified : Instant
  accessed : Instant
  deriving DecidableEq, Repr

namespace Stamps

/-- The stamps of what is created at an instant. -/
def ofInstant (now : Instant) : Stamps := ⟨now, now, now⟩

/-- The stamps after a change. -/
def touched (now : Instant) (stamps : Stamps) : Stamps := { stamps with modified := now }

end Stamps

/-- A file, folder or symbolic link. -/
inductive Node
  | file (stamps : Stamps) (executable : Bool) (bytes : List UInt8)
  | folder (stamps : Stamps) (entries : List (String × Node))
  | link (target : String)
  deriving Repr

/-- The names on the way down to a node. -/
abbrev Place := List String

namespace Node

/-- Whether a node is a file. -/
def isFile : Node → Bool
  | file .. => true
  | folder .. | link _ => false

/-- Whether a node is a folder. -/
def isFolder : Node → Bool
  | folder .. => true
  | file .. | link _ => false

/-- Whether a node is a link. -/
def isLink : Node → Bool
  | link _ => true
  | file .. | folder .. => false

/-- The entries of a folder. Other nodes have none. -/
def entries : Node → List (String × Node)
  | folder _ found => found
  | file .. | link _ => []

/-- The bytes of a file. Other nodes have none. -/
def bytes : Node → List UInt8
  | file _ _ found => found
  | folder .. | link _ => []

/-- Entries with one of a given name: in the place of the entry that has the name, or else after
    the others. -/
def put (name : String) (node : Node) : List (String × Node) → List (String × Node)
  | [] => [(name, node)]
  | (other, found) :: rest =>
    if other = name then (name, node) :: rest else (other, found) :: put name node rest

/-- Entries without those of a given name. -/
def drop (name : String) (entries : List (String × Node)) : List (String × Node) :=
  entries.filter (·.1 != name)

/-- Entries with a change to those of a given name. -/
def update (name : String) (change : Node → Node) (entries : List (String × Node)) :
    List (String × Node) :=
  entries.map fun (other, found) => (other, if other = name then change found else found)

/-- The node at a place below a node. -/
def get? : Node → Place → Option Node
  | node, [] => some node
  | folder _ entries, name :: rest => (entries.lookup name).bind (·.get? rest)
  | file .., _ :: _ | link _, _ :: _ => none

/-- A node with a change at a place below it. -/
def modify : Node → Place → (Node → Node) → Node
  | node, [], change => change node
  | folder stamps entries, name :: rest, change =>
    folder stamps (update name (·.modify rest change) entries)
  | file stamps executable bytes, _ :: _, _ => file stamps executable bytes
  | link target, _ :: _, _ => link target

/-- A folder after one of its names was given to a node. -/
def insertEntry (now : Instant) (name : String) (node : Node) : Node → Node
  | folder stamps entries => folder (stamps.touched now) (put name node entries)
  | other => other

/-- A folder after one of its names was given up. -/
def eraseEntry (now : Instant) (name : String) : Node → Node
  | folder stamps entries => folder (stamps.touched now) (drop name entries)
  | other => other

/-- A file after other bytes were written to it. -/
def rewrite (now : Instant) (executable : Bool) (bytes : List UInt8) : Node → Node
  | file stamps _ _ => file (stamps.touched now) executable bytes
  | other => other

/-- A file that can be executed, or not. -/
def setExecutable (executable : Bool) : Node → Node
  | file stamps _ bytes => file stamps executable bytes
  | other => other

/-- An empty folder. -/
def emptyFolder (now : Instant) : Node := folder (.ofInstant now) []

/-! ### Laws of entries -/

theorem lookup_put_self (name : String) (node : Node) (entries : List (String × Node)) :
    (put name node entries).lookup name = some node := by
  induction entries with
  | nil => simp [put]
  | cons entry rest inductionHypothesis =>
    obtain ⟨other, found⟩ := entry
    by_cases same : other = name
    · simp [put, same]
    · have differs : (name == other) = false := by simpa using Ne.symm same
      simp [put, same, List.lookup_cons, differs, inductionHypothesis]

theorem lookup_put_other {name other : String} (node : Node) (entries : List (String × Node))
    (differs : other ≠ name) : (put name node entries).lookup other = entries.lookup other := by
  induction entries with
  | nil =>
    have differs' : (other == name) = false := by simpa using differs
    simp [put, List.lookup_cons, differs']
  | cons entry rest inductionHypothesis =>
    obtain ⟨first, found⟩ := entry
    by_cases same : first = name
    · have differs' : (other == name) = false := by simpa using differs
      simp [put, same, List.lookup_cons, differs']
    · cases same' : other == first <;>
        simp [put, same, List.lookup_cons, same', inductionHypothesis]

theorem lookup_drop_self (name : String) (entries : List (String × Node)) :
    (drop name entries).lookup name = none := by
  induction entries with
  | nil => rfl
  | cons entry rest inductionHypothesis =>
    obtain ⟨other, found⟩ := entry
    by_cases same : other = name
    · simpa [drop, same] using inductionHypothesis
    · have differs : (name == other) = false := by simpa using Ne.symm same
      simpa [drop, same, List.lookup_cons, differs] using inductionHypothesis

theorem lookup_drop_other {name other : String} (entries : List (String × Node))
    (differs : other ≠ name) : (drop name entries).lookup other = entries.lookup other := by
  induction entries with
  | nil => rfl
  | cons entry rest inductionHypothesis =>
    obtain ⟨first, found⟩ := entry
    by_cases same : first = name
    · have differs' : (other == name) = false := by simpa using differs
      simpa [drop, same, List.lookup_cons, differs'] using inductionHypothesis
    · cases same' : other == first
      · simpa [drop, same, List.lookup_cons, same'] using inductionHypothesis
      · simp [drop, same, List.lookup_cons, same']

theorem lookup_update_self (name : String) (change : Node → Node)
    (entries : List (String × Node)) :
    (update name change entries).lookup name = (entries.lookup name).map change := by
  induction entries with
  | nil => rfl
  | cons entry rest inductionHypothesis =>
    obtain ⟨other, found⟩ := entry
    by_cases same : other = name
    · simp [update, same]
    · have differs : (name == other) = false := by simpa using Ne.symm same
      simpa [update, same, List.lookup_cons, differs] using inductionHypothesis

theorem lookup_update_other {name other : String} (change : Node → Node)
    (entries : List (String × Node)) (differs : other ≠ name) :
    (update name change entries).lookup other = entries.lookup other := by
  induction entries with
  | nil => rfl
  | cons entry rest inductionHypothesis =>
    obtain ⟨first, found⟩ := entry
    cases same : other == first
    · simpa [update, List.lookup_cons, same] using inductionHypothesis
    · have : first ≠ name := by
        have : other = first := by simpa using same
        simpa [← this] using differs
      simp [update, List.lookup_cons, same, this]

/-- An entry that is put where it is changes nothing. -/
theorem put_of_lookup {name : String} {node : Node} {entries : List (String × Node)}
    (found : entries.lookup name = some node) : put name node entries = entries := by
  induction entries with
  | nil => cases found
  | cons entry rest inductionHypothesis =>
    obtain ⟨first, held⟩ := entry
    by_cases same : first = name
    · obtain rfl : held = node := by simpa [List.lookup_cons, same] using found
      simp [put, same]
    · have differs : (name == first) = false := by simpa using Ne.symm same
      rw [List.lookup_cons, differs] at found
      rw [put, if_neg same, inductionHypothesis found]

/-- What is put last under a name stays. -/
theorem put_put (name : String) (node other : Node) (entries : List (String × Node)) :
    put name node (put name other entries) = put name node entries := by
  induction entries with
  | nil => simp [put]
  | cons entry rest inductionHypothesis =>
    obtain ⟨first, held⟩ := entry
    by_cases same : first = name
    · simp [put, same]
    · simp [put, same, inductionHypothesis]

/-- A new entry that is dropped leaves the others. -/
theorem drop_put {name : String} {entries : List (String × Node)}
    (absent : entries.lookup name = none) (node : Node) :
    drop name (put name node entries) = entries := by
  induction entries with
  | nil => simp [put, drop]
  | cons entry rest inductionHypothesis =>
    obtain ⟨first, held⟩ := entry
    have differs : (name == first) = false := by
      cases same : name == first with
      | false => rfl
      | true => simp [List.lookup_cons, same] at absent
    have differs' : first ≠ name := Ne.symm (by simpa using differs)
    rw [List.lookup_cons, differs] at absent
    have later := inductionHypothesis absent
    simpa [put, differs', drop] using later

/-! ### Laws of places -/

theorem get?_append (node : Node) (first second : Place) :
    node.get? (first ++ second) = (node.get? first).bind (·.get? second) := by
  induction first generalizing node with
  | nil => simp [get?]
  | cons name rest inductionHypothesis =>
    cases node with
    | file => simp [get?]
    | link => simp [get?]
    | folder stamps entries =>
      simp only [List.cons_append, get?]
      cases entries.lookup name with
      | none => rfl
      | some child => simpa using inductionHypothesis child

/-- A change at a place shows at that place. -/
theorem get?_modify_self (node : Node) (place : Place) (change : Node → Node) :
    (node.modify place change).get? place = (node.get? place).map change := by
  induction place generalizing node with
  | nil => simp [modify, get?]
  | cons name rest inductionHypothesis =>
    cases node with
    | file => simp [modify, get?]
    | link => simp [modify, get?]
    | folder stamps entries =>
      simp only [modify, get?, lookup_update_self]
      cases entries.lookup name with
      | none => rfl
      | some child => simpa using inductionHypothesis child

/-- A change at a place does not show at a place that is neither above nor below it. -/
theorem get?_modify_other (node : Node) {place other : Place} (change : Node → Node)
    (notBelow : ¬ place <+: other) (notAbove : ¬ other <+: place) :
    (node.modify place change).get? other = node.get? other := by
  induction place generalizing node other with
  | nil => simp at notBelow
  | cons name rest inductionHypothesis =>
    cases other with
    | nil => simp at notAbove
    | cons otherName otherRest =>
      cases node with
      | file => simp [modify]
      | link => simp [modify]
      | folder stamps entries =>
        simp only [modify, get?]
        by_cases same : otherName = name
        · subst same
          simp only [lookup_update_self]
          cases entries.lookup otherName with
          | none => rfl
          | some child =>
            simp only [List.cons_prefix_cons, true_and] at notBelow notAbove
            simpa using inductionHypothesis child notBelow notAbove
        · rw [lookup_update_other _ _ same]

end Node

end FileQuery

/-!
## Walking through a file tree

A walk lists a node and all that is below it, each folder before its entries. Links are listed
and not followed.
-/

namespace FileQuery.Node

/-- The order of entries by name. -/
def namedBefore (first second : String × Node) : Bool := first.1 ≤ second.1

mutual

/-- A node with the entries of every folder in the order of their names. -/
def sorted : Node → Node
  | file stamps executable bytes => file stamps executable bytes
  | link target => link target
  | folder stamps entries => folder stamps ((sortedEntries entries).mergeSort namedBefore)

/-- Entries with the entries of every folder below them in the order of their names. -/
def sortedEntries : List (String × Node) → List (String × Node)
  | [] => []
  | (name, node) :: rest => (name, node.sorted) :: sortedEntries rest

end

mutual

/-- A node that is at a place, and all that is below it, with their places. -/
def walk (place : Place) : Node → List (Place × Node)
  | file stamps executable bytes => [(place, file stamps executable bytes)]
  | link target => [(place, link target)]
  | folder stamps entries => (place, folder stamps entries) :: walkEntries place entries

/-- The walks through entries of the folder at a place. -/
def walkEntries (place : Place) : List (String × Node) → List (Place × Node)
  | [] => []
  | (name, node) :: rest => walk (place ++ [name]) node ++ walkEntries place rest

end

end FileQuery.Node

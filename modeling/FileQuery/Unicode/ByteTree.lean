import FileQuery.Unicode.Ranges

/-!
# Bytes of ranges of characters

The characters of a range are written in UTF-8 as sequences of one to four bytes. A range falls
into parts whose characters have at each position of their sequences any byte of a range of
bytes, independently of the bytes before it. The sequences of a class form a tree in which two of
them share what they begin with.
-/

namespace FileQuery.Unicode

/-- The bytes that can stand at each position. -/
abbrev ByteSequence := List (Nat × Nat)

/-- The sequences of the numbers from one to another that are written as a first digit, with a
    mark added to it, and a number of further digits of six bits each. The part of the lowest
    first digit and the part of the highest one come by themselves unless they are complete. -/
def digitSequences (mark : Nat) : (further : Nat) → (low high : Nat) → List ByteSequence
  | 0, low, high => [[(mark + low, mark + high)]]
  | further + 1, low, high =>
    let unit := Nat.pow 64 (further + 1)
    let start := low / unit
    let stop := high / unit
    let under (digit : Nat) (sequences : List ByteSequence) : List ByteSequence :=
      sequences.map ((mark + digit, mark + digit) :: ·)
    if start = stop then under start (digitSequences 0x80 further (low % unit) (high % unit))
    else
      let whole := low % unit = 0
      let full := high % unit = unit - 1
      let first := if whole then [] else
        under start (digitSequences 0x80 further (low % unit) (unit - 1))
      let last := if full then [] else under stop (digitSequences 0x80 further 0 (high % unit))
      let begins := if whole then start else start + 1
      let ends := if full then stop + 1 else stop
      let middle := if begins < ends then
        [(mark + begins, mark + ends - 1) :: List.replicate (further + 1) (0x80, 0xBF)] else []
      first ++ middle ++ last

/-- The code points of the characters that take one more byte than a number, with the mark of
    their first byte. Between those of three bytes lie the surrogates. -/
def byteLengths : List (Nat × Nat × Nat × Nat) := [
  (0, 0, 0, 0x7F), (1, 0xC0, 0x80, 0x7FF), (2, 0xE0, 0x800, 0xD7FF), (2, 0xE0, 0xE000, 0xFFFF),
  (3, 0xF0, 0x10000, 0x10FFFF)]

/-- The sequences of the characters of ranges. -/
def byteSequences (ranges : Ranges) : List ByteSequence :=
  ranges.flatMap fun (low, high) =>
    byteLengths.flatMap fun (further, mark, least, most) =>
      if max low least ≤ min high most then
        digitSequences mark further (max low least) (min high most)
      else []

/-- A tree of sequences of bytes. Each branch, the last one first, has the bytes that lead to it. -/
inductive ByteTree
  | node (branches : List ((Nat × Nat) × ByteTree))
  deriving BEq

namespace ByteTree

/-- The tree of no sequence. -/
def empty : ByteTree := .node []

/-- The tree with one more sequence, which comes after all that are in it. -/
def insert : ByteSequence → ByteTree → ByteTree
  | [], tree => tree
  | bytes :: rest, .node [] => .node [(bytes, insert rest empty)]
  | bytes :: rest, .node ((last, tree) :: others) =>
    if bytes = last then .node ((last, insert rest tree) :: others)
    else .node ((bytes, insert rest empty) :: (last, tree) :: others)

/-- The tree of sequences in ascending order. -/
def ofSequences (sequences : List ByteSequence) : ByteTree :=
  sequences.foldl (fun tree sequence => tree.insert sequence) empty

mutual

/-- The number of branches of a tree and of all its parts. -/
def branchCount : ByteTree → Nat
  | .node branches => branchCounts branches

/-- The number of branches in a list and below it. -/
def branchCounts : List ((Nat × Nat) × ByteTree) → Nat
  | [] => 0
  | (_, tree) :: rest => 1 + tree.branchCount + branchCounts rest

end

/-- Whether nothing branches off. -/
def isLeaf : ByteTree → Bool
  | .node branches => branches.isEmpty

/-- The number of branches of the tree itself. -/
def width : ByteTree → Nat
  | .node branches => branches.length

mutual

/-- The different parts of a tree that are no leaves, together with the given ones. -/
def parts : ByteTree → List ByteTree → List ByteTree
  | .node branches, found =>
    let found := partsOf branches found
    let whole := ByteTree.node branches
    if branches.isEmpty || found.contains whole then found else whole :: found

/-- The different parts of the trees in a list that are no leaves, together with the given ones. -/
def partsOf : List ((Nat × Nat) × ByteTree) → List ByteTree → List ByteTree
  | [], found => found
  | (_, tree) :: rest, found => partsOf rest (tree.parts found)

end

end ByteTree

end FileQuery.Unicode

import FileQuery.Pattern.Outline
import FileQuery.Unicode.ByteTree

/-!
# Size of patterns

Counted repetitions multiply the size of a pattern. A pattern is refused when the automaton that
recognises it byte by byte, read forwards or backwards, would take too much memory.

Every state takes the same memory, and some more for each of its ways on if it has a list of them:
less for a way that is free than for a way that has a range of bytes.
-/

namespace FileQuery.Pattern

/-- The largest accepted size of an automaton, in bytes of memory. -/
def sizeLimit : Nat := 10 * 0x100000

/-- The memory of a state that has at most one way on. -/
def stateSize : Nat := 32

/-- The memory of a state with a number of free ways on. -/
def forkSize (ways : Nat) : Nat := stateSize + 4 * ways

/-- The memory of a state with a number of ways on, each for a range of bytes. -/
def switchSize (ways : Nat) : Nat := stateSize + 8 * ways

/-- The two directions in which texts are read. -/
inductive Direction
  | forwards | backwards
  deriving DecidableEq, Repr

/-- The memory for a class of characters. Forwards, equal parts of the tree of byte sequences are
    built once. Backwards, all sequences are built, and share the states for what they begin
    with. -/
def classSize (direction : Direction) (ranges : Unicode.Ranges) : Nat :=
  if ranges.all (·.2 < 0x80) then stateSize + switchSize ranges.length
  else
    let sequences := Unicode.byteSequences ranges
    let tree := Unicode.ByteTree.ofSequences sequences
    match direction with
    | .forwards =>
      (tree.parts []).foldl (fun total part => total + switchSize part.width) stateSize
    | .backwards => forkSize sequences.length + stateSize + stateSize * tree.branchCount

/-- A tree of texts that keeps the order of preference: the ways on from a node are in groups,
    the last one first, and between two groups a text of the tree ends. -/
inductive TextTree
  | node (groups : List (List (UInt8 × TextTree)))
  deriving BEq

namespace TextTree

/-- The tree of no text. -/
def empty : TextTree := .node [[]]

/-- The tree of one text. -/
def single : List UInt8 → TextTree
  | [] => .node [[], []]
  | byte :: rest => .node [[(byte, single rest)]]

/-- Ways on with a text inserted below one of them, if its first byte leads to one. -/
def replaceWay (byte : UInt8) (change : TextTree → TextTree) :
    List (UInt8 × TextTree) → Option (List (UInt8 × TextTree))
  | [] => none
  | (other, tree) :: rest =>
    if other = byte then some ((other, change tree) :: rest)
    else (replaceWay byte change rest).map ((other, tree) :: ·)

/-- The tree with one more text, less preferred than those in it. -/
def insert : List UInt8 → TextTree → TextTree
  | [], .node groups =>
    if groups.all List.isEmpty && 1 < groups.length then .node groups else .node ([] :: groups)
  | byte :: rest, .node [] => .node [[(byte, single rest)]]
  | byte :: rest, .node (last :: others) =>
    match replaceWay byte (fun tree => insert rest tree) last with
    | some ways => .node (ways :: others)
    | none => .node (((byte, single rest) :: last) :: others)

mutual

/-- The memory of the automaton below a node. Where no way goes on there is none. -/
def size : TextTree → Nat
  | .node groups =>
    if groups.all List.isEmpty then 0
    else
      let filled := (groups.filter (!·.isEmpty)).length
      forkSize (filled + (groups.length - 1)) + groupsSize groups

/-- The memory of the groups of a node and of what is below. -/
def groupsSize : List (List (UInt8 × TextTree)) → Nat
  | [] => 0
  | ways :: rest =>
    (match ways with
      | [] => 0
      | [_] => stateSize
      | several => switchSize several.length) + waysSize ways + groupsSize rest

/-- The memory below the ways of a group. -/
def waysSize : List (UInt8 × TextTree) → Nat
  | [] => 0
  | (_, tree) :: rest => tree.size + waysSize rest

end

end TextTree

namespace Outline

/-- The bytes of an outline that is a text. -/
def text? : Outline → Option (List UInt8)
  | text bytes => some bytes
  | _ => none

/-- The memory for alternatives that are texts. -/
def textsSize (direction : Direction) (texts : List (List UInt8)) : Nat :=
  let read := if direction = .forwards then texts else texts.map List.reverse
  stateSize + (read.foldl (fun tree text => tree.insert text) TextTree.empty).size

mutual

/-- The memory of the automaton of an outline. -/
def size (direction : Direction) : Outline → Nat
  | nothing | look _ => stateSize
  | text bytes => stateSize * bytes.length
  | characters ranges => classSize direction ranges
  | capture _ body =>
    body.size direction + if direction = .forwards then 2 * stateSize else 0
  | sequence parts => sizes direction parts
  | choice parts =>
    match parts.mapM text? with
    | some texts => textsSize direction texts
    | none => forkSize parts.length + stateSize + sizes direction parts
  | repetition body least most =>
    let once := body.size direction
    match least, most with
    | 0, some 1 => forkSize 2 + once + stateSize
    | 0, none =>
      if body.leastLength.any (0 < ·) then forkSize 2 + once
      else once + forkSize 2 + forkSize 2 + stateSize
    | least, none => least * once + forkSize 2
    | least, some most =>
      if least = most then least * once
      else
        (if least = 0 then stateSize else least * once) + stateSize
          + (most - least) * (forkSize 2 + once)

/-- The memory of the automata of outlines. -/
def sizes (direction : Direction) : List Outline → Nat
  | [] => 0
  | first :: rest => first.size direction + sizes direction rest

end

mutual

/-- Whether a match can only be where an assertion holds at its start, because the outline begins
    with it. -/
def beginsWith (assertion : Look) : Outline → Bool
  | look l => l == assertion
  | nothing | text _ | characters _ => false
  | capture _ body => body.beginsWith assertion
  | repetition body least _ => 0 < least && body.beginsWith assertion
  | sequence parts => listBeginsWith assertion parts
  | choice parts => allBeginWith assertion parts

/-- Whether parts in sequence begin with an assertion. -/
def listBeginsWith (assertion : Look) : List Outline → Bool
  | [] => false
  | first :: rest =>
    first.beginsWith assertion || first.isEmptyOnly && listBeginsWith assertion rest

/-- Whether all alternatives begin with an assertion. -/
def allBeginWith (assertion : Look) : List Outline → Bool
  | [] => true
  | first :: rest => first.beginsWith assertion && allBeginWith assertion rest

end

mutual

/-- The outline of the same texts read backwards. -/
def reversed : Outline → Outline
  | capture index body => capture index body.reversed
  | repetition body least most => repetition body.reversed least most
  | sequence parts => sequence (reversedParts parts).reverse
  | choice parts => choice (reversedParts parts)
  | other => other

/-- The outlines of the same texts read backwards. -/
def reversedParts : List Outline → List Outline
  | [] => []
  | first :: rest => first.reversed :: reversedParts rest

end

/-- The memory of the automaton that looks for an outline in texts. Unless a match can only be
    where reading begins, the automaton may first pass any number of bytes. -/
def searchSize (direction : Direction) (outline : Outline) : Nat :=
  let anchored := match direction with
    | .forwards => outline.beginsWith .textStart
    | .backwards => outline.reversed.beginsWith .textEnd
  let pass := if anchored then stateSize else forkSize 2 + stateSize + switchSize 1
  pass + (Outline.capture 0 outline).size direction + stateSize

end Outline

/-- Whether the automaton of a regular expression is too large. -/
def Regular.tooLarge (pattern : Regular) : Bool :=
  let outline := pattern.outline
  sizeLimit < outline.searchSize .forwards || sizeLimit < outline.searchSize .backwards

end FileQuery.Pattern

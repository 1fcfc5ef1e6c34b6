import FileQuery.Bytes
import FileQuery.Compression.Zstandard.State

/-!
# Literals of a block

A block starts with its literals: bytes as they are, one byte repeated, or code words. A code is
told by the weights of its symbols: a word with a larger weight is shorter. The last weight follows
from the others, since no words are left unused. Code words are read from the end of their bytes,
in one stream or in four.
-/

namespace FileQuery.Compression.Zstandard

/-- The code of literals: how many bits the longest words have, and for each number of so many bits
    the symbol that it begins with and the number of its bits. -/
structure LiteralCode where
  longest : Nat
  entries : Array (UInt8 × Nat)
  deriving DecidableEq, Repr

namespace LiteralCode

/-- The largest number of bits of a word. -/
def limit : Nat := 12

/-- The number of words of the longest length that a word of a weight takes. -/
def room (weight : Nat) : Nat := if weight = 0 then 0 else Nat.pow 2 (weight - 1)

/-- The code of weights but for the last one. -/
def ofWeights (weights : List Nat) : Except Corruption LiteralCode :=
  let total := weights.foldl (fun total weight => total + room weight) 0
  let longest := Nat.log2 total + 1
  let left := Nat.pow 2 longest - total
  let weights := weights ++ [Nat.log2 left + 1]
  let least := weights.countP (· = 1)
  if total = 0 ∨ limit < longest ∨ left ≠ Nat.pow 2 (Nat.log2 left) then .error .corrupt
  else if least < 2 ∨ least % 2 = 1 ∨ weights.any (limit < ·) then .error .corrupt
  else
    let entries := (List.range longest).flatMap fun lower =>
      weights.zipIdx.flatMap fun (weight, symbol) =>
        if weight = lower + 1 then
          List.replicate (room weight) (UInt8.ofNat symbol, longest + 1 - weight)
        else []
    .ok ⟨longest, entries.toArray⟩

/-- Takes a number of symbols from bits. All bits have to be taken. -/
def symbols (code : LiteralCode) : Nat → List Bool → List UInt8 → Except Corruption (List UInt8)
  | 0, bits, found => if bits.isEmpty then .ok found.reverse else .error .corrupt
  | count + 1, bits, found =>
    let taken := bits.take code.longest
    let number := highNumber taken * Nat.pow 2 (code.longest - taken.length)
    match code.entries[number]? with
    | some (symbol, size) =>
      if bits.length < size then .error .corrupt
      else symbols code count (bits.drop size) (symbol :: found)
    | none => .error .corrupt

/-- Takes a number of symbols from bytes. -/
def decode (code : LiteralCode) (count : Nat) (bytes : List UInt8) :
    Except Corruption (List UInt8) :=
  match backward bytes with
  | some bits => code.symbols count bits []
  | none => .error .corrupt

/-- Takes symbols from four streams. The sizes of the first three come before them. -/
def decodeFour (code : LiteralCode) (count : Nat) (bytes : List UInt8) :
    Except Corruption (List UInt8) := do
  if bytes.length < 10 ∨ count < 6 then throw .corrupt
  let size (place : Nat) : Nat := Bytes.lowFirst ((bytes.drop (2 * place)).take 2)
  let rest := bytes.drop 6
  if rest.length < size 0 + size 1 + size 2 then throw .corrupt
  let part := (count + 3) / 4
  if count < 3 * part then throw .corrupt
  let first ← code.decode part (rest.take (size 0))
  let rest := rest.drop (size 0)
  let second ← code.decode part (rest.take (size 1))
  let rest := rest.drop (size 1)
  let third ← code.decode part (rest.take (size 2))
  let fourth ← code.decode (count - 3 * part) (rest.drop (size 2))
  return first ++ second ++ third ++ fourth

end LiteralCode

/-! ### Weights -/

/-- The largest number of bits of the first state of the code of weights. -/
def weightAccuracy : Nat := 6

/-- The number of symbols of the code of weights. -/
def weightSymbols : Nat := 13

/-- The largest number of weights that are written. -/
def mostWeights : Nat := 255

/-- Takes weights, last first, from two states in turn, until there are too few bits. The other
    state still stands for a weight. -/
def takeWeights (code : StateCode) : Nat → Nat → Nat → List Nat → BackwardReader (List Nat)
  | 0, _, _, found => return found
  | fuel + 1, state, other, found => do
    let found := (code.get state).symbol :: found
    let next ← code.next state
    if (← get).missing then return (code.get other).symbol :: found
    takeWeights code fuel other next found

/-- The weights that bytes tell by a code of states. -/
def weightsOf (bytes : List UInt8) : Except Corruption (List Nat) := do
  let (code, rest) ← StateCode.read weightAccuracy weightSymbols bytes
  let some bits := backward rest | throw .corrupt
  let reader : BackwardReader (List Nat) := do
    let first ← code.start
    let second ← code.start
    takeWeights code (mostWeights + 1) first second []
  let (found, final) := reader.run ⟨bits, false⟩
  if !final.missing || mostWeights < found.length then throw .corrupt
  return found.reverse

/-- Weights of four bits each, the higher bits of a byte first. -/
def plainWeights (count : Nat) (bytes : List UInt8) : List Nat :=
  (bytes.flatMap fun byte => [byte.toNat / 16, byte.toNat % 16]).take count

/-- The code at the start of bytes, and the bytes after it. -/
def LiteralCode.read (bytes : List UInt8) : Except Corruption (LiteralCode × List UInt8) := do
  match bytes with
  | [] => throw .corrupt
  | first :: rest =>
    let kind := first.toNat
    let count := kind - 127
    let size := if kind < 128 then kind else (count + 1) / 2
    if rest.length < size then throw .corrupt
    let written := rest.take size
    let weights ← if kind < 128 then weightsOf written else pure (plainWeights count written)
    return (← LiteralCode.ofWeights weights, rest.drop size)

/-! ### Sections -/

/-- The largest number of bytes that a block stands for. -/
def blockLimit : Nat := 0x20000

/-- The kinds of literals. -/
inductive LiteralKind
  | plain
  | repeated
  /-- Words of a code that is told before them, or of the last one. -/
  | coded (isNew : Bool)
  deriving DecidableEq, Repr

/-- The kind of a number. -/
def LiteralKind.ofNumber : Nat → LiteralKind
  | 0 => plain
  | 1 => repeated
  | 2 => coded true
  | _ => coded false

/-- What the head of a section tells. -/
structure LiteralHead where
  kind : LiteralKind
  /-- The number of literals. -/
  count : Nat
  /-- The number of bytes that they are written in. -/
  size : Nat
  /-- Whether code words are in one stream. -/
  single : Bool
  /-- The number of bytes of the head. -/
  headSize : Nat
  deriving DecidableEq, Repr

/-- The head at the start of bytes. -/
def LiteralHead.read (bytes : List UInt8) : Option LiteralHead :=
  bytes.head?.bind fun first =>
    let kind := LiteralKind.ofNumber (first.toNat % 4)
    let format := first.toNat / 4 % 4
    let headSize := match kind with
      | .plain | .repeated => if format % 2 = 0 then 1 else if format = 1 then 2 else 3
      | .coded _ => if format ≤ 1 then 3 else format + 2
    let bits := Bytes.lowFirst (bytes.take headSize)
    if bytes.length < headSize then none
    else
      match kind with
      | .plain | .repeated =>
        let count := if format % 2 = 0 then bits / 8 else bits / 16
        some ⟨kind, count, if kind = .repeated then 1 else count, true, headSize⟩
      | .coded _ =>
        let width := if format ≤ 1 then 10 else if format = 2 then 14 else 18
        let count := bits / 16 % Nat.pow 2 width
        some ⟨kind, count, bits / 16 / Nat.pow 2 width, format = 0, headSize⟩

/-- The literals at the start of bytes, the last code after them, and the bytes after them. -/
def literalsOf (last : Option LiteralCode) (bytes : List UInt8) :
    Except Corruption (List UInt8 × Option LiteralCode × List UInt8) := do
  let some head := LiteralHead.read bytes | throw .corrupt
  let written := (bytes.drop head.headSize).take head.size
  let rest := bytes.drop (head.headSize + head.size)
  if written.length < head.size ∨ blockLimit < head.count then throw .corrupt
  match head.kind with
  | .plain => return (written, last, rest)
  | .repeated => return (List.replicate head.count (written.headD 0), last, rest)
  | .coded isNew =>
    let (code, words) ← if isNew then LiteralCode.read written
      else match last with
        | some code => pure (code, written)
        | none => throw .noCode
    let found ← if head.single then code.decode head.count words
      else code.decodeFour head.count words
    return (found, some code, rest)

end FileQuery.Compression.Zstandard

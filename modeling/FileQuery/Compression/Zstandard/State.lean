import FileQuery.Compression.Deflate

/-!
# Codes by states

A stream of bits can be read from its end: its last byte has a bit that marks the end, and what was
written last is read first. A code by states has a table of states. Each state stands for a symbol,
and tells how many bits are taken for the next state and what is added to them. The table comes of
the chances of the symbols, which add up to the number of states.
-/

namespace FileQuery.Compression.Zstandard

/-- Why a part of a stream has no meaning. -/
inductive Corruption
  | corrupt
  /-- A code is used again before there is one. -/
  | noCode
  deriving DecidableEq, Repr

/-- The bits of bytes from the end, after the bit that marks it. -/
def backward (bytes : List UInt8) : Option (List Bool) :=
  match bytes.reverse with
  | [] => none
  | last :: before =>
    let bits (byte : UInt8) : List Bool := (Inflation.bitsOf byte).reverse
    match (bits last).dropWhile (!·) with
    | [] => none
    | _ :: rest => some (rest ++ before.flatMap bits)

/-- The number that bits denote, highest bit first. -/
def highNumber (bits : List Bool) : Nat :=
  bits.foldl (fun value bit => 2 * value + bit.toNat) 0

/-- What is read backward: the bits that are left, and whether there were too few. Missing bits are
    zero. -/
structure Backward where
  bits : List Bool
  missing : Bool

/-- Readers of bits from the end. -/
abbrev BackwardReader := StateM Backward

/-- Takes a number of bits. -/
def takeBack (count : Nat) : BackwardReader Nat := fun state =>
  let taken := state.bits.take count
  let absent := count - taken.length
  (highNumber taken * Nat.pow 2 absent,
    ⟨state.bits.drop count, state.missing || absent ≠ 0⟩)

/-- A state of a code. -/
structure CodeState where
  symbol : Nat
  /-- The number of bits that are taken for the next state. -/
  bits : Nat
  /-- What is added to them. -/
  base : Nat
  deriving DecidableEq, Repr, Inhabited

/-- A code by states. -/
structure StateCode where
  /-- The number of bits of the first state. -/
  accuracy : Nat
  states : Array CodeState
  deriving DecidableEq, Repr

/-- A chance of a symbol: a number of states, or less than one. -/
inductive Chance
  | states (count : Nat)
  | least
  deriving DecidableEq, Repr

namespace Chance

/-- The number of states of a symbol. -/
def size : Chance → Nat
  | states count => count
  | least => 1

end Chance

/-- The code that always stands for a symbol. -/
def StateCode.constant (symbol : Nat) : StateCode := ⟨0, #[⟨symbol, 0, 0⟩]⟩

/-- The next place in a table where a symbol can stand: the places after a limit are taken. Steps go
    through all places. -/
def nextPlace (size limit : Nat) : Nat → Nat → Nat
  | 0, place => place
  | fuel + 1, place =>
    let next := (place + size / 2 + size / 8 + 3) % size
    if next < limit then next else nextPlace size limit fuel next

/-- The symbols of a table in which symbols are spread, each in a number of places. -/
def spread (size limit : Nat) : List Nat → Nat → Array Nat → Array Nat
  | [], _, table => table
  | symbol :: rest, place, table =>
    spread size limit rest (nextPlace size limit size place) (table.setIfInBounds place symbol)

/-- The symbol of each state. Symbols with the least chance stand at the end. -/
def symbolTable (size : Nat) (chances : List Chance) : List Nat :=
  let indexed := chances.zipIdx
  let rare := indexed.filterMap fun (chance, symbol) =>
    if chance = .least then some symbol else none
  let common := indexed.flatMap fun (chance, symbol) =>
    match chance with
    | .states count => List.replicate count symbol
    | .least => []
  let limit := size - rare.length
  (spread size limit common 0 (Array.replicate limit 0)).toList ++ rare.reverse

/-- The states of symbols, given for each symbol the number of its next state. -/
def statesOf (accuracy : Nat) : List Nat → Array Nat → List CodeState
  | [], _ => []
  | symbol :: rest, next =>
    let number := (next[symbol]?).getD 1
    let bits := accuracy - Nat.log2 number
    ⟨symbol, bits, number * Nat.pow 2 bits - Nat.pow 2 accuracy⟩ ::
      statesOf accuracy rest (next.setIfInBounds symbol (number + 1))

/-- The code of chances that add up to the number of states. -/
def StateCode.ofChances (accuracy : Nat) (chances : List Chance) : StateCode :=
  let table := symbolTable (Nat.pow 2 accuracy) chances
  ⟨accuracy, (statesOf accuracy table (chances.map Chance.size).toArray).toArray⟩

/-- Takes the number of the first state. -/
def StateCode.start (code : StateCode) : BackwardReader Nat := takeBack code.accuracy

/-- What a state tells. -/
def StateCode.get (code : StateCode) (state : Nat) : CodeState := (code.states[state]?).getD default

/-- Takes the number of the next state. -/
def StateCode.next (code : StateCode) (state : Nat) : BackwardReader Nat := do
  let told := code.get state
  return told.base + (← takeBack told.bits)

/-! ### Chances -/

/-- Readers of bits from the start. -/
abbrev ForwardReader := ExceptT Corruption (StateM (List Bool))

/-- Takes a number of bits. -/
def takeBits (count : Nat) : ForwardReader Nat := fun bits =>
  match Inflation.split? count bits with
  | some (taken, rest) => (.ok (Inflation.number taken), rest)
  | none => (.error .corrupt, [])

/-- Takes the number of symbols without chances after one without. -/
def takeAbsent : Nat → ForwardReader Nat
  | 0 => return 0
  | fuel + 1 => do
    let count ← takeBits 2
    if count < 3 then return count else return 3 + (← takeAbsent fuel)

/-- Takes a value below a number of values, where small ones take a bit less. -/
def takeBelow (count : Nat) : ForwardReader Nat := do
  let width := Nat.log2 (count - 1)
  let spare := Nat.pow 2 (width + 1) - count
  let low ← takeBits width
  if low < spare then return low
  let high ← takeBits 1
  return if high = 1 then low + Nat.pow 2 width - spare else low

/-- Takes chances, last first, until they add up to a number of states. There are at most as many as
    there are symbols. -/
def takeChances : Nat → Nat → List Chance → ForwardReader (List Chance)
  | _, 0, found => return found
  | 0, _ + 1, _ => throw .corrupt
  | symbols + 1, left + 1, found => do
    match ← takeBelow (left + 3) with
    | 0 => takeChances symbols left (.least :: found)
    | 1 =>
      let absent ← takeAbsent symbols
      if symbols < absent then throw .corrupt
      takeChances (symbols - absent) (left + 1)
        (List.replicate (absent + 1) (.states 0) ++ found)
    | value + 2 => takeChances symbols (left - value) (.states (value + 1) :: found)
  termination_by symbols => symbols

/-- The code at the start of bytes for a number of symbols, and the bytes after it. -/
def StateCode.read (mostAccuracy symbols : Nat) (bytes : List UInt8) :
    Except Corruption (StateCode × List UInt8) :=
  let reader : ForwardReader StateCode := do
    let accuracy := 5 + (← takeBits 4)
    if mostAccuracy < accuracy then throw .corrupt
    let chances ← takeChances symbols (Nat.pow 2 accuracy) []
    return .ofChances accuracy chances.reverse
  match reader.run (bytes.flatMap Inflation.bitsOf) with
  | (.ok code, rest) => .ok (code, bytes.drop (bytes.length - rest.length / 8))
  | (.error flaw, _) => .error flaw

end FileQuery.Compression.Zstandard

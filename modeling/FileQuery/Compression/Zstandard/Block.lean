import FileQuery.Compression.Zstandard.Literals

/-!
# Blocks

After the literals of a block come its sequences. A sequence takes some literals, and then repeats
bytes of the result from a distance. Three codes by states tell the number of literals, the distance
and the number of bytes. The last three distances are at hand.
-/

namespace FileQuery.Compression.Zstandard

/-- The numbers that the symbols of a code stand for: the least one and the number of bits that add
    to it. -/
abbrev Meanings := List (Nat × Nat)

/-- The meanings of symbols for numbers of literals. -/
def literalMeanings : Meanings :=
  (List.range 16).map (fun number => (number, 0)) ++ [
    (16, 1), (18, 1), (20, 1), (22, 1), (24, 2), (28, 2), (32, 3), (40, 3), (48, 4), (64, 6),
    (128, 7), (256, 8), (512, 9), (1024, 10), (2048, 11), (4096, 12), (8192, 13), (16384, 14),
    (32768, 15), (65536, 16)]

/-- The meanings of symbols for numbers of repeated bytes. -/
def repeatMeanings : Meanings :=
  (List.range 32).map (fun number => (number + 3, 0)) ++ [
    (35, 1), (37, 1), (39, 1), (41, 1), (43, 2), (47, 2), (51, 3), (59, 3), (67, 4), (83, 4),
    (99, 5), (131, 7), (259, 8), (515, 9), (1027, 10), (2051, 11), (4099, 12), (8195, 13),
    (16387, 14), (32771, 15), (65539, 16)]

/-- The meanings of symbols for distances. -/
def distanceMeanings : Meanings := (List.range 32).map fun bits => (Nat.pow 2 bits, bits)

/-- A kind of numbers in sequences. -/
structure NumberKind where
  meanings : Meanings
  mostAccuracy : Nat
  /-- The code that need not be told. -/
  common : StateCode

/-- A number of symbols without other chances. -/
def rare (count : Nat) : List Chance := List.replicate count .least

/-- Numbers of literals. -/
def literalNumbers : NumberKind where
  meanings := literalMeanings
  mostAccuracy := 9
  common := .ofChances 6 ([4, 3, 2, 2, 2, 2, 2, 2, 2, 2, 2, 2, 2, 1, 1, 1, 2, 2, 2, 2, 2, 2, 2, 2,
    2, 3, 2, 1, 1, 1, 1, 1].map .states ++ rare 4)

/-- Numbers of repeated bytes. -/
def repeatNumbers : NumberKind where
  meanings := repeatMeanings
  mostAccuracy := 9
  common := .ofChances 6 ([1, 4, 3, 2, 2, 2, 2, 2, 2].map .states
    ++ List.replicate 37 (.states 1) ++ rare 7)

/-- Distances. -/
def distanceNumbers : NumberKind where
  meanings := distanceMeanings
  mostAccuracy := 8
  common := .ofChances 5 (List.replicate 6 (.states 1) ++ List.replicate 3 (.states 2)
    ++ List.replicate 15 (.states 1) ++ rare 5)

/-- The last codes and distances. -/
structure Memory where
  literal : Option LiteralCode
  counts : Option StateCode
  distances : Option StateCode
  repeats : Option StateCode
  /-- The last three distances, the latest one first. -/
  latest : Nat × Nat × Nat
  deriving DecidableEq, Repr

/-- What is known at the start of a frame. -/
def Memory.start : Memory := ⟨none, none, none, none, (1, 4, 8)⟩

/-- The code of numbers at the start of bytes, and the bytes after it. The way it is told has a
    number. -/
def NumberKind.codeOf (kind : NumberKind) (way : Nat) (last : Option StateCode)
    (bytes : List UInt8) : Except Corruption (StateCode × List UInt8) :=
  match way with
  | 0 => .ok (kind.common, bytes)
  | 1 =>
    match bytes with
    | symbol :: rest =>
      if symbol.toNat < kind.meanings.length then .ok (.constant symbol.toNat, rest)
      else .error .corrupt
    | [] => .error .corrupt
  | 2 => StateCode.read kind.mostAccuracy kind.meanings.length bytes
  | _ =>
    match last with
    | some code => .ok (code, bytes)
    | none => .error .corrupt

/-- The number of sequences at the start of bytes, and the bytes after it. -/
def sequenceCount : List UInt8 → Option (Nat × List UInt8)
  | [] => none
  | first :: rest =>
    let first := first.toNat
    if first < 128 then some (first, rest)
    else if first < 255 then
      match rest with
      | second :: rest => some ((first - 128) * 256 + second.toNat, rest)
      | [] => none
    else
      match rest with
      | second :: third :: rest => some (second.toNat + 256 * third.toNat + 0x7F00, rest)
      | _ => none

/-- What is made of a block. -/
structure Making where
  output : Array UInt8
  literals : List UInt8
  latest : Nat × Nat × Nat

/-- Makers of a block, which read its sequences. -/
abbrev Maker := ExceptT Corruption (StateT Making BackwardReader)

/-- Takes from the bits of the sequences. -/
def takenBack {Result : Type} (reader : BackwardReader Result) : Maker Result :=
  ExceptT.lift (StateT.lift reader)

/-- The number that the symbol of a state stands for. -/
def meaning (kind : NumberKind) (code : StateCode) (state : Nat) : Maker Nat := do
  let (least, bits) := (kind.meanings[(code.get state).symbol]?).getD (0, 0)
  return least + (← takenBack (takeBack bits))

/-- The distance of a number, and the latest distances after it. Without literals the latest
    distance would be of no use, so the numbers mean others. -/
def distanceOf (latest : Nat × Nat × Nat) (number literals : Nat) : Nat × Nat × Nat × Nat :=
  let (first, second, third) := latest
  if 3 < number then (number - 3, number - 3, first, second)
  else
    match if literals = 0 then number + 1 else number with
    | 1 => (first, first, second, third)
    | 2 => (second, second, first, third)
    | 3 => (third, third, first, second)
    | _ => (first - 1, first - 1, first, second)

/-- Adds literals to the result. -/
def addLiterals (count : Nat) : Maker Unit := do
  let making ← get
  if making.literals.length < count then throw .corrupt
  set { making with
    output := (making.literals.take count).foldl (·.push ·) making.output
    literals := making.literals.drop count }

/-- Repeats a number of bytes of the result from a distance. -/
def repeated (distance : Nat) : Nat → Array UInt8 → Array UInt8
  | 0, output => output
  | count + 1, output =>
    repeated distance count (output.push ((output[output.size - distance]?).getD 0))

/-- The codes of a block. -/
structure SequenceCodes where
  counts : StateCode
  distances : StateCode
  repeats : StateCode

/-- Makes a number of sequences, given the states of the three codes. -/
def makeSequences (codes : SequenceCodes) : Nat → Nat → Nat → Nat → Maker Unit
  | 0, _, _, _ => pure ()
  | left + 1, countState, distanceState, repeatState => do
    let number ← meaning distanceNumbers codes.distances distanceState
    let length ← meaning repeatNumbers codes.repeats repeatState
    let count ← meaning literalNumbers codes.counts countState
    addLiterals count
    let making ← get
    let (distance, latest) := distanceOf making.latest number count
    if distance = 0 ∨ making.output.size < distance then throw .corrupt
    set { making with output := repeated distance length making.output, latest }
    if left = 0 then pure ()
    else
      let countState ← takenBack (codes.counts.next countState)
      let repeatState ← takenBack (codes.repeats.next repeatState)
      let distanceState ← takenBack (codes.distances.next distanceState)
      makeSequences codes left countState distanceState repeatState

/-- Makes a number of sequences. -/
def makeAll (codes : SequenceCodes) (count : Nat) : Maker Unit := do
  let countState ← takenBack codes.counts.start
  let distanceState ← takenBack codes.distances.start
  let repeatState ← takenBack codes.repeats.start
  makeSequences codes count countState distanceState repeatState

/-- The result after a block of sequences, and what is known after it. -/
def decodeBlock (memory : Memory) (bytes : List UInt8) (output : Array UInt8) :
    Except Corruption (Array UInt8 × Memory) := do
  let (literals, literal, rest) ← literalsOf memory.literal bytes
  let memory := { memory with literal }
  let some (count, rest) := sequenceCount rest | throw .corrupt
  if count = 0 then
    if !rest.isEmpty then throw .corrupt
    return (literals.foldl (·.push ·) output, memory)
  match rest with
  | [] => throw .corrupt
  | ways :: rest =>
    let ways := ways.toNat
    if ways % 4 ≠ 0 then throw .corrupt
    let (counts, rest) ← literalNumbers.codeOf (ways / 64) memory.counts rest
    let (distances, rest) ← distanceNumbers.codeOf (ways / 16 % 4) memory.distances rest
    let (repeats, rest) ← repeatNumbers.codeOf (ways / 4 % 4) memory.repeats rest
    let some bits := backward rest | throw .corrupt
    let ((result, making), final) :=
      ((makeAll ⟨counts, distances, repeats⟩ count).run.run ⟨output, literals, memory.latest⟩).run
        ⟨bits, false⟩
    match result with
    | .error flaw => throw flaw
    | .ok () =>
      if final.missing || !final.bits.isEmpty then throw .corrupt
      return (making.literals.foldl (·.push ·) making.output,
        { memory with
          counts := some counts
          distances := some distances
          repeats := some repeats
          latest := making.latest })

end FileQuery.Compression.Zstandard

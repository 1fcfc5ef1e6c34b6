import FileQuery.Bytes
import FileQuery.Compression.Flaw

/-!
# Streams of bits by their chances

Bits are read by their chances, and a stream of them has a header of its own.
-/

/-!
## Bits by their chances

A stream is read as a number between zero and one, written in bytes. Each bit of what it stands for
narrows the range that the number is in, by the chance that such a bit had before. Bits are told
apart by their contexts: what kind of bit it is, and what came before it. The chance in a context
follows the bits that were seen there.

What the bits stand for are symbols. A symbol is a byte, or a length with a distance: bytes are
repeated that stand that far back in the result. One of the last four distances can be named
again.
-/

namespace FileQuery.Compression.Lzma

/-- How a stream can fail. -/
inductive Flaw
  /-- The stream ends too early. -/
  | unfinished
  /-- A byte that is compared with one at a distance reaches back beyond the start. -/
  | farByte (distance : Nat)
  /-- A repetition reaches back beyond the start. -/
  | farRepetition (distance : Nat)
  deriving DecidableEq, Repr

/-- How many bits of the place in the result, and of the byte before, tell contexts apart. -/
structure Shape where
  /-- The number of bits of the byte before that count for a literal byte. -/
  literalBits : Nat
  /-- The number of bits of the place that count for a literal byte. -/
  literalPlaceBits : Nat
  /-- The number of bits of the place that count otherwise. -/
  placeBits : Nat
  deriving DecidableEq, Repr

/-- The shape that a byte tells, if it does. -/
def Shape.ofByte? (byte : Nat) : Option Shape :=
  if byte < 225 then some ⟨byte % 9, byte / 9 % 5, byte / 45⟩ else none

/-- A stream that is being read, and the result so far. -/
structure Decoder where
  input : List UInt8
  /-- The number of bytes that have been read. -/
  used : Nat
  /-- The width of the range. -/
  range : UInt32
  /-- How far above the start of the range the number is. -/
  code : UInt32
  shape : Shape
  /-- The chances of zeros in all contexts, of 2048. -/
  chances : Array UInt16
  /-- What the last symbols were. -/
  history : Nat
  /-- The last four distances, each less one, latest first. -/
  distances : List Nat
  output : Array UInt8
  /-- Where in the result repetitions can begin. -/
  start : Nat

/-- Readers of a stream. What was made of the stream before a flaw remains. -/
abbrev Reader := ExceptT Flaw (StateM Decoder)

/-- The number of contexts besides those of literal bytes. -/
def fixedContexts : Nat := 1860

/-- The number of contexts of literal bytes that only what came before tells apart. -/
def literalContexts : Nat := 0x300

/-- The chance of a bit of which nothing is known. -/
def evenChance : UInt16 := 1024

/-- The chances at the start. -/
def Shape.chances (shape : Shape) : Array UInt16 :=
  Array.replicate
    (fixedContexts + literalContexts * Nat.pow 2 (shape.literalBits + shape.literalPlaceBits))
    evenChance

/-- A decoder that knows nothing of what came before, but for the result. -/
def Decoder.forget (shape : Shape) (decoder : Decoder) : Decoder :=
  { decoder with
    shape := shape, chances := shape.chances, history := 0, distances := [0, 0, 0, 0] }

/-- The number of bytes in the result that repetitions can reach. -/
def Decoder.place (decoder : Decoder) : Nat := decoder.output.size - decoder.start

/-- The byte at a distance, which is one for the last byte, or zero before the start. -/
def Decoder.back (distance : Nat) (decoder : Decoder) : UInt8 :=
  if distance ≤ decoder.place then
    (decoder.output[decoder.output.size - distance]?).getD 0
  else 0

/-- Takes a byte of the stream. -/
def takeByte : Reader UInt8 := fun decoder =>
  match decoder.input with
  | [] => (.error .unfinished, decoder)
  | byte :: rest => (.ok byte, { decoder with input := rest, used := decoder.used + 1 })

/-- Begins with the widest range, with a number in so many bytes. -/
def beginRange : Nat → Reader Unit
  | 0 => pure ()
  | count + 1 => do
    let byte ← takeByte
    modify fun decoder =>
      { decoder with range := 0xFFFFFFFF, code := decoder.code <<< 8 ||| byte.toUInt32 }
    beginRange count

/-- Makes a narrow range wider by another byte. -/
def widen : Reader Unit := do
  if (← get).range < 0x1000000 then
    let byte ← takeByte
    modify fun decoder =>
      { decoder with
        range := decoder.range <<< 8, code := decoder.code <<< 8 ||| byte.toUInt32 }

/-- A decoder after a bit in a context, with the bit. -/
def Decoder.step (context : Nat) (decoder : Decoder) : Nat × Decoder :=
  let chance := (decoder.chances[context]?).getD evenChance
  let bound := (decoder.range >>> 11) * chance.toUInt32
  if decoder.code < bound then
    (0, { decoder with
      range := bound
      chances := decoder.chances.setIfInBounds context (chance + ((2048 - chance) >>> 5)) })
  else
    (1, { decoder with
      range := decoder.range - bound
      code := decoder.code - bound
      chances := decoder.chances.setIfInBounds context (chance - (chance >>> 5)) })

/-- Reads a bit in a context. -/
def bit (context : Nat) : Reader Nat := do
  widen
  fun decoder =>
    let (bit, next) := decoder.step context
    (.ok bit, next)

/-- Reads so many bits, highest first, after those of a number. The context of each, from a first
    one on, is told by the bits before it. -/
def treeAfter (first number : Nat) : Nat → Reader Nat
  | 0 => pure number
  | count + 1 => do treeAfter first (2 * number + (← bit (first + number))) count

/-- Reads so many bits, highest first. -/
def tree (first count : Nat) : Reader Nat :=
  return (← treeAfter first 1 count) - Nat.pow 2 count

/-- Reads so many bits, lowest first, after those of a number. -/
def reverseTreeAfter (first number : Nat) : Nat → Reader Nat
  | 0 => pure 0
  | count + 1 => do
    let next ← bit (first + number)
    return next + 2 * (← reverseTreeAfter first (2 * number + next) count)

/-- Reads so many bits, lowest first. -/
def reverseTree (first count : Nat) : Reader Nat := reverseTreeAfter first 1 count

/-- Reads so many bits with even chances, highest first, after those of a number. -/
def plainBits (number : Nat) : Nat → Reader Nat
  | 0 => pure number
  | count + 1 => do
    widen
    let next ← fun decoder =>
      let half := decoder.range >>> 1
      if half ≤ decoder.code then
        (.ok 1, { decoder with range := half, code := decoder.code - half })
      else (.ok 0, { decoder with range := half })
    plainBits (2 * number + next) count

/-- The first context of the bits that tell repetitions from bytes. -/
def repetitionContext : Nat := 0

/-- The first context of the bits that tell old distances from new ones. -/
def oldContext : Nat := 192

/-- The first context of the bits that tell the latest distance from the older ones. -/
def olderContext : Nat := 204

/-- The first context of the bits that tell the second distance from the older ones. -/
def thirdContext : Nat := 216

/-- The first context of the bits that tell the third distance from the fourth. -/
def fourthContext : Nat := 228

/-- The first context of the bits that tell a repetition of one byte from longer ones. -/
def longContext : Nat := 240

/-- The first context of the magnitudes of distances. -/
def magnitudeContext : Nat := 432

/-- The first context of the low bits of short distances. -/
def lowContext : Nat := 688

/-- The first context of the low bits of long distances. -/
def alignContext : Nat := 816

/-- The first context of lengths with new distances. -/
def newLengthContext : Nat := 832

/-- The first context of lengths with old distances. -/
def oldLengthContext : Nat := 1346

/-- Reads a length, less two, at a place. Short, middle and long lengths have contexts of their
    own. -/
def length (first place : Nat) : Reader Nat := do
  if (← bit first) = 0 then tree (first + 2 + 8 * place) 3
  else if (← bit (first + 1)) = 0 then return 8 + (← tree (first + 130 + 8 * place) 3)
  else return 16 + (← tree (first + 258) 8)

/-- Reads a new distance, less one, for a length. -/
def newDistance (length : Nat) : Reader Nat := do
  let magnitude ← tree (magnitudeContext + 64 * min length 3) 6
  if magnitude < 4 then return magnitude
  else
    let count := magnitude / 2 - 1
    let least := (2 + magnitude % 2) * Nat.pow 2 count
    if magnitude < 14 then
      return least + (← reverseTree (lowContext + least - magnitude) count)
    else
      let high ← plainBits 0 (count - 4)
      return least + 16 * high + (← reverseTree alignContext 4)

/-- Reads bits of a literal byte after those of a number, next to those of a byte that it is
    likely to differ from. Once a bit differs, the other byte does not matter. -/
def literalBeside (first number : Nat) : Nat → Nat → Reader Nat
  | 0, _ => pure number
  | count + 1, other => do
    let expected := other / 128 % 2
    let next ← bit (first + 0x100 * (expected + 1) + number)
    if next = expected then literalBeside first (2 * number + next) count (2 * other)
    else treeAfter first (2 * number + next) count

/-- Reads a literal byte. After a repetition, it differs from the byte that would have been
    repeated. -/
def literal : Reader UInt8 := do
  let decoder ← get
  let shape := decoder.shape
  let kind := decoder.place % Nat.pow 2 shape.literalPlaceBits * Nat.pow 2 shape.literalBits
    + (decoder.back 1).toNat / Nat.pow 2 (8 - shape.literalBits)
  let first := fixedContexts + literalContexts * kind
  if decoder.history < 7 then return UInt8.ofNat (← treeAfter first 1 8)
  else
    let distance := decoder.distances.headD 0 + 1
    if decoder.place < distance then throw (.farByte distance)
    else return UInt8.ofNat (← literalBeside first 1 8 (decoder.back distance).toNat)

/-- What a stream stands for. -/
inductive Symbol
  | literal (byte : UInt8)
  /-- Bytes of a length are repeated, at the latest distance. -/
  | repetition (length : Nat)
  | ending
  deriving DecidableEq, Repr

/-- The distance that stands for the end, less one. -/
def endDistance : Nat := 0xFFFFFFFF

/-- Remembers a kind of symbol, by what came before and whether that ended in a repetition. -/
def remember (afterLiteral afterRepetition : Nat) : Reader Unit :=
  modify fun decoder =>
    { decoder with history := if decoder.history < 7 then afterLiteral else afterRepetition }

/-- Brings one of the last distances to the front. -/
def reuse (index : Nat) : Reader Unit :=
  modify fun decoder =>
    { decoder with
      distances := decoder.distances.getD index 0 :: decoder.distances.eraseIdx index }

/-- Reads a symbol that repeats bytes at an old distance. -/
def oldRepetition (place : Nat) : Reader Symbol := do
  let history := (← get).history
  if (← bit (olderContext + history)) = 0 then
    if (← bit (longContext + 16 * history + place)) = 0 then
      remember 9 11
      return .repetition 1
  else if (← bit (thirdContext + history)) = 0 then reuse 1
  else if (← bit (fourthContext + history)) = 0 then reuse 2
  else reuse 3
  let length ← length oldLengthContext place
  remember 8 11
  return .repetition (length + 2)

/-- Reads a symbol that repeats bytes at a new distance. -/
def newRepetition (place : Nat) : Reader Symbol := do
  let length ← length newLengthContext place
  let distance ← newDistance length
  modify fun decoder =>
    { decoder with distances := distance :: decoder.distances.dropLast }
  remember 7 10
  return if distance = endDistance then .ending else .repetition (length + 2)

/-- Reads a symbol. -/
def symbol : Reader Symbol := do
  let decoder ← get
  let history := decoder.history
  let place := decoder.place % Nat.pow 2 decoder.shape.placeBits
  if (← bit (repetitionContext + 16 * history + place)) = 0 then
    let byte ← literal
    modify fun decoder =>
      { decoder with
        history := if history < 4 then 0 else if history < 10 then history - 3 else history - 6 }
    return .literal byte
  else if (← bit (oldContext + history)) = 1 then oldRepetition place
  else newRepetition place

/-- Adds a byte to the result. -/
def emit (byte : UInt8) : Reader Unit :=
  modify fun decoder => { decoder with output := decoder.output.push byte }

/-- Repeats bytes of the result one by one. -/
def repeatBytes (distance : Nat) : Nat → Reader Unit
  | 0 => pure ()
  | count + 1 => do
    emit ((← get).back distance)
    repeatBytes distance count

/-- The latest distance. -/
def latestDistance : Reader Nat := return (← get).distances.headD 0 + 1

end FileQuery.Compression.Lzma

/-!
## A stream of bits by their chances

A header tells the shape of contexts, the size of the window that repetitions can reach, and the
size of the result, unless it is unknown. What follows is read as long as there are whole symbols.
The result is handed on each time that it has filled the window.
-/

namespace FileQuery.Compression.Lzma

/-- The smallest size of a window. -/
def windowLeast : Nat := 0x1000

/-- The size that stands for an unknown one. -/
def unknownSize : Nat := 0xFFFFFFFFFFFFFFFF

/-- The number of bytes that always hold a whole symbol. -/
def symbolLimit : Nat := 20

/-- What a stream's header tells. -/
structure Header where
  shape : Shape
  /-- The size of the window. -/
  window : Nat
  /-- The size of the result, if it is known. -/
  size : Option Nat
  deriving DecidableEq, Repr

/-- The number of bytes of a header. -/
def headerSize : Nat := 13

/-- The header of a shape at the start of bytes. -/
def Header.read (shape : Shape) (bytes : List UInt8) : Header where
  shape := shape
  window := max windowLeast (Bytes.lowFirst ((bytes.drop 1).take 4))
  size :=
    let size := Bytes.lowFirst ((bytes.drop 5).take 8)
    if size = unknownSize then none else some size

/-- The flaw of a stream with a window of a size, after so many bytes of the result. A byte that is
    compared is looked for early, so near the end of the stream it is taken for missing. -/
def flawOf (window place left : Nat) : Flaw → Option CompressionFlaw
  | .unfinished => none
  | .farByte distance =>
    if left < symbolLimit then none
    else if window < distance then some (.lzmaFarByte distance .window window)
    else some (.lzmaFarByte distance .result place)
  | .farRepetition distance =>
    if window < distance then some (.lzmaFarRepetition distance .window window)
    else some (.lzmaFarRepetition distance .result place)

/-- Repeats bytes at the latest distance. -/
def repeatLatest (window length : Nat) : Reader Unit := do
  let distance ← latestDistance
  if (← get).place < distance ∨ window < distance then throw (.farRepetition distance)
  else repeatBytes distance length

/-- Reads symbols up to a size of the result, if it is known, and tells the flaw that ends them, if
    one does. -/
def symbols (header : Header) : Nat → Decoder → Option CompressionFlaw × Decoder
  | 0, decoder => (none, decoder)
  | fuel + 1, decoder =>
    if header.size.any (· ≤ decoder.output.size) then
      (if decoder.input.isEmpty then none else some .lzmaTrailing, decoder)
    else
      let whole : Reader Symbol := do
        let next ← symbol
        widen
        return next
      let failed (flaw : Flaw) := flawOf header.window decoder.place decoder.input.length flaw
      match whole decoder with
      | (.error flaw, _) => (failed flaw, decoder)
      | (.ok .ending, next) =>
        (if next.code = 0 && next.input.isEmpty then none else some .lzmaEnding, next)
      | (.ok (.literal byte), next) => symbols header fuel (emit byte next).2
      | (.ok (.repetition length), next) =>
        match repeatLatest header.window length next with
        | (.ok (), next) => symbols header fuel next
        | (.error flaw, next) => (failed flaw, next)

/-- A decoder with a shape before the first symbol. -/
def Decoder.first (shape : Shape) (input : List UInt8) : Decoder :=
  Decoder.forget shape
    { input := input, used := 0, range := 0, code := 0, shape := shape, chances := #[]
      history := 0, distances := [], output := #[], start := 0 }

end FileQuery.Compression.Lzma

namespace FileQuery.Compression

/-- The number of symbols that a byte of a stream can hold at most. -/
def symbolsOfByte : Nat := 256

/-- The bytes that a stream with a header stands for. A stream that ends too early is taken for
    complete. -/
def unlzma (bytes : List UInt8) : Decompressed :=
  match bytes with
  | [] => ([], none)
  | first :: _ =>
    match Lzma.Shape.ofByte? first.toNat with
    | none => ([], some (.lzmaShape first.toNat))
    | some shape =>
      let header := Lzma.Header.read shape bytes
      match Lzma.beginRange 5 (Lzma.Decoder.first shape (bytes.drop Lzma.headerSize)) with
      | (.error _, _) => ([], none)
      | (.ok (), decoder) =>
        let (flaw, final) := Lzma.symbols header (symbolsOfByte * bytes.length) decoder
        (wholePieces header.window final.output.toList, flaw)

end FileQuery.Compression

import FileQuery.Compression.Flaw

/-!
# Deflating and inflating

Deflated bytes are a stream of bits, lowest bit of each byte first. The stream is made of
blocks. A block holds bytes as they are, or symbols with code words of its own or fixed ones. A
symbol is a byte, the end of the block, or a length; a length is followed by a distance, and
together they repeat bytes that stand that far back in the result.

Code words are assigned canonically: shorter ones before longer ones, and those of one length in
the order of the symbols.

The format has dialects. They differ in how far back a repetition reaches, and in what they
refuse.
-/

namespace FileQuery.Compression

/-- How a stream can fail. -/
inductive StreamFlaw
  | blockType
  /-- The number of bytes of a block of plain bytes is not confirmed. -/
  | plainLength
  /-- There are too many literals. -/
  | literalCount
  /-- There are too many distances. -/
  | distanceCount
  /-- Lengths of code words are repeated too often, or before the first one. -/
  | repetition
  /-- The code of lengths of code words is none. -/
  | lengthCode
  /-- The code of literals is none. -/
  | literalCode
  /-- The code of distances is none. -/
  | distanceCode
  /-- Bits are no code word of a literal. -/
  | literal
  /-- Bits are no code word of a distance. -/
  | distance
  /-- A distance reaches back beyond the start. -/
  | farDistance
  /-- The stream ends too early. -/
  | unfinished
  deriving DecidableEq, Repr

/-- A stream of bits, and what has been made of it so far. -/
structure Inflation where
  bits : List Bool
  output : Array UInt8

namespace Inflation

/-- The bits of a byte, lowest first. -/
def bitsOf (byte : UInt8) : List Bool := (List.range 8).map fun place => byte.toNat.testBit place

/-- The number that bits denote, lowest first. -/
def number : List Bool → Nat
  | [] => 0
  | bit :: rest => bit.toNat + 2 * number rest

/-- Readers of a stream. What was made of the stream before a flaw remains. -/
abbrev Reader := ExceptT StreamFlaw (StateM Inflation)

/-- The first bits of a list and the rest, if there are so many. -/
def split? : Nat → List Bool → Option (List Bool × List Bool)
  | 0, bits => some ([], bits)
  | _ + 1, [] => none
  | count + 1, bit :: rest => (split? count rest).map fun (first, left) => (bit :: first, left)

/-- Takes a number of bits from the stream. -/
def takeBits (count : Nat) : Reader Nat := fun state =>
  match split? count state.bits with
  | some (first, left) => (.ok (number first), { state with bits := left })
  | none => (.error .unfinished, { state with bits := [] })

/-- Leaves the bits up to the next whole byte. -/
def align : Reader Unit := fun state =>
  (.ok (), { state with bits := state.bits.drop (state.bits.length % 8) })

/-- Adds a byte to the result. -/
def emit (byte : UInt8) : Reader Unit := fun state =>
  (.ok (), { state with output := state.output.push byte })

/-- The lengths of the code words of symbols: zero for a symbol without one. -/
abbrev Code := List Nat

/-- The longest length of a code word. -/
def longestWord : Nat := 15

/-- The symbols of a code with words of a length. -/
def Code.symbols (code : Code) (length : Nat) : List Nat :=
  code.zipIdx.filterMap fun (found, symbol) => if found = length then some symbol else none

/-- The number of symbols with code words. -/
def Code.used (code : Code) : Nat := code.countP (· ≠ 0)

/-- How many words of the longest length a code takes, where a shorter word takes all those that
    begin with it. -/
def Code.space (code : Code) : Nat :=
  code.foldl (fun total length =>
    total + if length = 0 then 0 else Nat.pow 2 (longestWord - length)) 0

/-- The number of words of the longest length. -/
def fullSpace : Nat := 0x8000

/-- The words of a code as they are read. -/
structure Words where
  /-- For each length from one on the symbols with words of that length. -/
  byLength : List (List Nat)
  /-- How many words of the longest length the code takes. -/
  space : Nat

/-- The words of a code. -/
def Code.words (code : Code) : Words :=
  ⟨(List.range longestWord).map fun length => code.symbols (length + 1), code.space⟩

/-- Reads a code word bit by bit. At each length, `word` is what has been read, `first` the first
    word of that length, and `unit` the number of the longest words that begin with a word of
    that length. -/
def symbolFrom (flaw : StreamFlaw) (space : Nat) : List (List Nat) → Nat → Nat → Nat → Reader Nat
  | [], _, _, _ => throw flaw
  | symbols :: longer, unit, word, first => do
    let bit ← takeBits 1
    let word := 2 * word + bit
    let first := 2 * first
    match symbols[word - first]? with
    | some symbol => return symbol
    | none =>
      if space ≤ word * unit then throw flaw
      else symbolFrom flaw space longer (unit / 2) word (first + symbols.length)

/-- Reads a symbol. -/
def symbol (flaw : StreamFlaw) (words : Words) : Reader Nat :=
  symbolFrom flaw words.space words.byLength (fullSpace / 2) 0 0

/-- The fixed code of bytes and lengths. -/
def fixedLiterals : Code :=
  List.replicate 144 8 ++ List.replicate 112 9 ++ List.replicate 24 7 ++ List.replicate 8 8

/-- The fixed code of distances. -/
def fixedDistances : Code := List.replicate 32 5

/-- The uses of codes. -/
inductive CodeUse
  | lengths | literals | distances
  deriving DecidableEq, Repr

/-- A dialect of the format. -/
structure Dialect where
  /-- The shortest length of each length symbol, and the number of bits that add to it. -/
  lengths : List (Nat × Nat)
  /-- The shortest distance of each distance symbol, and the number of bits that add to it. -/
  distances : List (Nat × Nat)
  /-- The largest number of literals in a code. -/
  literalLimit : Nat
  /-- The largest number of distances in a code. -/
  distanceLimit : Nat
  /-- Whether a code is accepted for a use. -/
  accepts : CodeUse → Code → Bool
  /-- Whether a distance may reach back beyond the start. Zeros are repeated from there. -/
  zerosBefore : Bool

/-- The lengths of symbols but for the last one. -/
def commonLengths : List (Nat × Nat) := [
  (3, 0), (4, 0), (5, 0), (6, 0), (7, 0), (8, 0), (9, 0), (10, 0), (11, 1), (13, 1), (15, 1),
  (17, 1), (19, 2), (23, 2), (27, 2), (31, 2), (35, 3), (43, 3), (51, 3), (59, 3), (67, 4),
  (83, 4), (99, 4), (115, 4), (131, 5), (163, 5), (195, 5), (227, 5)]

/-- The distances of symbols that all dialects have. -/
def commonDistances : List (Nat × Nat) := [
  (1, 0), (2, 0), (3, 0), (4, 0), (5, 1), (7, 1), (9, 2), (13, 2), (17, 3), (25, 3), (33, 4),
  (49, 4), (65, 5), (97, 5), (129, 6), (193, 6), (257, 7), (385, 7), (513, 8), (769, 8),
  (1025, 9), (1537, 9), (2049, 10), (3073, 10), (4097, 11), (6145, 11), (8193, 12), (12289, 12),
  (16385, 13), (24577, 13)]

/-- The dialect of archives. A code may leave words unused only if it has one symbol at most, and
    the code of lengths may not at all. -/
def Dialect.common : Dialect where
  lengths := commonLengths ++ [(258, 0)]
  distances := commonDistances
  literalLimit := 286
  distanceLimit := 30
  accepts use code := code.space == fullSpace || (use != .lengths && code.used ≤ 1)
  zerosBefore := true

/-- The dialect that reaches back twice as far. A code may leave any words unused. -/
def Dialect.far : Dialect where
  lengths := commonLengths ++ [(3, 16)]
  distances := commonDistances ++ [(32769, 14), (49153, 14)]
  literalLimit := 288
  distanceLimit := 32
  accepts _ code := code.space ≤ fullSpace
  zerosBefore := true

/-- The dialect of pictures. Only the code of distances may leave words unused: it may have no
    symbol, or one with a word of a single bit. -/
def Dialect.strict : Dialect where
  lengths := commonLengths ++ [(258, 0)]
  distances := commonDistances
  literalLimit := 286
  distanceLimit := 30
  accepts use code :=
    code.space == fullSpace ||
      (use == .distances && (code.used == 0 || code.used == 1 && code.contains 1))
  zerosBefore := false

/-- Reads the value of a symbol from a table and the bits that add to it. -/
def extended (flaw : StreamFlaw) (table : List (Nat × Nat)) (index : Nat) : Reader Nat := do
  match table[index]? with
  | some (least, bits) => return least + (← takeBits bits)
  | none => throw flaw

/-- Repeats bytes of the result one by one. -/
def repeatBytes (dialect : Dialect) (distance : Nat) : Nat → Reader Unit
  | 0 => pure ()
  | count + 1 => do
    let output := (← get).output
    if distance ≤ output.size then emit ((output[output.size - distance]?).getD 0)
    else if dialect.zerosBefore then emit 0
    else throw .farDistance
    repeatBytes dialect distance count

/-- Reads symbols up to the end of a block. Each takes a bit at least, so no more are read than
    there are bits. -/
def symbols (dialect : Dialect) (literals distances : Words) : Nat → Reader Unit
  | 0 => throw .unfinished
  | fuel + 1 => do
    let found ← symbol .literal literals
    if found < 256 then
      emit (UInt8.ofNat found)
      symbols dialect literals distances fuel
    else if found = 256 then pure ()
    else
      let length ← extended .literal dialect.lengths (found - 257)
      let distance ← extended .distance dialect.distances (← symbol .distance distances)
      repeatBytes dialect distance length
      symbols dialect literals distances fuel

/-- Reads bytes that stand in the stream as they are. -/
def plainBytes : Nat → Reader Unit
  | 0 => pure ()
  | count + 1 => do
    emit (UInt8.ofNat (← takeBits 8))
    plainBytes count

/-- Reads a block of bytes as they are. Their number is written twice, the second time
    inverted. -/
def plainBlock : Reader Unit := do
  align
  let count ← takeBits 16
  let inverted ← takeBits 16
  if count + inverted ≠ 0xFFFF then throw .plainLength
  plainBytes count

/-- The order in which the lengths of the code of lengths are written. -/
def lengthOrder : List Nat := [16, 17, 18, 0, 8, 7, 9, 6, 10, 5, 11, 4, 12, 3, 13, 2, 14, 1, 15]

/-- Reads a number of values of three bits. -/
def triples : Nat → Reader (List Nat)
  | 0 => pure []
  | count + 1 => do
    let first ← takeBits 3
    return first :: (← triples count)

/-- Reads code word lengths until there are as many as needed. They are collected last first. -/
def lengths (words : Words) (needed : Nat) : Nat → List Nat → Reader (List Nat)
  | 0, _ => throw .repetition
  | fuel + 1, found =>
    if needed ≤ found.length then
      if found.length = needed then pure found.reverse else throw .repetition
    else do
      let next ← symbol .lengthCode words
      if next < 16 then lengths words needed fuel (next :: found)
      else if next = 16 then
        match found with
        | last :: _ =>
          let count := 3 + (← takeBits 2)
          lengths words needed fuel (List.replicate count last ++ found)
        | [] => throw .repetition
      else if next = 17 then
        let count := 3 + (← takeBits 3)
        lengths words needed fuel (List.replicate count 0 ++ found)
      else
        let count := 11 + (← takeBits 7)
        lengths words needed fuel (List.replicate count 0 ++ found)

/-- Reads the codes that a block brings with it. -/
def ownCodes (dialect : Dialect) : Reader (Code × Code) := do
  let literalCount := 257 + (← takeBits 5)
  let distanceCount := 1 + (← takeBits 5)
  let lengthCount := 4 + (← takeBits 4)
  if dialect.literalLimit < literalCount then throw .literalCount
  if dialect.distanceLimit < distanceCount then throw .distanceCount
  let written ← triples lengthCount
  let lengthCode := (List.range 19).map fun symbol =>
    ((lengthOrder.zip written).lookup symbol).getD 0
  if !dialect.accepts .lengths lengthCode then throw .lengthCode
  let needed := literalCount + distanceCount
  let found ← lengths (Code.words lengthCode) needed (needed + 1) []
  let literals := found.take literalCount
  let distances := found.drop literalCount
  if !dialect.accepts .literals literals then throw .literalCode
  if !dialect.accepts .distances distances then throw .distanceCode
  return (literals, distances)

/-- Reads blocks up to the last one. Each takes three bits at least. -/
def blocks (dialect : Dialect) : Nat → Reader Unit
  | 0 => throw .unfinished
  | fuel + 1 => do
    let last ← takeBits 1
    let kind ← takeBits 2
    let size := (← get).bits.length
    if kind = 0 then plainBlock
    else if kind = 1 then
      symbols dialect (Code.words fixedLiterals) (Code.words fixedDistances) (size + 1)
    else if kind = 2 then
      let (literals, distances) ← ownCodes dialect
      symbols dialect (Code.words literals) (Code.words distances) (size + 1)
    else throw .blockType
    if last = 1 then pure () else blocks dialect fuel

end Inflation

/-- What is made of deflated bytes: the bytes that they stand for, the flaw that ends them, if one
    does, and the bits that are left. -/
def inflateWith (dialect : Inflation.Dialect) (bytes : List UInt8) :
    List UInt8 × Option StreamFlaw × List Bool :=
  let bits := bytes.flatMap Inflation.bitsOf
  match (Inflation.blocks dialect (bits.length + 1)).run ⟨bits, #[]⟩ with
  | (.ok (), final) => (final.output.toList, none, final.bits)
  | (.error flaw, final) => (final.output.toList, some flaw, final.bits)

/-- The number of bytes that are kept at hand to be repeated. -/
def windowSize : Nat := 0x8000

/-- The bytes that deflated bytes stand for. When the stream has no meaning, what was made since
    the window was last full is lost. -/
def inflate (bytes : List UInt8) : Decompressed :=
  match inflateWith .common bytes with
  | (output, none, _) => (output, none)
  | (output, some .unfinished, _) => (output, some .deflateIncomplete)
  | (output, some _, _) => (wholePieces windowSize output, some .deflateCorrupt)

/-- The bytes that bytes in the dialect with the far distances stand for. A stream that ends too
    early is taken for complete. -/
def inflateFar (bytes : List UInt8) : Decompressed :=
  match inflateWith .far bytes with
  | (output, none, _) | (output, some .unfinished, _) => (output, none)
  | (output, some _, _) => (wholePieces pieceSize output, some .deflate64Corrupt)

/-!
## Compressing bytes

Bytes are compressed as a single block in the fixed code, byte by byte. No repetitions are
searched for, so what comes out is about as large as what goes in.
-/

namespace Inflation

/-- A number in so many bits, highest first. -/
def wordBits : Nat → Nat → List Bool
  | 0, _ => []
  | count + 1, word => word.testBit count :: wordBits count word

/-- The code word of a byte in the fixed code. The words of the first 144 bytes have eight bits,
    and those of the others have nine. -/
def fixedWord (byte : UInt8) : List Bool :=
  if byte.toNat < 144 then wordBits 8 (0x30 + byte.toNat)
  else wordBits 9 (0x190 + (byte.toNat - 144))

/-- The bits before a block that is the last one and in the fixed code. -/
def fixedBlockStart : List Bool := [true, true, false]

/-- The code word of the end of a block in the fixed code. -/
def fixedBlockEnd : List Bool := List.replicate 7 false

/-- Bits as bytes, lowest bit first. The last byte is filled up. -/
def packBits : List Bool → List UInt8
  | [] => []
  | b0 :: b1 :: b2 :: b3 :: b4 :: b5 :: b6 :: b7 :: rest =>
    UInt8.ofNat (number [b0, b1, b2, b3, b4, b5, b6, b7]) :: packBits rest
  | few => [UInt8.ofNat (number few)]

end Inflation

/-- Bytes in compressed form. -/
def deflate (bytes : List UInt8) : List UInt8 :=
  Inflation.packBits
    (Inflation.fixedBlockStart ++ bytes.flatMap Inflation.fixedWord ++ Inflation.fixedBlockEnd)

end FileQuery.Compression

import FileQuery.Compression.Checksum
import FileQuery.Compression.Flaw

/-!
# Block-sorted bytes

A stream of bits, highest bit of each byte first, is made of blocks. Bytes become a block in these
steps: repetitions of a byte are shortened, the bytes are sorted by what follows them, each byte
is replaced by how recently it was seen, repetitions of the latest byte are counted, and what
comes of it is written in code words. Several codes take turns, fifty symbols each. Each block has
a checksum, and so have all blocks together.
-/

namespace FileQuery.Compression.Bzip

/-- A stream of bits, and what has been made of it so far. -/
structure Stream where
  bits : List Bool
  output : Array UInt8

/-- Readers of a stream. What was made of the stream before a flaw remains. -/
abbrev Reader := ExceptT CompressionFlaw (StateM Stream)

/-- The bits of a byte, highest first. -/
def bitsOf (byte : UInt8) : List Bool := ((List.range 8).map byte.toNat.testBit).reverse

/-- Takes a bit. -/
def takeBit : Reader Bool := fun stream =>
  match stream.bits with
  | [] => (.error .bzipIncomplete, stream)
  | bit :: rest => (.ok bit, { stream with bits := rest })

/-- Takes a number of so many bits, highest first, after a number that has been taken. -/
def takeAfter (number : Nat) : Nat → Reader Nat
  | 0 => pure number
  | count + 1 => do takeAfter (2 * number + (← takeBit).toNat) count

/-- Takes a number of so many bits, highest first. -/
def take (count : Nat) : Reader Nat := takeAfter 0 count

/-- Adds bytes to the result. -/
def emit (bytes : List UInt8) : Reader Unit := fun stream =>
  (.ok (), { stream with output := stream.output ++ bytes })

/-- Refuses a stream unless a rule is kept. -/
def require (kept : Bool) (flaw : CompressionFlaw) : Reader Unit :=
  if kept then pure () else throw flaw

/-- Takes bytes that have to be there. -/
def expect (flaw : CompressionFlaw) : List Nat → Reader Unit
  | [] => pure ()
  | byte :: rest => do
    require ((← take 8) == byte) flaw
    expect flaw rest

/-- Does the same a number of times. -/
def times {α : Type} (action : Reader α) : Nat → Reader (List α)
  | 0 => pure []
  | count + 1 => do
    let first ← action
    return first :: (← times action count)

/-- The longest length of a code word. -/
def longestWord : Nat := 20

/-- For each length from one on the symbols with code words of that length, in the order of the
    words. -/
abbrev Words := List (Array Nat)

/-- The code words for lengths of the words of symbols. -/
def words (lengths : List Nat) : Words :=
  (List.range longestWord).map fun length =>
    (lengths.zipIdx.filterMap fun (found, symbol) =>
      if found = length + 1 then some symbol else none).toArray

/-- Reads a symbol bit by bit. At each length, `word` is what has been read and `first` the first
    word of that length. -/
def symbolFrom : Words → Nat → Nat → Reader Nat
  | [], _, _ => throw .bzipCorrupt
  | symbols :: longer, word, first => do
    let word := 2 * word + (← takeBit).toNat
    let first := 2 * first
    match symbols[word - first]? with
    | some symbol => return symbol
    | none => symbolFrom longer word (first + symbols.size)

/-- Reads a symbol. -/
def symbol (words : Words) : Reader Nat := symbolFrom words 0 0

/-- Reads how many bits are set before one that is not, fewer than a limit. -/
def unary : Nat → Reader Nat
  | 0 => throw .bzipCorrupt
  | limit + 1 => do
    if ← takeBit then return (← unary limit) + 1 else return 0

/-- Reads the length of the next code word, which differs from the last one by steps. Each step
    takes a bit. -/
def nextLength : Nat → Nat → Reader Nat
  | 0, _ => throw .bzipIncomplete
  | fuel + 1, length => do
    require (1 ≤ length && length ≤ longestWord) .bzipCorrupt
    if ← takeBit then
      if ← takeBit then nextLength fuel (length - 1) else nextLength fuel (length + 1)
    else return length

/-- Reads lengths of code words after a length. -/
def lengthsAfter : Nat → Nat → Reader (List Nat)
  | 0, _ => pure []
  | count + 1, last => do
    let length ← nextLength ((← get).bits.length + 1) last
    return length :: (← lengthsAfter count length)

/-- Reads a code for a number of symbols. -/
def code (count : Nat) : Reader Words := do
  return words (← lengthsAfter count (← take 5))

/-- The element with an index, and the list with that element in front. -/
def toFront {α : Type} (index : Nat) (list : List α) : Option (α × List α) :=
  list[index]?.map fun element => (element, element :: list.eraseIdx index)

/-- The elements that indices name, where each element that is named comes to the front. -/
def fromIndices {α : Type} : List Nat → List α → List α
  | [], _ => []
  | index :: rest, list =>
    match toFront index list with
    | some (element, moved) => element :: fromIndices rest moved
    | none => []

/-- The number of symbols that a code is used for at a turn. -/
def turnLength : Nat := 50

/-- The largest number of turns that are kept. -/
def turnLimit : Nat := 18002

/-- The codes that are to be used, and the number of symbols that are left to the first. -/
structure Turns where
  codes : List Words
  left : Nat

/-- Reads a symbol in the code whose turn it is. -/
def nextSymbol (turns : Turns) : Reader (Nat × Turns) :=
  match turns.codes, turns.left with
  | [], _ => throw .bzipCorrupt
  | _ :: rest, 0 => do
    match rest with
    | [] => throw .bzipCorrupt
    | next :: _ => return (← symbol next, ⟨rest, turnLength - 1⟩)
  | words :: rest, left + 1 => return (← symbol words, ⟨words :: rest, left⟩)

/-- The largest weight of a symbol that counts repetitions. -/
def weightLimit : Nat := 0x200000

/-- Reads the symbols of a block as bytes. A first or a second symbol counts repetitions of the
    latest byte, in digits one and two, lowest first: `pending` is the count so far, and `weight`
    that of the next digit, or one at the start. The last symbol ends the block. There are no more
    symbols than bits. -/
def blockBytes (last limit : Nat) :
    Nat → Turns → List UInt8 → Nat → Nat → Array UInt8 → Reader (Array UInt8)
  | 0, _, _, _, _, _ => throw .bzipIncomplete
  | fuel + 1, turns, recent, pending, weight, bytes => do
    let (next, turns) ← nextSymbol turns
    if next < 2 then
      require (weight < weightLimit) .bzipCorrupt
      blockBytes last limit fuel turns recent (pending + (next + 1) * weight) (2 * weight) bytes
    else
      require (bytes.size + pending ≤ limit) .bzipCorrupt
      let bytes := bytes ++ Array.replicate pending (recent.headD 0)
      if next = last then return bytes
      else
        require (bytes.size < limit) .bzipCorrupt
        match toFront (next - 1) recent with
        | some (byte, recent) => blockBytes last limit fuel turns recent 0 1 (bytes.push byte)
        | none => throw .bzipCorrupt

/-- The places of bytes in the order of the bytes, and of their places where they are equal. -/
def sortedPlaces (bytes : Array UInt8) : Array Nat :=
  let places := (bytes.toList.zipIdx).foldl
    (fun (places : Array (Array Nat)) (byte, place) =>
      places.modify byte.toNat fun found => found.push place)
    (Array.replicate 256 #[])
  places.foldl (· ++ ·) #[]

/-- As many bytes as are asked for, each at the place that the sorting has put in the place of the
    one before. -/
def follow (bytes : Array UInt8) (places : Array Nat) : Nat → Nat → List UInt8 → List UInt8
  | 0, _, found => found.reverse
  | count + 1, place, found =>
    let next := (places[place]?).getD 0
    follow bytes places count next ((bytes[next]?).getD 0 :: found)

/-- Bytes in the order that they had before they were sorted by what follows them. The place of
    the first one is given. -/
def unsort (bytes : Array UInt8) (first : Nat) : List UInt8 :=
  follow bytes (sortedPlaces bytes) bytes.size first []

/-- Bytes with repetitions in full, and whether they are complete: after four equal bytes, another
    one counts how often the byte is repeated. -/
def repeated : List UInt8 → List UInt8 → List UInt8 × Bool
  | a :: b :: c :: d :: rest, found =>
    if a = b && b = c && c = d then
      match rest with
      | count :: rest => repeated rest (List.replicate (count.toNat + 4) a ++ found)
      | [] => (found.reverse, false)
    else repeated (b :: c :: d :: rest) (a :: found)
  | few, found => (found.reverse ++ few, true)

/-- Reads which bytes are in use: of sixteen ranges, and of sixteen bytes in each of those in
    use. -/
def usedBytes : Reader (List UInt8) := do
  let ranges ← times takeBit 16
  let used ← ranges.mapM fun used => if used then times takeBit 16 else pure []
  let found := (ranges.zip used).zipIdx.flatMap fun ((_, bits), range) =>
    bits.zipIdx.filterMap fun (bit, place) =>
      if bit then some (UInt8.ofNat (16 * range + place)) else none
  return found

/-- Reads a block of at most so many bytes, and tells its checksum. -/
def block (limit : Nat) : Reader Nat := do
  let checksum ← take 32
  let _ ← takeBit
  let first ← take 24
  require (first ≤ limit + 10) .bzipCorrupt
  let used ← usedBytes
  require (!used.isEmpty) .bzipCorrupt
  let codeCount ← take 3
  require (2 ≤ codeCount && codeCount ≤ 6) .bzipCorrupt
  let turnCount ← take 15
  require (1 ≤ turnCount) .bzipCorrupt
  let indices ← times (unary codeCount) turnCount
  let codes ← times (code (used.length + 2)) codeCount
  let turns := (fromIndices indices codes).take turnLimit
  let size := (← get).bits.length
  let bytes ← blockBytes (used.length + 1) limit (size + 1) ⟨[] :: turns, 0⟩ used 0 1 #[]
  require (first < bytes.size) .bzipCorrupt
  let (output, complete) := repeated (unsort bytes first) []
  emit output
  require complete .bzipCorrupt
  require (forwardChecksum output == checksum) .bzipCorrupt
  return checksum

/-- The checksum of blocks together with another one: turned by a bit, and the other's added. -/
def together (combined checksum : Nat) : Nat :=
  (combined * 2 % 0x100000000 + combined / 0x80000000).xor checksum

/-- Reads blocks of at most so many bytes up to the end of the stream. Each begins with more than
    one bit. -/
def blocks (limit : Nat) : Nat → Nat → Reader Unit
  | 0, _ => throw .bzipIncomplete
  | fuel + 1, combined => do
    let mark ← take 8
    if mark = 0x17 then
      expect .bzipCorrupt [0x72, 0x45, 0x38, 0x50, 0x90]
      require ((← take 32) == combined) .bzipCorrupt
    else
      require (mark == 0x31) .bzipCorrupt
      expect .bzipCorrupt [0x41, 0x59, 0x26, 0x53, 0x59]
      let checksum ← block limit
      blocks limit fuel (together combined checksum)

/-- Reads a stream. A digit tells the size of its blocks. -/
def stream : Reader Unit := do
  expect .bzipHeader [0x42, 0x5A, 0x68]
  let digit ← take 8
  require (0x31 ≤ digit && digit ≤ 0x39) .bzipHeader
  blocks (100000 * (digit - 0x30)) (← get).bits.length 0

end FileQuery.Compression.Bzip

namespace FileQuery.Compression

/-- The bytes that block-sorted bytes stand for. When a stream has no meaning, what was made since
    the last whole piece is lost. -/
def bunzip (bytes : List UInt8) : Decompressed :=
  match Bzip.stream.run ⟨bytes.flatMap Bzip.bitsOf, #[]⟩ with
  | (.ok (), final) => (final.output.toList, none)
  | (.error .bzipIncomplete, final) => (final.output.toList, some .bzipIncomplete)
  | (.error flaw, final) => (wholePieces pieceSize final.output.toList, some flaw)

end FileQuery.Compression

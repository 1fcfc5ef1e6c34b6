import FileQuery.Bytes
import FileQuery.Compression.Checksum
import FileQuery.Compression.Lzma

/-!
# Streams of blocks

A stream has a header, blocks, an index of the blocks, and a footer. A block has a header, chunks,
and a checksum of the bytes that it stands for. A chunk holds bytes as they are, or bits by their
chances. Numbers are written lowest byte first, most of them in as many bytes as they need, with
seven bits in each.
-/

namespace FileQuery.Compression.Xz

/-- Readers of a stream. What was made of the stream before a flaw remains. -/
abbrev Reader := ExceptT CompressionFlaw (StateM Lzma.Decoder)

/-- Refuses a stream unless a rule is kept. -/
def require (kept : Bool) (flaw : CompressionFlaw) : Reader Unit :=
  if kept then pure () else throw flaw

/-- Reads bits by their chances. -/
def coded {α : Type} (reader : Lzma.Reader α) : Reader α := fun decoder =>
  match reader decoder with
  | (.ok value, next) => (.ok value, next)
  | (.error .unfinished, next) => (.error .xzIncomplete, next)
  | (.error (.farByte _), next) | (.error (.farRepetition _), next) => (.error .xzCorrupt, next)

/-- Takes a byte. -/
def takeByte : Reader UInt8 := coded Lzma.takeByte

/-- Takes a number of bytes. -/
def take : Nat → Reader (List UInt8)
  | 0 => pure []
  | count + 1 => do
    let first ← takeByte
    return first :: (← take count)

/-- The largest number of bytes of a number that is written in as many as it needs. -/
def numberLimit : Nat := 9

/-- The number at the start of bytes, after digits of a weight, and what is left. A number has no
    more bytes than it needs. -/
def numberFrom? (weight value : Nat) : Nat → List UInt8 → Option (Nat × List UInt8)
  | 0, _ | _, [] => none
  | fuel + 1, byte :: rest =>
    let value := value + weight * (byte.toNat % 128)
    if 128 ≤ byte.toNat then numberFrom? (weight * 128) value fuel rest
    else if byte = 0 && weight ≠ 1 then none
    else some (value, rest)

/-- The number at the start of bytes, and what is left. -/
def number? (bytes : List UInt8) : Option (Nat × List UInt8) := numberFrom? 1 0 numberLimit bytes

/-- Takes a number after digits of a weight. -/
def takeNumberFrom (weight value : Nat) : Nat → Reader Nat
  | 0 => throw .xzCorrupt
  | fuel + 1 => do
    let byte ← takeByte
    let value := value + weight * (byte.toNat % 128)
    if 128 ≤ byte.toNat then takeNumberFrom (weight * 128) value fuel
    else
      require (byte ≠ 0 || weight = 1) .xzCorrupt
      return value

/-- Takes a number. -/
def takeNumber : Reader Nat := takeNumberFrom 1 0 numberLimit

/-- The bytes at the start of a stream. -/
def magic : List UInt8 := [0xFD, 0x37, 0x7A, 0x58, 0x5A, 0]

/-- The bytes at the end of a stream. -/
def finalMagic : List UInt8 := [0x59, 0x5A]

/-- The kind of checksum that flags tell. -/
def checkOf (flags : List UInt8) : Reader Nat :=
  match flags with
  | [0, kind] => do
    require (kind.toNat < 16) .xzOptions
    return kind.toNat
  | _ => throw .xzOptions

/-- Reads the header of a stream, and tells the kind of checksum. -/
def header : Reader Nat := do
  let found ← take 6
  let flags ← take 2
  let checksum ← take 4
  require (found == magic) .xzHeader
  require (Bytes.lowFirst checksum == Compression.checksum flags) .xzCorrupt
  checkOf flags

/-- The size of a checksum of a kind. -/
def checkSize (kind : Nat) : Nat :=
  [0, 4, 4, 4, 8, 8, 8, 16, 16, 16, 32, 32, 32, 64, 64, 64].getD kind 0

/-- Whether a checksum of a kind fits bytes. Those of other kinds are not looked at. -/
def fits (kind : Nat) (checksum bytes : List UInt8) : Bool :=
  if kind = 1 then Bytes.lowFirst checksum == Compression.checksum bytes
  else if kind = 4 then Bytes.lowFirst checksum == longChecksum bytes
  else true

/-- The sizes that the header of a block tells, if it does. -/
structure BlockHeader where
  /-- The number of bytes of the chunks. -/
  stored : Option Nat
  /-- The number of bytes that they stand for. -/
  size : Option Nat
  deriving DecidableEq, Repr

/-- The number at the start of bytes, if it is told that there is one. -/
def optional (present : Bool) (bytes : List UInt8) :
    Except CompressionFlaw (Option Nat × List UInt8) :=
  if present then
    match number? bytes with
    | some (value, rest) => .ok (some value, rest)
    | none => .error .xzCorrupt
  else .ok (none, bytes)

/-- The kind of filter that makes chunks. -/
def chunkFilter : Nat := 0x21

/-- The largest number that tells the size of the window. -/
def windowLimit : Nat := 40

/-- Reads the filter at the start of bytes, and tells what is left. Only the one that makes chunks
    is known. -/
def filter (bytes : List UInt8) : Except CompressionFlaw (List UInt8) :=
  match number? bytes with
  | none => .error .xzCorrupt
  | some (kind, rest) =>
    match number? rest with
    | none => .error .xzCorrupt
    | some (size, rest) =>
      if rest.length < size then .error .xzCorrupt
      else
        match kind == chunkFilter, size, rest with
        | true, 1, window :: rest =>
          if window.toNat ≤ windowLimit then .ok rest else .error .xzOptions
        | _, _, _ => .error .xzOptions

/-- The header of a block, from its bytes without the checksum. -/
def BlockHeader.ofBytes (bytes : List UInt8) : Except CompressionFlaw BlockHeader :=
  match bytes with
  | _ :: flags :: rest => do
    let flags := flags.toNat
    if flags / 4 % 16 ≠ 0 then throw .xzOptions
    let (stored, rest) ← optional (flags.testBit 6) rest
    if stored == some 0 then throw .xzCorrupt
    let (size, rest) ← optional (flags.testBit 7) rest
    if flags % 4 ≠ 0 then throw .xzOptions
    let padding ← filter rest
    if padding.any (· ≠ 0) then throw .xzOptions
    return ⟨stored, size⟩
  | _ => .error .xzCorrupt

/-- Reads symbols up to a size of the result. Each makes a byte at least. -/
def symbols (final : Nat) : Nat → Reader Unit
  | 0 => pure ()
  | fuel + 1 => do
    let left := final - (← get).output.size
    if left = 0 then pure ()
    else
      match ← coded Lzma.symbol with
      | .literal byte => coded (Lzma.emit byte)
      | .ending => throw .xzCorrupt
      | .repetition length =>
        let distance ← coded Lzma.latestDistance
        require (distance ≤ (← get).place) .xzCorrupt
        coded (Lzma.repeatBytes distance (min length left))
        require (length ≤ left) .xzCorrupt
      symbols final fuel

/-- Reads bits by their chances that stand for a number of bytes. -/
def bits (size : Nat) : Reader Unit := do
  require ((← takeByte) == 0) .xzCorrupt
  coded (Lzma.beginRange 4)
  symbols ((← get).output.size + size) size
  coded Lzma.widen
  require ((← get).code == 0) .xzCorrupt

/-- Reads a chunk of bits by their chances, of so many bytes, that stand for so many. -/
def codedChunk (size stored : Nat) : Reader Unit := do
  let before := (← get).used
  let result ← fun decoder =>
    let (result, next) := bits size decoder
    (.ok result, next)
  let used := (← get).used - before
  require (used ≤ stored) .xzCorrupt
  match result with
  | .ok () => require (used == stored) .xzCorrupt
  | .error flaw => throw flaw

/-- Copies a number of bytes. -/
def copy : Nat → Reader Unit
  | 0 => pure ()
  | count + 1 => do
    coded (Lzma.emit (← takeByte))
    copy count

/-- Reads chunks. The first byte of each tells its kind: it ends the chunks, or starts the result
    anew, or has a shape of its own. It tells as well whether what came before is forgotten. The
    first chunk starts the result anew, and the first one of bits has a shape of its own. Each
    chunk takes a byte at least. -/
def chunks : Nat → Bool → Bool → Reader Unit
  | 0, _, _ => throw .xzIncomplete
  | fuel + 1, started, shaped => do
    let kind := (← takeByte).toNat
    if kind = 0 then return
    let starts := kind == 1 || 0xE0 ≤ kind
    require (starts || started) .xzCorrupt
    if starts then modify fun decoder => { decoder with start := decoder.output.size }
    let shaped := shaped && !starts
    if kind < 0x80 then
      require (kind ≤ 2) .xzCorrupt
      copy (Bytes.highFirst (← take 2) + 1)
      chunks fuel true shaped
    else
      require (shaped || 0xC0 ≤ kind) .xzCorrupt
      let size := kind % 32 * 0x10000 + Bytes.highFirst (← take 2) + 1
      let stored := Bytes.highFirst (← take 2) + 1
      if 0xC0 ≤ kind then
        match Lzma.Shape.ofByte? (← takeByte).toNat with
        | some shape =>
          require (shape.literalBits + shape.literalPlaceBits ≤ 4) .xzCorrupt
          modify (Lzma.Decoder.forget shape)
        | none => throw .xzCorrupt
      else if 0xA0 ≤ kind then modify fun decoder => decoder.forget decoder.shape
      codedChunk size stored
      chunks fuel true true

/-- Takes zeros up to a multiple of four bytes after a number of bytes. -/
def padding (count : Nat) : Reader Unit := do
  let zeros ← take ((4 - count % 4) % 4)
  require (zeros.all (· == 0)) .xzCorrupt

/-- What the index tells of a block. -/
structure BlockSize where
  /-- The number of bytes of the block, without those that fill it up. -/
  stored : Nat
  /-- The number of bytes that the block stands for. -/
  size : Nat
  deriving DecidableEq, Repr

/-- Reads a block with a kind of checksum, after the first byte, which tells the size of the
    header. -/
def block (kind : Nat) (first : UInt8) : Reader BlockSize := do
  let headerSize := 4 * (first.toNat + 1)
  let rest ← take (headerSize - 5)
  let checksum ← take 4
  require (Bytes.lowFirst checksum == Compression.checksum (first :: rest)) .xzCorrupt
  match BlockHeader.ofBytes (first :: rest) with
  | .error flaw => throw flaw
  | .ok header =>
    let before ← get
    chunks (before.input.length + 1) false false
    let after ← get
    let stored := after.used - before.used
    let output := (after.output.extract before.output.size after.output.size).toList
    require (header.stored.all (· == stored) && header.size.all (· == output.length)) .xzCorrupt
    padding stored
    let check ← take (checkSize kind)
    require (fits kind check output) .xzCorrupt
    return ⟨headerSize + stored + checkSize kind, output.length⟩

/-- Reads what the index tells of a number of blocks. -/
def blockSizes : Nat → Reader (List BlockSize)
  | 0 => pure []
  | count + 1 => do
    let stored ← takeNumber
    let size ← takeNumber
    return ⟨stored, size⟩ :: (← blockSizes count)

/-- Reads the index of blocks, after the first byte, and tells how many bytes it has. -/
def index (blocks : List BlockSize) : Reader Nat := do
  let before ← get
  let count ← takeNumber
  require (count == blocks.length) .xzCorrupt
  let found ← blockSizes count
  padding ((← get).used - before.used + 1)
  require (found == blocks) .xzCorrupt
  let size := (← get).used - before.used
  let checksum ← take 4
  require (Bytes.lowFirst checksum == Compression.checksum (0 :: before.input.take size)) .xzCorrupt
  return size + 1 + 4

/-- Reads the footer of a stream with a kind of checksum and an index of a size. -/
def footer (kind indexSize : Nat) : Reader Unit := do
  let checksum ← take 4
  let size ← take 4
  let flags ← take 2
  let found ← take 2
  require (found == finalMagic) .xzCorrupt
  require (Bytes.lowFirst checksum == Compression.checksum (size ++ flags)) .xzCorrupt
  let check ← checkOf flags
  require (4 * (Bytes.lowFirst size + 1) == indexSize && check == kind) .xzCorrupt

/-- Reads blocks, last first, up to the index, and tells how many bytes that has. Each block takes
    a byte at least. -/
def blocks (kind : Nat) : Nat → List BlockSize → Reader Nat
  | 0, _ => throw .xzIncomplete
  | fuel + 1, found => do
    let first ← takeByte
    if first = 0 then index found.reverse
    else
      let next ← block kind first
      blocks kind fuel (next :: found)

/-- Reads a stream. -/
def stream : Reader Unit := do
  let kind ← header
  let size ← blocks kind ((← get).input.length + 1) []
  footer kind size

/-- A decoder at the start of a stream. -/
def start (input : List UInt8) : Lzma.Decoder where
  input := input
  used := 0
  range := 0
  code := 0
  shape := ⟨0, 0, 0⟩
  chances := #[]
  history := 0
  distances := []
  output := #[]
  start := 0

end FileQuery.Compression.Xz

namespace FileQuery.Compression

/-- The bytes that a stream of blocks stands for. When a stream has no meaning, what was made since
    the last whole piece is lost. No bytes may follow the stream. -/
def unxz (bytes : List UInt8) : Decompressed :=
  match Xz.stream.run (Xz.start bytes) with
  | (.ok (), final) =>
    (final.output.toList, if final.input.isEmpty then none else some .xzTrailing)
  | (.error .xzIncomplete, final) => (final.output.toList, some .xzIncomplete)
  | (.error flaw, final) => (wholePieces pieceSize final.output.toList, some flaw)

end FileQuery.Compression

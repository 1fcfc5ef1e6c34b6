import FileQuery.Media.Picture.Reading
import FileQuery.Media.Picture.WebP.Lossless
import FileQuery.Media.Picture.WebP.Lossy

/-!
# Pictures of the web

A picture is a container of chunks. The first chunk after the mark holds lossy pixels, or lossless
ones, or tells which chunks follow. Of an animation the first frame is read. Of lossy pixels only
the head is looked at, which may be followed by their alpha values.
-/

namespace FileQuery.Picture.WebP

/-- Why bytes are no picture of this format. -/
inductive Reason
  | chunk (name : List UInt8)
  | mark (found : List UInt8)
  | lossyMark (found : List UInt8)
  | losslessMark (found : Nat)
  | version (number : Nat)
  | sides
  | tooLarge
  | missingChunk
  | chunkSize
  /-- A frame is a change of another one. -/
  | changeFrame
  | colors (number : Nat)
  /-- A frame is not within the picture. -/
  | outside
  | preparation
  | compression
  | pixels (flaw : Lossless.Flaw)
  deriving DecidableEq, Repr

/-- A flaw of lossless pixels in words. -/
def flawWords : Lossless.Flaw → String
  | .corrupt => "Corrupt bitstream"
  | .code => "Invalid Huffman code"
  | .transform => "Invalid transform"
  | .cacheBits bits => "Invalid color cache bits: " ++ toString bits

/-- A reason in words. -/
def Reason.words : Reason → String
  | chunk name => "Invalid Chunk header: " ++ listed name
  | mark found => "Invalid WebP signature: " ++ listed found
  | lossyMark found => "Invalid VP8 magic: " ++ listed found
  | losslessMark found => "Invalid lossless signature: " ++ hexadecimal 1 found
  | version number => "Invalid lossless version number: " ++ toString number
  | sides => "Inconsistent image sizes"
  | tooLarge => "Image too large"
  | missingChunk => "An expected chunk was missing"
  | chunkSize => "Invalid chunk size"
  | changeFrame => "Unsupported feature: Non-keyframe frames"
  | colors number => "Invalid VP8 color space: " ++ toString number
  | outside => "Frame outside image"
  | preparation => "Invalid alpha preprocessing"
  | compression => "Invalid compression method"
  | pixels flaw => flawWords flaw

/-- Readers of pictures of this format. -/
abbrev Reader := Reading Reason

/-- The number of bytes of a pixel. -/
def pixelSize (hasAlpha : Bool) : Nat := if hasAlpha then 4 else 3

/-- Where the data of a chunk is. -/
structure Chunk where
  name : List UInt8
  start : Nat
  size : Nat
  deriving DecidableEq, Repr

/-- Takes the head of a chunk. -/
def takeChunk : Reader Chunk := do
  let name ← take 4
  let size ← takeLow 4
  return ⟨name, ← position, size⟩

/-- The size of the data of a chunk with the byte that makes it even. -/
def Chunk.room (chunk : Chunk) : Nat := chunk.size + chunk.size % 2

/-- The names of chunks. -/
def lossyName : List UInt8 := mark "VP8 "
def losslessName : List UInt8 := mark "VP8L"
def extendedName : List UInt8 := mark "VP8X"
def animationName : List UInt8 := mark "ANIM"
def frameName : List UInt8 := mark "ANMF"
def alphaName : List UInt8 := mark "ALPH"

/-- The sides that two numbers of fourteen bits tell. -/
def sidesOf (bits : Nat) : Nat × Nat := (bits % 0x4000, bits / 0x10000 % 0x4000)

/-- The mark of lossy pixels. -/
def lossyMark : List UInt8 := [0x9D, 0x01, 0x2A]

/-- The header of lossy pixels: the size of the first part of the data, and the sides. -/
structure LossyHeader where
  size : Nat
  sides : Nat × Nat
  deriving DecidableEq, Repr

/-- Takes the header of lossy pixels. -/
def takeLossyHeader : Reader LossyHeader := do
  let tag ← takeLow 3
  require (tag % 2 == 0) .changeFrame
  let found ← take 3
  require (found == lossyMark) (.lossyMark found)
  return ⟨tag / 32, sidesOf (← takeLow 4)⟩

/-- Reads from the first part of lossy pixels. -/
def fromFirstPart {Result : Type} (reader : Lossy.Reader Result) (stream : Lossy.Stream) :
    Reader (Result × Lossy.Stream) :=
  match reader stream with
  | (.ok result, next) => return (result, next)
  | (.error .corrupt, _) => refuse (.pixels .corrupt)
  | (.error (.colors number), _) => refuse (.colors number)

/-- Takes the sizes of a number of parts. -/
def takeSizes : Nat → Reader (List Nat)
  | 0 => return []
  | count + 1 => do
    let size ← takeLow 3
    return size :: (← takeSizes count)

/-- Reads lossy pixels in bytes of a picture with sides. The last of their parts takes the rest. -/
def readLossy (sides : Nat × Nat) : Reader Unit := do
  let header ← takeLossyHeader
  let data ← take header.size
  let (parts, stream) ← fromFirstPart Lossy.takeParts (.ofBytes data)
  for size in ← takeSizes (parts - 1) do discard <| take size
  discard <| fromFirstPart Lossy.takeRest stream
  require (header.sides == sides) .sides

/-- The mark of lossless pixels. -/
def losslessMark : Nat := 0x2F

/-- Takes the header of lossless pixels, which tells the sides, and whether pixels have an alpha
    value. -/
def takeLosslessHeader : Reader ((Nat × Nat) × Bool) := do
  let found ← takeByte
  require (found == losslessMark) (.losslessMark found)
  let bits ← takeLow 4
  let version := bits / 0x20000000
  require (version == 0) (.version version)
  return (((1 + bits) % 0x4000, (1 + bits / 0x4000) % 0x4000), bits.testBit 28)

/-- Reads lossless pixels of a picture with sides after their header. -/
def readBareLossless (sides : Nat × Nat) : Reader Unit := do
  match Lossless.flaw? sides.1 sides.2 (← get).rest with
  | none => pure ()
  | some flaw => refuse (.pixels flaw)

/-- Takes a number of bytes of the header of lossless pixels, lowest first. -/
def takeLosslessNumber (width : Nat) : Reader Nat :=
  return Bytes.lowFirst (← takeOr (fun _ => .malformed (.pixels .corrupt)) width)

/-- Reads lossless pixels in bytes of a picture with sides. -/
def readLossless (sides : Nat × Nat) : Reader Unit := do
  let found ← takeLosslessNumber 1
  require (found == losslessMark) (.losslessMark found)
  let bits ← takeLosslessNumber 4
  require ((bits % 0x4000 + 1, bits / 0x4000 % 0x4000 + 1) == sides) .sides
  let version := bits / 0x20000000
  require (version == 0) (.version version)
  readBareLossless sides

/-- Reads alpha values in bytes of a picture with sides. Flags tell how the values were prepared,
    predicted and compressed. -/
def readAlpha (sides : Nat × Nat) : Reader Unit := do
  let flags ← takeByte
  require (flags / 16 % 4 ≤ 1) .preparation
  match flags % 4 with
  | 0 => discard <| take (sides.1 * sides.2)
  | 1 => readBareLossless sides
  | _ => refuse .compression

/-- Reads from the data of a chunk. -/
def within (chunk : Chunk) (reader : Reader Unit) : Reader Unit := fun cursor =>
  let data := (cursor.whole.drop chunk.start).take chunk.size
  ((reader ⟨data, data⟩).1, cursor)

/-- What the chunk of an extended picture tells. -/
structure Extension where
  animated : Bool
  hasCamera : Bool
  hasNotes : Bool
  hasAlpha : Bool
  sides : Nat × Nat
  deriving DecidableEq, Repr

/-- The largest number of pixels. -/
def mostPixels : Nat := 0xFFFFFFFF

/-- Takes what the chunk of an extended picture tells. -/
def takeExtension : Reader Extension := do
  let flags ← takeByte
  discard <| take 3
  let width := 1 + (← takeLow 3)
  let height := 1 + (← takeLow 3)
  require (width * height ≤ mostPixels) .tooLarge
  return ⟨flags.testBit 1, flags.testBit 3, flags.testBit 2, flags.testBit 4, (width, height)⟩

/-- Takes the heads of chunks up to a position or the end. Of a frame the pixels are looked at as
    long as no frame has lossy ones. Each chunk takes some bytes. -/
def takeChunks (ending : Nat) : Nat → Bool → Reader (List Chunk)
  | 0, _ => return []
  | fuel + 1, lossy => do
    if ending ≤ (← position) ∨ (← left) < 8 then return []
    let chunk ← takeChunk
    let lossy ← if chunk.name = frameName then do
        require (24 ≤ chunk.size) .chunkSize
        discard <| take 16
        if lossy then pure true
        else do
          let inner ← takeChunk
          pure (inner.name == lossyName || inner.name == alphaName)
      else pure lossy
    goTo (chunk.start + chunk.room)
    return chunk :: (← takeChunks ending fuel lossy)

/-- Takes the settings of an animation. -/
def takeAnimation (chunk : Chunk) : Reader Unit := do
  require (chunk.size ≤ 6) .chunkSize
  goTo chunk.start
  discard <| take chunk.size
  if chunk.size < 6 then throw (.file .truncated)

/-- The longest side of a frame. -/
def longestSide : Nat := 16384

/-- The smallest size of a frame. -/
def smallestFrame : Nat := 32

/-- The number of bytes of a frame before its chunks, together with the head of a chunk. -/
def frameHead : Nat := 24

/-- The number of bytes of the head of a chunk. -/
def chunkHead : Nat := 8

/-- Reads a frame of a picture with sides. -/
def readFrame (frame : Chunk) (sides : Nat × Nat) : Reader Unit := do
  require (smallestFrame ≤ frame.size) (.chunk frameName)
  goTo frame.start
  let column := 2 * (← takeLow 3)
  let row := 2 * (← takeLow 3)
  let width := 1 + (← takeLow 3)
  let height := 1 + (← takeLow 3)
  require (width ≤ longestSide && height ≤ longestSide) .tooLarge
  require (column + width ≤ sides.1 && row + height ≤ sides.2) .outside
  discard <| take 4
  let first ← takeChunk
  require (first.room + frameHead ≤ frame.size) (.chunk first.name)
  let own := (width, height)
  if first.name = lossyName then within first (readLossy own)
  else if first.name = losslessName then within first (readLossless own)
  else if first.name = alphaName then
    require (first.room + frameHead + chunkHead ≤ frame.size) (.chunk first.name)
    within first (readAlpha own)
    goTo (first.start + first.room)
    let next ← takeChunk
    require (first.size + next.size + frameHead + chunkHead ≤ frame.size) (.chunk next.name)
    within next (readLossy own)
  else refuse (.chunk first.name)

/-- Reads an extended picture. -/
def readExtended (first : Chunk) (size : Nat) : Reader Unit := do
  let extension ← takeExtension
  let start := first.start + first.room
  goTo start
  let chunks ← takeChunks (start + (size - 12)) ((← left) + 1) false
  let find (name : List UInt8) : Option Chunk := chunks.find? (·.name == name)
  let has (name : List UInt8) : Bool := (find name).isSome
  require (!(extension.animated && !(has animationName && has frameName))
    && !(extension.hasCamera && !has (mark "EXIF"))
    && !(extension.hasNotes && !has (mark "XMP "))
    && !(!extension.animated && has lossyName == has losslessName)) .missingChunk
  let (width, height) := extension.sides
  if extension.animated then
    match find animationName with
    | some chunk => takeAnimation chunk
    | none => refuse .missingChunk
  reserve (width * height * pixelSize extension.hasAlpha)
  if extension.animated then
    match find frameName with
    | some frame => readFrame frame extension.sides
    | none => refuse .missingChunk
  else
    match find losslessName, find lossyName with
    | some chunk, _ => within chunk (readLossless extension.sides)
    | none, some chunk =>
      within chunk (readLossy extension.sides)
      if extension.hasAlpha then
        match find alphaName with
        | some alpha => within alpha (readAlpha extension.sides)
        | none => refuse .missingChunk
    | none, none => refuse .missingChunk

/-- Reads a picture. -/
def read : Reader Unit := do
  let container ← takeChunk
  require (container.name == mark "RIFF") (.chunk (mark "RIFF"))
  let found ← take 4
  require (found == mark "WEBP") (.mark found)
  let first ← takeChunk
  if first.name = lossyName then
    let header ← takeLossyHeader
    require (header.sides.1 ≠ 0 && header.sides.2 ≠ 0) .sides
    reserve (header.sides.1 * header.sides.2 * pixelSize false)
    within first (readLossy header.sides)
  else if first.name = losslessName then
    let (sides, hasAlpha) ← takeLosslessHeader
    reserve (sides.1 * sides.2 * pixelSize hasAlpha)
    within first (readLossless sides)
  else if first.name = extendedName then readExtended first container.size
  else refuse (.chunk first.name)

end FileQuery.Picture.WebP

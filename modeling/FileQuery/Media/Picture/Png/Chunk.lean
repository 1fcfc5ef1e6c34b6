import FileQuery.Compression.Deflate
import FileQuery.Media.Picture.Reading
import FileQuery.Text.Literal

/-!
# Chunks of a network picture

After a mark of eight bytes come chunks. A chunk has a length, a name of four letters, its data and
a checksum of name and data. The case of each letter tells something of the chunk: whether a reader
has to know it, whether it is private, and whether it may be kept in a changed picture.
-/

namespace FileQuery.Picture.Png

/-- The name of a chunk. -/
structure ChunkName where
  letters : List UInt8
  deriving DecidableEq, Repr

namespace ChunkName

/-- The name with the letters of a text. -/
def named (text : String) : ChunkName := ⟨mark text⟩

/-- The name of the header. -/
def header : ChunkName := named "IHDR"

/-- The name of the palette. -/
def palette : ChunkName := named "PLTE"

/-- The name of what is transparent. -/
def transparency : ChunkName := named "tRNS"

/-- The name of pixels. -/
def pixels : ChunkName := named "IDAT"

/-- The name of what controls a frame of an animation. -/
def frameControl : ChunkName := named "fcTL"

/-- The name of the pixels of a frame of an animation. -/
def framePixels : ChunkName := named "fdAT"

/-- The name of the end. -/
def ending : ChunkName := named "IEND"

/-- Whether a letter is a small one. -/
def isSmall (name : ChunkName) (place : Nat) : Bool :=
  ((name.letters[place]?).getD 0).toNat.testBit 5

/-- Whether a reader has to know the chunk. -/
def isCritical (name : ChunkName) : Bool := !name.isSmall 0

/-- A letter in the description of a name. -/
def describedLetter (letter : UInt8) : List Char :=
  let c := Char.ofNat letter.toNat
  if c = '\'' then ['\\', '\''] else Text.literalCharacter c

/-- The description of a name. -/
def described (name : ChunkName) : String :=
  "ChunkType \x7b type: " ++ String.ofList (name.letters.flatMap describedLetter)
    ++ ", critical: " ++ toString name.isCritical
    ++ ", private: " ++ toString (name.isSmall 1)
    ++ ", reserved: " ++ toString (name.isSmall 2)
    ++ ", safecopy: " ++ toString (name.isSmall 3) ++ " \x7d"

end ChunkName

/-- The kinds of colors, by their numbers. -/
inductive ColorKind
  | gray
  | rgb
  | indexed
  | grayAlpha
  | rgbAlpha
  deriving DecidableEq, Repr

namespace ColorKind

/-- The kind of a number. -/
def ofNumber? : Nat → Option ColorKind
  | 0 => some gray
  | 2 => some rgb
  | 3 => some indexed
  | 4 => some grayAlpha
  | 6 => some rgbAlpha
  | _ => none

/-- The name of a kind. -/
def name : ColorKind → String
  | gray => "Grayscale"
  | rgb => "Rgb"
  | indexed => "Indexed"
  | grayAlpha => "GrayscaleAlpha"
  | rgbAlpha => "Rgba"

/-- The number of samples of a pixel. -/
def samples : ColorKind → Nat
  | gray | indexed => 1
  | grayAlpha => 2
  | rgb => 3
  | rgbAlpha => 4

/-- The numbers of bits that a sample can have. -/
def depths : ColorKind → List Nat
  | gray => [1, 2, 4, 8, 16]
  | indexed => [1, 2, 4, 8]
  | rgb | grayAlpha | rgbAlpha => [8, 16]

end ColorKind

/-- The name of a number of bits of a sample. -/
def depthName : Nat → Option String
  | 1 => some "One"
  | 2 => some "Two"
  | 4 => some "Four"
  | 8 => some "Eight"
  | 16 => some "Sixteen"
  | _ => none

/-- Why bytes are no picture of this format. -/
inductive Reason
  /-- The mark at the start is missing. -/
  | mark
  /-- The checksum of a chunk is not that of its bytes. -/
  | checksum (found computed : Nat) (name : ChunkName)
  /-- A chunk comes before the header. -/
  | beforeHeader (name : ChunkName)
  /-- A chunk comes a second time. -/
  | duplicate (name : ChunkName)
  /-- A chunk has not the length of its kind. -/
  | length (name : ChunkName)
  /-- A chunk is not known, but has to be. -/
  | unknown (name : ChunkName)
  /-- Pixels start where they may not. -/
  | restart (name : ChunkName)
  | sides
  | depth (bits : Nat)
  | combination (kind : ColorKind) (depth : String)
  | color (number : Nat)
  | compression (number : Nat)
  | filter (number : Nat)
  | interlace (number : Nat)
  /-- A frame of an animation is out of order. -/
  | order (expected found : Nat)
  | disposal (number : Nat)
  | blend (number : Nat)
  /-- A frame of an animation is outside of the picture. -/
  | frame
  | noPixels
  | fewPixels
  | noPalette
  /-- The header of the compressed pixels is none. -/
  | streamHeader
  /-- The compressed pixels are corrupt. -/
  | stream (flaw : Compression.StreamFlaw)
  deriving DecidableEq, Repr

namespace Reason

/-- The name of a flaw of compressed pixels. -/
def streamName : Compression.StreamFlaw → String
  | .blockType => "InvalidBlockType"
  | .plainLength => "InvalidUncompressedBlockLength"
  | .literalCount => "InvalidHlit"
  | .distanceCount => "InvalidHdist"
  | .repetition => "InvalidCodeLengthRepeat"
  | .lengthCode => "BadCodeLengthHuffmanTree"
  | .literalCode => "BadLiteralLengthHuffmanTree"
  | .distanceCode => "BadDistanceHuffmanTree"
  | .literal => "InvalidLiteralLengthCode"
  | .distance => "InvalidDistanceCode"
  | .farDistance => "DistanceTooFarBack"
  | .unfinished => "InsufficientInput"

/-- The description of corrupt compressed pixels. -/
def corrupt (name : String) : String := "Corrupt deflate stream. " ++ name

/-- A reason in words. -/
def words : Reason → String
  | mark => "Invalid PNG signature."
  | checksum found computed name =>
    "CRC error: expected 0x" ++ hexadecimal 1 found ++ " have 0x" ++ hexadecimal 1 computed
      ++ " while decoding " ++ name.described ++ " chunk."
  | beforeHeader name => name.described ++ " chunk appeared before IHDR chunk"
  | duplicate name => "Chunk " ++ name.described ++ " is duplicated."
  | length name => "Chunk length wrong: " ++ name.described
  | unknown name => "Unrecognized critical chunk: " ++ name.described
  | restart name => "Unexpected restart of " ++ name.described ++ " chunk sequence"
  | sides => "Invalid image dimensions"
  | depth bits => "Invalid bit depth " ++ toString bits ++ "."
  | combination kind named =>
    "Invalid color/depth combination in header: " ++ kind.name ++ "/" ++ named
  | color number => "Invalid color type " ++ toString number ++ "."
  | compression number => "Unknown compression method " ++ toString number ++ "."
  | filter number => "Unknown filter method " ++ toString number ++ "."
  | interlace number => "Unknown interlace method " ++ toString number ++ "."
  | order expected found =>
    "Sequence is not in order, expected #" ++ toString expected ++ " got #" ++ toString found ++ "."
  | disposal number => "Invalid dispose op: " ++ toString number
  | blend number => "Invalid blend op: " ++ toString number
  | frame => "Sub frame is out-of-bounds."
  | noPixels => "IDAT or fdAT chunk is missing."
  | fewPixels => "IDAT or fDAT chunk does not have enough data for image."
  | noPalette => "Missing palette of indexed image."
  | streamHeader => corrupt "BadZlibHeader"
  | stream flaw => corrupt (streamName flaw)

end Reason

/-- Readers of pictures of this format. -/
abbrev Reader := Reading Reason

/-- Takes a number of bytes. -/
def taken (count : Nat) : Reader (List UInt8) := takeOr (fun _ => .file .endOfFile) count

/-- Takes a number of four bytes. -/
def takenNumber : Reader Nat := return Bytes.highFirst (← taken 4)

/-- The number at an offset of the data of a chunk. -/
def number (data : List UInt8) (offset width : Nat) : Nat :=
  Bytes.highFirst ((data.drop offset).take width)

end FileQuery.Picture.Png

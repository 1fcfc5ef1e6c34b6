import FileQuery.Media.Picture.Reading

/-!
# Simple pictures

Three formats of pictures of which little is looked at: two with a short header and without blocks,
and one whose pixels are left alone.
-/

/-!
## Plain pictures of sixteen bits

A picture is a mark, two sides, and four values of sixteen bits for each pixel.
-/

namespace FileQuery.Picture.Farbfeld

/-- Why bytes are no picture of this format. -/
inductive Reason
  | ended
  | mark (found : List UInt8)
  deriving DecidableEq, Repr

/-- A reason in words. -/
def Reason.words : Reason → String
  | ended => FileError.truncated.words
  | mark found =>
    "Invalid magic: [" ++ String.intercalate ", " (found.map fun byte => hexadecimal 2 byte.toNat)
      ++ "]"

/-- Readers of pictures of this format. -/
abbrev Reader := Reading Reason

/-- Takes a number of bytes of the header. -/
def taken (count : Nat) : Reader (List UInt8) := takeOr (fun _ => .malformed .ended) count

/-- The number of bytes of a pixel. -/
def pixelSize : Nat := 8

/-- Reads a picture. -/
def read : Reader Unit := do
  let found ← taken 8
  require (found == mark "farbfeld") (.mark found)
  let width := Bytes.highFirst (← taken 4)
  let height := Bytes.highFirst (← taken 4)
  requireCountable width height pixelSize
  reserve (width * height * pixelSize)
  if (← left) < width * height * pixelSize then throw (.file .truncated)

end FileQuery.Picture.Farbfeld

/-!
## Pictures of small steps

A picture has a header, and operations that each stand for a pixel or for a run of them: a pixel
that has been seen, a small step from the last one, or a new one. At the end there is padding.
-/

namespace FileQuery.Picture.QuiteOk

/-- The mark at the start. -/
def startMark : List UInt8 := mark "qoif"

/-- The padding at the end. -/
def padding : List UInt8 := [0, 0, 0, 0, 0, 0, 0, 1]

/-- Why bytes are no picture of this format. -/
inductive Reason
  | ended
  | channels (count : Nat)
  | colors (kind : Nat)
  | mark (found : List UInt8)
  | sides (width height : Nat)
  | padding
  deriving DecidableEq, Repr

/-- A reason in words. -/
def Reason.words : Reason → String
  | ended => "i/o error: " ++ FileError.truncated.words
  | channels count => "invalid number of channels: " ++ toString count
  | colors kind => "invalid color space: " ++ toString kind ++ " (expected 0 or 1)"
  | mark found =>
    "invalid magic: expected " ++ toString (Bytes.highFirst startMark) ++ ", got "
      ++ listedDecimal found
  | sides width height =>
    "invalid image dimensions: " ++ toString width ++ "x" ++ toString height
  | padding => "invalid padding (stream end marker mismatch)"

/-- Readers of pictures of this format. -/
abbrev Reader := Reading Reason

/-- Takes a number of bytes. -/
def taken (count : Nat) : Reader (List UInt8) := takeOr (fun _ => .malformed .ended) count

/-- Takes a byte as a number. -/
def takenByte : Reader Nat := return Bytes.highFirst (← taken 1)

/-- The largest number of pixels. -/
def mostPixels : Nat := 400000000

/-- Takes the operation of a byte, and tells for how many pixels it stands. -/
def operation (channels byte : Nat) : Reader Nat :=
  if byte = 0xFF then do
    if channels = 4 then discard <| taken 4
    return 1
  else if byte = 0xFE then do
    discard <| taken 3
    return 1
  else if 0xC0 ≤ byte then return byte % 64 + 1
  else if 0x80 ≤ byte then do
    discard <| taken 1
    return 1
  else return 1

/-- Reads operations for a number of pixels. Each takes a byte at least. -/
def readPixels (channels : Nat) : Nat → Nat → Reader Unit
  | 0, _ => refuse .ended
  | fuel + 1, pixels => do
    if pixels = 0 then return
    let count ← operation channels (← takenByte)
    readPixels channels fuel (pixels - count)

/-- Reads a picture. -/
def read : Reader Unit := do
  let found ← taken 4
  let width := Bytes.highFirst (← taken 4)
  let height := Bytes.highFirst (← taken 4)
  let rest ← taken 2
  let channels := Bytes.highFirst (rest.take 1)
  let colors := Bytes.highFirst (rest.drop 1)
  require (channels == 3 || channels == 4) (.channels channels)
  require (colors ≤ 1) (.colors colors)
  require (found == startMark) (.mark found)
  require (width ≠ 0 && height ≠ 0 && width * height ≤ mostPixels) (.sides width height)
  reserve (width * height * channels)
  readPixels channels ((← left) + 1) (width * height)
  require ((← taken padding.length) == padding) .padding

end FileQuery.Picture.QuiteOk

/-!
## Pictures of many channels

A picture begins with a mark, a version and flags. Then come attributes, each with a name, a kind
and a size, up to one without a name. Only the attributes are looked at.
-/

namespace FileQuery.Picture.OpenExr

/-- Why bytes are no picture of this format. -/
inductive Reason
  | ended
  | mark
  | newFlags
  | flags
  deriving DecidableEq, Repr

/-- A reason in words. -/
def Reason.words : Reason → String
  | ended => "invalid: reference to missing bytes"
  | mark => "invalid: file identifier missing"
  | newFlags => "not supported: too new file feature flags"
  | flags => "invalid: file feature flags"

/-- Readers of pictures of this format. -/
abbrev Reader := Reading Reason

/-- Takes a number of bytes. -/
def taken (count : Nat) : Reader (List UInt8) := takeOr (fun _ => .malformed .ended) count

/-- Takes a text up to a zero. There are fewer bytes than in all. -/
def takeText : Nat → Reader (List UInt8)
  | 0 => refuse .ended
  | fuel + 1 => do
    match ← taken 1 with
    | [0] => return []
    | byte => return byte ++ (← takeText fuel)

/-- Reads attributes. Each takes some bytes. -/
def readAttributes : Nat → Reader Unit
  | 0 => refuse .ended
  | fuel + 1 => do
    let size := (← left) + 1
    if (← takeText size).isEmpty then return
    discard <| takeText size
    let length ← taken 4
    discard <| taken (Bytes.lowFirst length)
    readAttributes fuel

/-- The mark at the start. -/
def startMark : List UInt8 := [0x76, 0x2F, 0x31, 0x01]

/-- Whether pictures of a version can have flags for tiles, deep pixels and several parts. -/
def isVersion (version : Nat) (tiled deep parts : Bool) : Bool :=
  if deep then version == 2 && !tiled
  else if parts then version == 2 && !tiled
  else version == 1 || version == 2

/-- Reads a picture. -/
def read : Reader Unit := do
  require ((← taken 4) == startMark) .mark
  let flags := Bytes.lowFirst (← taken 4)
  require (flags < 0x2000) .newFlags
  readAttributes ((← left) + 1)
  require (isVersion (flags % 16) (flags.testBit 9) (flags.testBit 11) (flags.testBit 12)) .flags

end FileQuery.Picture.OpenExr

import FileQuery.Media.Picture.Bitmap
import FileQuery.Media.Picture.Png

/-!
# Icons

An icon holds pictures of several sizes, each a network picture or a bitmap. The one with the most
bits of a pixel is read, and of those the largest one. Below the pixels of a bitmap there may be a
mask.
-/

namespace FileQuery.Picture.Icon

/-- Why bytes are no icon. -/
inductive Reason
  | empty
  | planes
  | bits
  | shortEntry
  | noAlpha
  | size
  /-- A picture of a format has not the sides that are told. -/
  | sides (format : String) (told found : Nat × Nat)
  deriving DecidableEq, Repr

/-- The sides of a picture in words. -/
def sidesText (sides : Nat × Nat) : String :=
  "(" ++ toString sides.1 ++ ", " ++ toString sides.2 ++ ")"

/-- A reason in words. -/
def Reason.words : Reason → String
  | empty => "ICO directory contains no image"
  | planes => "ICO image entry has too many color planes or too large hotspot value"
  | bits => "ICO image entry has too many bits per pixel or too large hotspot value"
  | shortEntry => "Entry specified a length that is shorter than PNG header!"
  | noAlpha => "The PNG is not in RGBA format!"
  | size => "ICO image data size did not match expected size"
  | sides format told found =>
    "Entry" ++ sidesText told ++ " and " ++ format ++ sidesText found ++ " dimensions do not match!"

/-- Readers of icons. -/
abbrev Reader := Reading Reason

/-- What is told of a picture in an icon. -/
structure Entry where
  width : Nat
  height : Nat
  bits : Nat
  length : Nat
  start : Nat
  deriving DecidableEq, Repr

namespace Entry

/-- The longest side, which is written as zero. -/
def longest : Nat := 256

/-- The largest number of planes and of bits. -/
def most : Nat := 256

/-- The side that a byte tells. -/
def side (byte : Nat) : Nat := if byte = 0 then longest else byte

/-- Takes an entry. -/
def taken : Reader Entry := do
  let width ← takeByte
  let height ← takeByte
  discard <| take 2
  require ((← takeLow 2) ≤ most) .planes
  let bits ← takeLow 2
  require (bits ≤ most) .bits
  let length ← takeLow 4
  let start ← takeLow 4
  return ⟨side width, side height, bits, length, start⟩

/-- Takes a number of entries. -/
def takenAll : Nat → Reader (List Entry)
  | 0 => return []
  | count + 1 => do
    let first ← taken
    return first :: (← takenAll count)

/-- The number of pixels. -/
def area (entry : Entry) : Nat := entry.width * entry.height

/-- Whether an entry is preferred to another one. -/
def isBetter (entry other : Entry) : Bool :=
  other.bits < entry.bits || entry.bits == other.bits && other.area < entry.area

/-- The best of the entries: the last one, unless an earlier one is preferred to it. -/
def best? (entries : List Entry) : Option Entry :=
  entries.getLast?.map fun last =>
    entries.dropLast.foldl (fun best entry => if entry.isBetter best then entry else best) last

/-- Refuses a picture that has not the sides that are told. A side that is longer than one that can
    be told counts as the longest. -/
def requireSides (entry : Entry) (format : String) (width height : Nat) : Reader Unit :=
  require (entry.width == min width longest && entry.height == min height longest)
    (.sides format (entry.width, entry.height) (width, height))

end Entry

/-- The number of bytes that tell the format of a picture. -/
def markSize : Nat := 8

/-- Takes the entry of the picture that is read, and tells whether it is a network picture. -/
def takeEntry : Reader (Entry × Bool) := do
  discard <| take 4
  let entries ← Entry.takenAll (← takeLow 2)
  let some entry := Entry.best? entries | refuse .empty
  goTo entry.start
  let found ← take markSize
  goTo entry.start
  return (entry, found == Png.startMark.1 ++ Png.startMark.2)

/-- Reads the mask below the pixels of a bitmap. -/
def readMask (entry : Entry) (header : Bitmap.Header) : Reader Unit := do
  let reached ← position
  let ending := entry.start + entry.length
  let size := (header.width + 31) / 32 * 4 * header.height
  if reached + size ≤ ending then
    if (← left) < size then throw (.file .truncated)
  else require (ending == reached) .size

/-- Checks an icon. -/
def check : Check Unit := do
  let own {Result : Type} (reader : Reader Result) : Check Result := reader.named "Ico" Reason.words
  let (entry, isPng) ← own takeEntry
  if isPng then
    let opened ← (Png.takeOpened (some (entry.width, entry.height))).named "Png" Png.Reason.words
    own (reserve opened.memory)
    own (require (markSize ≤ entry.length) .shortEntry)
    own (entry.requireSides "PNG" opened.header.width opened.header.height)
    own (require opened.isPlain .noAlpha)
    opened.readPixels.named "Png" Png.Reason.words
  else
    let header ← (Bitmap.takeHeader true).named "Bmp" Bitmap.Reason.words
    own (reserve header.memory)
    own (entry.requireSides "BMP" header.width header.height)
    (Bitmap.readPixels header).named "Bmp" Bitmap.Reason.words
    own (readMask entry header)

end FileQuery.Picture.Icon

import FileQuery.Media.Picture.Reading

/-!
# Bitmaps

A bitmap has a header of one of six sizes, which tells the sides of the picture, the number of bits
of a pixel, and how pixels are written: as colors, as indices into a palette, or as runs of indices.
Within an icon a bitmap has no mark before its header, and its height counts a mask below.

The pixels of a bitmap are rows, from the bottom or from the top. Where pixels are written as they
are, a row takes a multiple of four bytes. Where they are written as runs, each row ends with a
mark, and pixels can be left out.
-/

namespace FileQuery.Picture.Bitmap

/-! ## Headers -/

/-- The ways to write pixels that ask for a number of bits of a pixel. -/
inductive Channel
  | rgb
  | runs8
  | runs4
  | fields
  deriving DecidableEq, Repr

/-- The name of a way to write pixels. -/
def Channel.name : Channel → String
  | rgb => "RGB"
  | runs8 => "RLE8"
  | runs4 => "RLE4"
  | fields => "bitfields"

/-- Why bytes are no bitmap. -/
inductive Reason
  | mark
  | headerSize (size : Nat)
  | planes
  | bits (channel : Channel) (bits : Nat)
  | negativeWidth (width : Int)
  | sides (width height : Int)
  | height
  /-- Rows from the top cannot be written in this way. -/
  | downward (way : Nat)
  | way (way : Nat)
  /-- The bits of a color do not stand together. -/
  | scattered
  /-- The bits of a color are beyond those of a pixel. -/
  | beyond
  /-- A color has no bits. -/
  | missing (bits : Nat)
  | palette (colors bits : Nat)
  | runs
  deriving DecidableEq, Repr

/-- The largest width and height. -/
def longestSide : Int := 65535

/-- A reason in words. -/
def Reason.words : Reason → String
  | mark => "BMP signature not found"
  | headerSize size => "Bitmap header too small (" ++ toString size ++ " bytes)"
  | planes => "More than one plane"
  | bits channel count =>
    "Invalid channel bit count for " ++ channel.name ++ ": " ++ toString count
  | negativeWidth across => "Negative width (" ++ toString across ++ ")"
  | sides across down =>
    "Image too large (one of (" ++ toString across ++ ", " ++ toString down
      ++ ") > soft limit of " ++ toString longestSide ++ ")"
  | height => "Invalid height"
  | downward number => "Invalid image type " ++ toString number ++ " for top-down image."
  | way number => "Unknown image compression type " ++ toString number
  | scattered => "Non-contiguous bitfield mask"
  | beyond => "Invalid bitfield mask"
  | missing count => "Missing " ++ toString count ++ "-bit bitfield mask"
  | palette colors count =>
    "Palette size " ++ toString colors ++ " exceeds maximum size for BMP with bit count of "
      ++ toString count
  | runs => "Corrupt RLE data"

/-- Readers of bitmaps. -/
abbrev Reader := Reading Reason

/-- How pixels are written. -/
inductive Way
  /-- As indices into a palette. -/
  | indices
  /-- As runs of indices of a number of bits. -/
  | runs (bits : Nat)
  /-- As colors of a number of bytes. -/
  | colors (bytes : Nat)
  deriving DecidableEq, Repr

/-- What the header of a bitmap tells. -/
structure Header where
  width : Nat
  height : Nat
  bits : Nat
  way : Way
  /-- Whether pixels have an alpha value. -/
  alpha : Bool
  /-- Where the pixels begin. -/
  start : Nat
  deriving DecidableEq, Repr

/-- The size of the oldest headers. -/
def oldestSize : Nat := 12

/-- The size of headers without masks. -/
def plainSize : Nat := 40

/-- The sizes of headers. -/
def sizes : List Nat := [oldestSize, plainSize, 52, 56, 108, 124]

/-- The sizes of headers with a mask of the alpha value. -/
def alphaSizes : List Nat := [56, 108, 124]

/-- The sizes of headers after which masks may follow. -/
def maskedSizes : List Nat := [plainSize, 108, 124]

/-- Refuses a picture without pixels. -/
def checkSides (width height : Int) (alpha : Bool) : Reader Unit :=
  if width ≤ 0 ∨ height ≤ 0 then
    throw (.feature ("Image dimensions (" ++ toString width ++ "x" ++ toString height ++ " w/"
      ++ (if alpha then "4" else "3") ++ " channels) are too large"))
  else pure ()

/-- How pixels are written under a number of a way, whether there are masks, if they can be read. -/
def wayOf (number bits : Nat) : Reader (Way × Bool) :=
  match number with
  | 0 =>
    if [1, 2, 4, 8].contains bits then return (.indices, false)
    else if [16, 24, 32].contains bits then return (.colors (bits / 8), false)
    else refuse (.bits .rgb bits)
  | 1 => if bits = 8 then return (.runs 8, false) else refuse (.bits .runs8 bits)
  | 2 => if bits = 4 then return (.runs 4, false) else refuse (.bits .runs4 bits)
  | 3 =>
    if [16, 32].contains bits then return (.colors (bits / 8), true)
    else refuse (.bits .fields bits)
  | 4 => throw (.feature "JPEG compression")
  | 5 => throw (.feature "PNG compression")
  | 11 | 12 | 13 => throw (.feature "CMYK format")
  | _ => refuse (.way number)

/-- Checks the mask of a color in a pixel of a number of bits. -/
def checkMask (bits mask : Nat) : Reader Unit := do
  let places := (List.range 32).filter mask.testBit
  match places.head?, places.getLast? with
  | some first, some last =>
    require (last + 1 == first + places.length) .scattered
    require (last < bits) .beyond
  | _, _ => pure ()

/-- Takes the masks after a header of a size, and tells whether there is one of the alpha value. -/
def takeMasks (size bits : Nat) : Reader Bool := do
  let red ← takeLow 4
  let green ← takeLow 4
  let blue ← takeLow 4
  let alpha ← if alphaSizes.contains size then takeLow 4 else pure 0
  checkMask bits red
  checkMask bits green
  checkMask bits blue
  checkMask bits alpha
  require (!([red, green, blue].contains 0)) (.missing bits)
  return alpha ≠ 0

/-- The rest of an oldest header. It tells sides, bits, and a number of colors. -/
def oldest (alpha : Bool) : Reader (Header × Bool × Nat) := do
  let width ← takeLow 2
  let height ← takeLow 2
  checkSides width height alpha
  require ((← takeLow 2) == 1) .planes
  let bits ← takeLow 2
  require ([1, 4, 8, 24].contains bits) (.bits .rgb bits)
  let way := if bits = 24 then Way.colors 3 else .indices
  return (⟨width, height, bits, way, alpha, 0⟩, false, 0)

/-- The rest of a header that is not an oldest one. It tells sides, bits, whether there are masks,
    and a number of colors. -/
def plain (alpha : Bool) : Reader (Header × Bool × Nat) := do
  let width := signed 4 (← takeLow 4)
  let height := signed 4 (← takeLow 4)
  require (0 ≤ width) (.negativeWidth width)
  require (width ≤ longestSide && height ≤ longestSide) (.sides width height)
  require (height ≠ -0x80000000) .height
  checkSides width height.natAbs alpha
  require ((← takeLow 2) == 1) .planes
  let bits ← takeLow 2
  let number ← takeLow 4
  require (0 ≤ height || number == 0 || number == 3) (.downward number)
  let (way, masked) ← wayOf number bits
  discard <| take 12
  let colors ← takeLow 4
  discard <| take 4
  return (⟨width.toNat, height.natAbs, bits, way, alpha, 0⟩, masked, colors)

/-- The largest number of colors of a palette that is kept. -/
def mostColors : Nat := 256

/-- Takes a palette, given the number of bytes of a color. -/
def takePalette (colorSize bits colors : Nat) : Reader Unit := do
  let most := Nat.pow 2 bits
  require (colors ≤ most) (.palette colors bits)
  let size := if colors = 0 then most else colors
  discard <| take (min size mostColors * colorSize)
  leaveOut ((size - mostColors) * colorSize)

/-- Takes a header. Pixels have an alpha value in an icon. -/
def takeHeader (inIcon : Bool) : Reader Header := do
  let start ← if inIcon then pure 0 else do
    require ((← take 2) == mark "BM") .mark
    discard <| take 8
    takeLow 4
  let before ← position
  let size ← takeLow 4
  if !sizes.contains size then
    if size < oldestSize then refuse (.headerSize size)
    throw (.feature ("Unknown bitmap header type (size=" ++ toString size ++ ")"))
  let (header, masked, colors) ← if size = oldestSize then oldest inIcon else plain inIcon
  let header ← if masked then do
      let alpha ← takeMasks size header.bits
      pure { header with alpha := header.alpha || alpha }
    else pure header
  goTo (before + size + if masked && maskedSizes.contains size then 12 else 0)
  match header.way with
  | .indices | .runs _ =>
    takePalette (if size = oldestSize then 3 else 4) header.bits colors
  | .colors _ => pure ()
  if inIcon then return { header with height := header.height / 2, start := ← position }
  else return { header with start }

/-! ## Pixels -/

/-- The number of bytes of a row of pixels that are written as they are. -/
def Header.rowSize (header : Header) : Nat :=
  (header.width * header.bits + 31) / 32 * 4

/-- The number of bytes that the pixels take when they are read. -/
def Header.memory (header : Header) : Nat :=
  header.width * header.height * if header.alpha then 4 else 3

/-- Where a run of pixels begins: the rows that are left, this one among them, and the column. -/
structure Place where
  rows : Nat
  column : Nat
  deriving DecidableEq, Repr

/-- The place after pixels of the row, if there are so many. -/
def Place.advance (place : Place) (width count : Nat) : Reader Place := do
  require (place.column + count ≤ width) .runs
  return { place with column := place.column + count }

/-- Reads runs of pixels to the end of the last row. Each takes two bytes at least. -/
def readRuns (width bits : Nat) : Nat → Place → Reader Unit
  | 0, _ => throw (.file .truncated)
  | fuel + 1, place => do
    if place.rows = 0 then return
    let count ← takeByte
    let value ← takeByte
    if count ≠ 0 then readRuns width bits fuel (← place.advance width count)
    else
      match value with
      | 0 => readRuns width bits fuel ⟨place.rows - 1, 0⟩
      | 1 => return
      | 2 =>
        let columns ← takeByte
        let rows ← takeByte
        require (rows < place.rows) .runs
        let below := { place with rows := place.rows - rows }
        readRuns width bits fuel (← below.advance width columns)
      | _ =>
        let size := (value * bits + 7) / 8
        discard <| take (size + size % 2)
        readRuns width bits fuel (← place.advance width value)

/-- Reads the pixels that a header tells of. -/
def readPixels (header : Header) : Reader Unit := do
  goTo header.start
  match header.way with
  | .runs bits => readRuns header.width bits ((← left) + 1) ⟨header.height, 0⟩
  | .indices | .colors _ =>
    if (← left) < header.rowSize * header.height then throw (.file .truncated)
    leaveOut (header.rowSize * header.height)

/-- Reads a bitmap. -/
def read : Reader Unit := do
  let header ← takeHeader false
  reserve header.memory
  readPixels header

end FileQuery.Picture.Bitmap

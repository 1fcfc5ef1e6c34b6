import FileQuery.Media.Picture.Reading

/-!
# Tagged pictures

A picture begins with the order of bytes in its numbers, a mark, and where its directory is. The
directory has an entry for each tag. Some tags have to be there, and what they tell has to fit. The
pixels are written in strips or tiles.
-/

namespace FileQuery.Picture.Tiff

/-- The tags that are looked at. -/
inductive Tag
  | width
  | height
  | bits
  | compression
  | interpretation
  | stripStarts
  | samples
  | stripRows
  | stripSizes
  | arrangement
  | predictor
  | tileWidth
  | tileHeight
  | tileStarts
  | tileSizes
  | sampleKind
  deriving DecidableEq, Repr

namespace Tag

/-- The number of a tag. -/
def number : Tag → Nat
  | width => 256
  | height => 257
  | bits => 258
  | compression => 259
  | interpretation => 262
  | stripStarts => 273
  | samples => 277
  | stripRows => 278
  | stripSizes => 279
  | arrangement => 284
  | predictor => 317
  | tileWidth => 322
  | tileHeight => 323
  | tileStarts => 324
  | tileSizes => 325
  | sampleKind => 339

/-- The name of a tag. -/
def text : Tag → String
  | width => "ImageWidth"
  | height => "ImageLength"
  | bits => "BitsPerSample"
  | compression => "Compression"
  | interpretation => "PhotometricInterpretation"
  | stripStarts => "StripOffsets"
  | samples => "SamplesPerPixel"
  | stripRows => "RowsPerStrip"
  | stripSizes => "StripByteCounts"
  | arrangement => "PlanarConfiguration"
  | predictor => "Predictor"
  | tileWidth => "TileWidth"
  | tileHeight => "TileLength"
  | tileStarts => "TileOffsets"
  | tileSizes => "TileByteCounts"
  | sampleKind => "SampleFormat"

end Tag

/-- Why bytes are no picture of this format. -/
inductive Reason
  | mark
  | version
  | noDirectory
  | missing (tag : Tag)
  | sides (width height : Nat)
  | noSamples
  | sizes
  | predictor (number : Nat)
  | arrangement (number : Nat)
  | conflict
  deriving DecidableEq, Repr

/-- A reason in words. -/
def Reason.words (reason : Reason) : String :=
  "format error: " ++ match reason with
    | mark => "TIFF signature not found"
    | version => "TIFF signature invalid"
    | noDirectory => "Image file directory not found"
    | missing tag => "required tag \x60" ++ tag.text ++ "\x60 not found"
    | sides width height => "invalid dimensions: " ++ toString width ++ "x" ++ toString height
    | noSamples => "samples per pixel is zero"
    | sizes => "inconsistent sizes encountered"
    | predictor number => "unknown predictor “" ++ toString number ++ "” encountered"
    | arrangement number =>
      "unknown planar configuration “" ++ toString number ++ "” encountered"
    | conflict =>
      "file should contain either (StripByteCounts and StripOffsets) or "
        ++ "(TileByteCounts and TileOffsets), other combination was found"

/-- Readers of pictures of this format. -/
abbrev Reader := Reading Reason

/-- The order of bytes in numbers. -/
inductive Order
  | low
  | high
  deriving DecidableEq, Repr

/-- Takes a number of a width in an order. -/
def Order.taken (order : Order) (width : Nat) : Reader Nat :=
  match order with
  | low => takeLow width
  | high => takeHigh width

/-- The layout of a picture: the order of bytes, and whether places take eight bytes. -/
structure Layout where
  order : Order
  wide : Bool
  deriving DecidableEq, Repr

/-- The number of bytes of a place. -/
def Layout.placeSize (layout : Layout) : Nat := if layout.wide then 8 else 4

/-- An entry of a directory. -/
structure Entry where
  tag : Nat
  kind : Nat
  count : Nat
  /-- Where the value or its place is written. -/
  start : Nat
  deriving DecidableEq, Repr

/-- The number of bytes of a value of a kind, if it is known. -/
def valueSize? (kind : Nat) : Option Nat :=
  [0, 1, 1, 2, 4, 8, 1, 1, 2, 4, 8, 4, 8, 4, 0, 0, 8, 8, 8][kind]?.filter (· ≠ 0)

/-- Takes a number of entries. -/
def takeEntries (layout : Layout) : Nat → Reader (List Entry)
  | 0 => return []
  | count + 1 => do
    let tag ← layout.order.taken 2
    let kind ← layout.order.taken 2
    let length ← layout.order.taken layout.placeSize
    let start ← position
    discard <| take layout.placeSize
    let rest ← takeEntries layout count
    return if (valueSize? kind).isSome then ⟨tag, kind, length, start⟩ :: rest else rest

/-- Takes a directory. -/
def takeDirectory (layout : Layout) : Reader (List Entry) := do
  let place ← layout.order.taken layout.placeSize
  require (place ≠ 0) .noDirectory
  goTo place
  let count ← layout.order.taken (if layout.wide then 8 else 2)
  let entries ← takeEntries layout count
  discard <| take layout.placeSize
  return entries

/-- Takes a number of values of a size. -/
def takeValues (layout : Layout) (size : Nat) : Nat → Reader (List Nat)
  | 0 => return []
  | count + 1 => do
    let first ← layout.order.taken size
    return first :: (← takeValues layout size count)

/-- The values of an entry. -/
def Entry.values (entry : Entry) (layout : Layout) : Reader (List Nat) := do
  let size := (valueSize? entry.kind).getD 1
  goTo entry.start
  if layout.placeSize < size * entry.count then goTo (← layout.order.taken layout.placeSize)
  takeValues layout size entry.count

/-- The values of a tag, if it is in a directory. The last entry of a tag counts. -/
def values? (layout : Layout) (entries : List Entry) (tag : Tag) :
    Reader (Option (List Nat)) := do
  match entries.reverse.find? (·.tag = tag.number) with
  | some entry => return some (← entry.values layout)
  | none => return none

/-- The first value of a tag, if it is in a directory. -/
def value? (layout : Layout) (entries : List Entry) (tag : Tag) : Reader (Option Nat) := do
  return (← values? layout entries tag).bind List.head?

/-- The first value of a tag that has to be in a directory. -/
def value (layout : Layout) (entries : List Entry) (tag : Tag) : Reader Nat := do
  let some found ← value? layout entries tag | refuse (.missing tag)
  return found

/-- Whether a directory has a tag. -/
def has (entries : List Entry) (tag : Tag) : Bool := entries.any (·.tag = tag.number)

/-- The interpretations of values as colors. -/
inductive Interpretation
  | whiteIsZero
  | blackIsZero
  | rgb
  | indexed
  | mask
  | cmyk
  | luminance
  | lab
  | profileLab
  | faxLab
  deriving DecidableEq, Repr

namespace Interpretation

/-- The interpretation of a number. -/
def ofNumber? (number : Nat) : Option Interpretation :=
  [(0, whiteIsZero), (1, blackIsZero), (2, rgb), (3, indexed), (4, mask), (5, cmyk),
    (6, luminance), (8, lab), (9, profileLab), (10, faxLab)].lookup number

/-- The name of an interpretation. -/
def name : Interpretation → String
  | whiteIsZero => "WhiteIsZero"
  | blackIsZero => "BlackIsZero"
  | rgb => "RGB"
  | indexed => "RGBPalette"
  | mask => "TransparencyMask"
  | cmyk => "CMYK"
  | luminance => "YCbCr"
  | lab => "CIELab"
  | profileLab => "IccLab"
  | faxLab => "ItuLab"

/-- Whether values of a number of samples can be interpreted. -/
def allows (samples : Nat) : Interpretation → Bool
  | whiteIsZero | blackIsZero => true
  | rgb => samples == 3 || samples == 4
  | cmyk => samples == 4 || samples == 5
  | luminance => samples == 3
  | indexed | mask | lab | profileLab | faxLab => false

/-- The numbers of bits of a sample with which a number of samples can be kept as a color. -/
def keptBits (samples : Nat) : Interpretation → List Nat
  | whiteIsZero | blackIsZero => if samples = 1 then [1, 8, 16] else []
  | rgb => [8, 16, 32]
  | cmyk => if samples = 4 then [8, 16] else []
  | luminance | indexed | mask | lab | profileLab | faxLab => []

end Interpretation

/-- The largest number of bits of a color that is told. -/
def mostToldBits : Nat := 255

/-- Refuses colors that cannot be kept. -/
def checkColors (interpretation : Interpretation) (samples bits : Nat) : Reader Unit := do
  if !interpretation.allows samples then
    throw (.feature (interpretation.name ++ " with ["
      ++ String.intercalate ", " (List.replicate samples (toString bits))
      ++ "] bits per sample is unsupported"))
  if !(interpretation.keptBits samples).contains bits then
    throw (.color ("Unknown(" ++ toString (min (bits * samples) mostToldBits) ++ ")"))

/-- The numbers of whole and of fractional samples. -/
def wholeKind : Nat := 1
def fractionalKind : Nat := 3

/-- Refuses samples of a kind that does not fit to their number of bits. -/
def checkKinds (bits : Nat) (kinds : List Nat) : Reader Unit := do
  for kind in kinds do
    if !(kind = wholeKind && bits ≤ 16 || kind = fractionalKind && bits = 32) then
      throw (.feature ("Unhandled TIFF sample format " ++ toString kind ++ " for " ++ toString bits
        ++ " bits"))

/-- Takes the layout of a picture. -/
def takeLayout : Reader Layout := do
  let first := (← get).rest.take 2
  leaveOut 2
  let order ← if first = mark "II" then pure Order.low
    else if first = mark "MM" then pure Order.high
    else refuse .mark
  match ← order.taken 2 with
  | 42 => return ⟨order, false⟩
  | 43 =>
    require ((← order.taken 2) == 8) .mark
    require ((← order.taken 2) == 0) .mark
    return ⟨order, true⟩
  | _ => refuse .version

/-- Where the pieces of the pixels are, and their sizes. -/
structure Pieces where
  starts : List Nat
  sizes : List Nat
  deriving DecidableEq, Repr

/-- The pieces of pixels that a directory tells of, for a number of planes. -/
def takePieces (layout : Layout) (entries : List Entry) (width height planes : Nat) :
    Reader Pieces := do
  let all (tag : Tag) : Reader (List Nat) := return (← values? layout entries tag).getD []
  let parts (whole part : Nat) : Nat := (whole + part - 1) / part
  match has entries .stripSizes, has entries .stripStarts, has entries .tileSizes,
      has entries .tileStarts with
  | true, true, false, false =>
    let starts ← all .stripStarts
    let sizes ← all .stripSizes
    let rows := (← value? layout entries .stripRows).getD height
    require (starts.length == sizes.length && rows ≠ 0
      && starts.length == parts height rows * planes) .sizes
    return ⟨starts, sizes⟩
  | false, false, true, true =>
    let tileWidth ← value layout entries .tileWidth
    let tileHeight ← value layout entries .tileHeight
    let starts ← all .tileStarts
    let sizes ← all .tileSizes
    require (tileWidth ≠ 0 && tileHeight ≠ 0 && starts.length == sizes.length
      && starts.length == parts width tileWidth * parts height tileHeight * planes) .sizes
    return ⟨starts, sizes⟩
  | _, _, _, _ => refuse .conflict

/-- Reads pieces of pixels. -/
def readPieces : List (Nat × Nat) → Reader Unit
  | [] => pure ()
  | (start, size) :: rest => do
    goTo start
    if (← left) < size then throw (.file .truncated)
    readPieces rest

/-- Reads a picture. -/
def read : Reader Unit := do
  let layout ← takeLayout
  let entries ← takeDirectory layout
  let width ← value layout entries .width
  let height ← value layout entries .height
  require (width ≠ 0 && height ≠ 0) (.sides width height)
  let interpretation ← value? layout entries .interpretation
  let some interpretation := interpretation.bind Interpretation.ofNumber?
    | throw (.feature "unknown photometric interpretation encountered")
  let samples := (← value? layout entries .samples).getD 1
  require (samples ≠ 0) .noSamples
  let bits := (← values? layout entries .bits).getD [1]
  require (bits.length == samples || bits.length == 1) .sizes
  let depth := bits.head?.getD 1
  if !bits.all (· == depth) then
    throw (.feature ("inconsistent bits per sample: [" ++ String.intercalate ", "
      (bits.map toString) ++ "]"))
  let predictor := (← value? layout entries .predictor).getD 1
  require (1 ≤ predictor && predictor ≤ 3) (.predictor predictor)
  let arrangement := (← value? layout entries .arrangement).getD 1
  require (arrangement == 1 || arrangement == 2) (.arrangement arrangement)
  let planes := if arrangement = 1 then 1 else samples
  let pieces ← takePieces layout entries width height planes
  checkColors interpretation samples depth
  checkKinds depth ((← values? layout entries .sampleKind).getD [])
  reserve ((width * height * samples * depth + 7) / 8)
  readPieces (pieces.starts.zip pieces.sizes)

end FileQuery.Picture.Tiff

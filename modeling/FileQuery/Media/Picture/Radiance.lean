import FileQuery.Media.Picture.Reading
import FileQuery.Number.Text

/-!
# Pictures of light

A picture has a header of lines, a line with its sides, and rows of pixels. A line of the header
tells the value of a name. Rows are written in pieces, each part of the pixels on its own, or as
pixels in which a mark repeats the last one.
-/

namespace FileQuery.Picture.Radiance

/-- Why bytes are no picture of this format. -/
inductive Reason
  | mark
  | headerEnd
  | sidesEnd
  | fewSides (found : Nat)
  | manySides
  /-- A value is no number. -/
  | number (name : String) (flaw : NumeralFlaw)
  /-- A value is no decimal number. -/
  | decimal (name : String) (empty : Bool)
  | fewNumbers
  | manyNumbers
  | rowLength (found expected : Nat)
  | firstMark
  deriving DecidableEq, Repr

/-- The number of parts of the line with the sides. -/
def sidesParts : Nat := 4

/-- The name of the values that correct colors. -/
def correctionName : String := "COLORCORR"

/-- A reason in words. -/
def Reason.words : Reason → String
  | mark => "Radiance HDR signature not found"
  | headerEnd => "EOF in header"
  | sidesEnd => "EOF in dimensions line"
  | fewSides found =>
    "Dimensions line too short: have " ++ toString found ++ " elements, expected "
      ++ toString sidesParts
  | manySides => "Dimensions line too long, expected " ++ toString sidesParts ++ " elements"
  | number name flaw => "Cannot parse " ++ name ++ " value as u32: " ++ flaw.words
  | decimal name empty =>
    "Cannot parse " ++ name ++ " value as f32: "
      ++ if empty then "cannot parse float from empty string" else "invalid float literal"
  | fewNumbers => "Not enough numbers in " ++ correctionName
  | manyNumbers => "Extra numbers in " ++ correctionName
  | rowLength found expected =>
    "Wrong length of decoded scanline: got " ++ toString found ++ ", expected "
      ++ toString expected
  | firstMark => "First pixel of a scanline shouldn't be run length marker"

/-- Readers of pictures of this format. -/
abbrev Reader := Reading Reason

/-- Takes a line, if there is one. -/
def takeLine : Reader (Option (List UInt8)) := do
  let rest := (← get).rest
  if rest.isEmpty then return none
  let line := rest.takeWhile (· ≠ 10)
  leaveOut (line.length + 1)
  return some line

/-! ### The header -/

/-- The format of pixels that can be read. -/
def knownFormat : String := "32-bit_rle_rgbe"

/-- A text without the blanks around it. -/
def trimmed (text : List Char) : String := String.ofList (Text.trim text)

/-- A text up to a number of characters, with a mark where some are left out. -/
def shortened (length : Nat) (text : List Char) : String :=
  String.ofList (if length < text.length then text.take length ++ "...".toList else text)

/-- Checks that a value is a decimal number. -/
def checkDecimal (name : String) (text : String) : Except Reason Unit :=
  let isNumber := match text.toList with
    | '-' :: rest => (Number.unsigned? true rest).isSome
    | '+' :: rest => (Number.unsigned? false rest).isSome
    | rest => (Number.unsigned? false rest).isSome
  if isNumber then .ok () else .error (.decimal name text.isEmpty)

/-- The parts of a text between blanks. -/
def parts (text : List Char) : List (List Char) :=
  (text.splitBy fun first second => !Text.isBlank first && !Text.isBlank second).filter
    fun part => !part.all Text.isBlank

/-- Checks the values that correct colors. -/
def checkCorrection (text : List Char) : Except Reason Unit := do
  let found := parts text
  for part in found.take 3 do checkDecimal correctionName (String.ofList part)
  if found.length < 3 then throw .fewNumbers
  if 3 < found.length then throw .manyNumbers

/-- The name and the value of a line. Both have characters. -/
def assignment? (line : List Char) : Option (String × List Char) :=
  let name := line.takeWhile (· ≠ '=')
  let value := line.drop (name.length + 1)
  if name.isEmpty || value.isEmpty then none else some (trimmed name, value)

/-- Checks a line of the header. -/
def checkLine (line : List Char) : Except (PictureFlaw Reason) Unit :=
  match assignment? line with
  | some ("FORMAT", value) =>
    if trimmed value = knownFormat then .ok () else .error (.variant (shortened 20 value))
  | some ("EXPOSURE", value) => (checkDecimal "EXPOSURE" (trimmed value)).mapError .malformed
  | some ("PIXASPECT", value) => (checkDecimal "PIXASPECT" (trimmed value)).mapError .malformed
  | some ("COLORCORR", value) => (checkCorrection value).mapError .malformed
  | _ => .ok ()

/-- Reads lines up to an empty one. Each takes a byte at least. -/
def readHeader : Nat → Reader Unit
  | 0 => refuse .headerEnd
  | fuel + 1 => do
    match ← takeLine with
    | none => refuse .headerEnd
    | some [] => return
    | some (first :: rest) =>
      if first ≠ 35 then
        match checkLine (Text.decodeLossy (first :: rest)).toList with
        | .ok () => pure ()
        | .error flaw => throw flaw
      readHeader fuel

/-- The sides that a line tells. -/
def sidesOf (line : List Char) : Except (PictureFlaw Reason) (Nat × Nat) := do
  match parts line with
  | [first, height, second, width] =>
    if first ≠ ['-', 'Y'] ∨ second ≠ ['+', 'X'] then
      throw (.feature ("Orientation " ++ shortened 4 first ++ " " ++ shortened 4 second))
    let side (name : String) (text : List Char) : Except (PictureFlaw Reason) Nat :=
      (readNumeral wordLimit (String.ofList text)).mapError fun flaw =>
        .malformed (.number (name ++ " dimension") flaw)
    let height ← side "height" height
    let width ← side "width" width
    return (width, height)
  | found =>
    throw (.malformed
      (if found.length < sidesParts then .fewSides found.length else .manySides))

/-! ### Rows -/

/-- Reads a part of the pixels of a row from a place on. Each piece takes a byte at least. -/
def readPart (width : Nat) : Nat → Nat → Reader Unit
  | 0, _ => throw (.file .truncated)
  | fuel + 1, place => do
    if width ≤ place then return
    let kind ← takeByte
    let count := if kind ≤ 128 then kind else kind - 128
    require (place + count ≤ width) (.rowLength (place + count) width)
    discard <| take (if kind ≤ 128 then count else 1)
    readPart width fuel (place + count)

/-- Whether the parts of a pixel mark a repetition of the last one. -/
def isMark (pixel : List UInt8) : Bool := pixel.take 3 == [1, 1, 1]

/-- Reads pixels of a row from a place on, given the weight of a mark. Each takes some bytes. -/
def readWhole (width : Nat) : Nat → Nat → Nat → Reader Unit
  | 0, _, _ => throw (.file .truncated)
  | fuel + 1, place, weight => do
    if width ≤ place then return
    let pixel ← take 4
    if isMark pixel then
      let count := Bytes.lowFirst (pixel.drop 3) * weight
      require (place + count ≤ width) (.rowLength (place + count) width)
      readWhole width fuel (place + count) (weight * 256)
    else readWhole width fuel (place + 1) 1

/-- Reads a row. -/
def readRow (width : Nat) : Reader Unit := do
  let first ← take 4
  let fuel := (← left) + 1
  match first with
  | [2, 2, size, _] =>
    if size < 128 then
      for _ in List.range 4 do readPart width fuel 0
    else readWhole width fuel 1 1
  | _ =>
    require (!isMark first) .firstMark
    readWhole width fuel 1 1

/-- Reads a number of rows. -/
def readRows (width : Nat) : Nat → Reader Unit
  | 0 => pure ()
  | count + 1 => do
    readRow width
    readRows width count

/-- The mark at the start. -/
def startMark : List UInt8 := mark "#?RADIANCE"

/-- Reads a picture. -/
def read : Reader Unit := do
  require ((← take startMark.length) == startMark) .mark
  discard takeLine
  readHeader ((← left) + 1)
  let some line ← takeLine | refuse .sidesEnd
  let (width, height) ← match sidesOf (Text.decodeLossy line).toList with
    | .ok sides => pure sides
    | .error flaw => throw flaw
  requireCountable width height 3
  reserve (width * height * 12)
  if width ≠ 0 then readRows width height

end FileQuery.Picture.Radiance

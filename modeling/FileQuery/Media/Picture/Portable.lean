import FileQuery.Media.Picture.Reading
import FileQuery.Text.Literal

/-!
# Portable pictures

A portable picture has a header in words or numerals, and the values of its pixels.
-/

/-!
## Headers of portable pictures

A portable picture begins with a letter and a digit. The digit tells whether the pixels are bits,
shades of gray or colors, and whether they are written as numerals or as bytes. The header of six
kinds is made of numerals between blanks, and that of the seventh of lines with names.
-/

namespace FileQuery.Picture.Portable

/-- The names of the lines of a header of the seventh kind. -/
inductive LineName
  | height
  | width
  | depth
  | largest
  deriving DecidableEq, Repr

/-- A name as it is written. -/
def LineName.text : LineName → String
  | height => "HEIGHT"
  | width => "WIDTH"
  | depth => "DEPTH"
  | largest => "MAXVAL"

/-- The kinds of tuples of the seventh kind that have a name. -/
inductive TupleName
  | bits
  | bitsAlpha
  | gray
  | grayAlpha
  | rgb
  | rgbAlpha
  deriving DecidableEq, Repr

namespace TupleName

/-- A name as it is written. -/
def text : TupleName → String
  | bits => "BLACKANDWHITE"
  | bitsAlpha => "BLACKANDWHITE_ALPHA"
  | gray => "GRAYSCALE"
  | grayAlpha => "GRAYSCALE_ALPHA"
  | rgb => "RGB"
  | rgbAlpha => "RGB_ALPHA"

/-- All names. -/
def all : List TupleName := [bits, bitsAlpha, gray, grayAlpha, rgb, rgbAlpha]

/-- The number of values of a tuple. -/
def depth : TupleName → Nat
  | bits | gray => 1
  | bitsAlpha | grayAlpha => 2
  | rgb => 3
  | rgbAlpha => 4

end TupleName

/-- The largest value that a picture can have. -/
def largestValue : Nat := 65535

/-- Where a numeral is written. -/
inductive NumeralPlace
  | preamble
  | line (name : LineName)
  | sample
  deriving DecidableEq, Repr

/-- A place in words. -/
def NumeralPlace.words : NumeralPlace → String
  | preamble => "number in preamble"
  | line name => name.text
  | sample => "sample"

/-- Why bytes are no picture of this format. -/
inductive Reason
  | mark (first second : Nat)
  | numeral (place : NumeralPlace) (text : String) (flaw : NumeralFlaw)
  | notAscii (byte : Nat)
  | largest (value : Nat)
  | largestZero
  | fewBytes
  | rasterByte (byte : Nat)
  | sample (value : Nat)
  | sampleNotAscii
  | notNewline (byte : Nat)
  | headerEnd
  | duplicate (name : LineName)
  | unknownLine (text : String)
  | incomplete (height width depth largest : Option Nat)
  | lineNotAscii
  | depthOrLargest (name : TupleName) (depth largest : Nat)
  | depth (name : TupleName) (depth : Nat)
  | tuples
  deriving DecidableEq, Repr

/-- A byte in hexadecimal. -/
def byteText (byte : Nat) : String := "0x" ++ raised (hexadecimal 2 byte)

/-- A number that may be missing. -/
def optionText : Option Nat → String
  | none => "None"
  | some value => "Some(" ++ toString value ++ ")"

/-- A reason in words. -/
def Reason.words : Reason → String
  | mark first second =>
    "Expected magic constant for PNM: P1..P7, got [" ++ byteText first ++ ", " ++ byteText second
      ++ "]"
  | numeral place text flaw =>
    "Error parsing " ++ Text.literal text ++ " as " ++ place.words ++ ": " ++ flaw.words
  | notAscii byte => "Non-ASCII character " ++ byteText byte ++ " in header"
  | largest value =>
    "Image MAXVAL exceeds " ++ toString largestValue ++ ": " ++ toString value
  | largestZero => "Image MAXVAL is zero"
  | fewBytes => "Not enough data was provided to the Decoder to decode the image"
  | rasterByte byte => "Unexpected character " ++ byteText byte ++ " within sample raster"
  | sample value => "Sample value " ++ toString value ++ " outside of bounds"
  | sampleNotAscii => "Non-ASCII sample where ASCII value was expected"
  | notNewline byte => "Expected newline after P7 magic, got " ++ byteText byte
  | headerEnd => "Unexpected end of PNM header"
  | duplicate name => "Duplicate " ++ name.text ++ " line"
  | unknownLine text => "Unknown header line with identifier " ++ Text.literal text
  | incomplete tall wide deep most =>
    "Incomplete header: have height=" ++ optionText tall ++ ", width=" ++ optionText wide
      ++ ", depth=" ++ optionText deep ++ ", maxval=" ++ optionText most
  | lineNotAscii => "Non-ASCII line in PAM header"
  | depthOrLargest name deep most =>
    "Invalid depth (" ++ toString deep ++ ") or maxval (" ++ toString most ++ ") for tuple type "
      ++ name.text
  | depth name deep =>
    "Invalid depth (" ++ toString deep ++ ") for tuple type " ++ name.text
  | tuples => "Tuple type not recognized"

/-- Readers of pictures of this format. -/
abbrev Reader := Reading Reason

/-- Whether a byte is blank. -/
def isBlank (byte : UInt8) : Bool := 9 ≤ byte && byte ≤ 13 || byte == 32

/-- Whether a byte ends a line. -/
def isLineEnd (byte : UInt8) : Bool := byte == 10 || byte == 13

/-- The letters after others up to a blank, without comments, and the bytes after them. A comment
    is from a number sign to the end of a line. -/
def wordFrom (inComment : Bool) (letters : List UInt8) :
    List UInt8 → Except Reason (List UInt8 × List UInt8)
  | [] => .ok (letters.reverse, [])
  | byte :: rest =>
    if inComment then wordFrom (!isLineEnd byte) letters rest
    else if byte = 35 then wordFrom true letters rest
    else if isBlank byte then
      if letters.isEmpty then wordFrom false letters rest else .ok (letters.reverse, rest)
    else if 128 ≤ byte then .error (.notAscii byte.toNat)
    else wordFrom false (byte :: letters) rest

/-- The text of bytes that are ASCII. -/
def textOf (bytes : List UInt8) : String :=
  String.ofList (bytes.map fun byte => Char.ofNat byte.toNat)

/-- Takes a number of the preamble. -/
def takeNumber : Reader Nat := do
  match wordFrom false [] (← get).rest with
  | .error reason => refuse reason
  | .ok (letters, rest) =>
    modify fun cursor => { cursor with rest }
    if letters.isEmpty then throw (.file .endOfFile)
    match readNumeral wordLimit (textOf letters) with
    | .ok value => return value
    | .error flaw => refuse (.numeral .preamble (textOf letters) flaw)

/-- The ways in which the values of pixels are written. -/
inductive Writing
  /-- As one character for each bit. -/
  | bitNumerals
  /-- As one bit for each, where each row begins with a byte. -/
  | packedBits
  /-- As numerals between blanks. -/
  | numerals
  /-- As one or two bytes for each. -/
  | bytes
  /-- As one byte for each bit. -/
  | bitBytes
  deriving DecidableEq, Repr

/-- What a header tells. -/
structure Header where
  width : Nat
  height : Nat
  /-- The number of values of a pixel. -/
  depth : Nat
  /-- The number of bytes of a value. -/
  size : Nat
  writing : Writing
  deriving DecidableEq, Repr

/-- The number of bytes of a value up to a largest one. -/
def sizeOf (largest : Nat) : Reader Nat :=
  if largest = 0 then refuse .largestZero
  else if largest ≤ 255 then return 1
  else if largest ≤ largestValue then return 2
  else refuse (.largest largest)

/-- Takes a header of bits. -/
def takeBits (writing : Writing) : Reader Header := do
  let width ← takeNumber
  let height ← takeNumber
  return ⟨width, height, 1, 1, writing⟩

/-- Takes a header of values. -/
def takeValues (depth : Nat) (writing : Writing) : Reader Header := do
  let width ← takeNumber
  let height ← takeNumber
  let largest ← takeNumber
  return ⟨width, height, depth, ← sizeOf largest, writing⟩

/-- What the lines of a header of the seventh kind tell. -/
structure Lines where
  height : Option Nat
  width : Option Nat
  depth : Option Nat
  largest : Option Nat
  tuples : Option String
  deriving DecidableEq, Repr

/-- No lines. -/
def Lines.empty : Lines := ⟨none, none, none, none, none⟩

namespace Lines

/-- The number of the line with a name. -/
def get? (lines : Lines) : LineName → Option Nat
  | .height => lines.height
  | .width => lines.width
  | .depth => lines.depth
  | .largest => lines.largest

/-- The lines with a number under a name. -/
def insert (lines : Lines) (name : LineName) (value : Nat) : Lines :=
  match name with
  | .height => { lines with height := some value }
  | .width => { lines with width := some value }
  | .depth => { lines with depth := some value }
  | .largest => { lines with largest := some value }

/-- The lines after another one of a number. -/
def addNumber (lines : Lines) (name : LineName) (rest : List Char) : Except Reason Lines :=
  if (lines.get? name).isSome then .error (.duplicate name)
  else
    match readNumeral wordLimit (String.ofList (Text.trim rest)) with
    | .ok value => .ok (lines.insert name value)
    | .error flaw => .error (.numeral (.line name) (String.ofList rest) flaw)

/-- The lines after another one of the kind of tuples. -/
def addTuples (lines : Lines) (text : String) : Lines :=
  { lines with tuples := some (match lines.tuples with
    | some before => before ++ " " ++ text
    | none => text) }

/-- The lines after another one, if it is not the last one. -/
def add (lines : Lines) (line : List Char) : Except Reason (Option Lines) :=
  let line := Text.trimStart line
  let name := line.takeWhile fun c => !Text.isBlank c
  let rest := line.drop name.length
  match String.ofList name with
  | "ENDHDR" => .ok none
  | "HEIGHT" => (lines.addNumber .height rest).map some
  | "WIDTH" => (lines.addNumber .width rest).map some
  | "DEPTH" => (lines.addNumber .depth rest).map some
  | "MAXVAL" => (lines.addNumber .largest rest).map some
  | "TUPLTYPE" => .ok (some (lines.addTuples (String.ofList (Text.trim rest))))
  | other => .error (.unknownLine other)

end Lines

/-- Takes a line with its end. -/
def takeLine : Reader (List UInt8) := do
  let rest := (← get).rest
  let line := rest.takeWhile (· ≠ 10)
  leaveOut (line.length + 1)
  return rest.take (line.length + 1)

/-- Takes the lines of a header of the seventh kind. Each takes a byte at least. -/
def takeLines : Nat → Lines → Reader Lines
  | 0, _ => refuse .headerEnd
  | fuel + 1, lines => do
    match ← takeLine with
    | [] => refuse .headerEnd
    | first :: rest =>
      if first = 35 then takeLines fuel lines
      else
        let line := first :: rest
        if line.any (128 ≤ ·) then refuse .lineNotAscii
        match lines.add (textOf line).toList with
        | .ok (some lines) => takeLines fuel lines
        | .ok none => return lines
        | .error reason => refuse reason

/-- The header that lines tell. -/
def headerOf (lines : Lines) : Reader Header := do
  match lines.height, lines.width, lines.depth, lines.largest with
  | some height, some width, some depth, some largest =>
    if largest = 0 then refuse .largestZero
    let size := if largest ≤ 255 then 1 else 2
    match lines.tuples with
    | none =>
      match depth with
      | 1 | 3 => return ⟨width, height, depth, 1, .bytes⟩
      | 2 => throw (.color "La8")
      | 4 => throw (.color "Rgba8")
      | _ => refuse .tuples
    | some text =>
      match TupleName.all.find? (·.text == text) with
      | none => throw (.feature ("Tuple type " ++ Text.literal text))
      | some name =>
        match name with
        | .bits | .bitsAlpha =>
          require (depth == name.depth && largest == 1) (.depthOrLargest name depth largest)
          return ⟨width, height, depth, 1, .bitBytes⟩
        | .gray | .grayAlpha =>
          require (depth == name.depth && largest ≤ largestValue)
            (.depthOrLargest name depth largest)
          return ⟨width, height, depth, size, .bytes⟩
        | .rgb | .rgbAlpha =>
          require (depth == name.depth && largest ≤ largestValue) (.depth name depth)
          return ⟨width, height, depth, size, .bytes⟩
  | height, width, depth, largest => refuse (.incomplete height width depth largest)

/-- Takes a header of the seventh kind. -/
def takeNamed : Reader Header := do
  let ending ← takeOr (fun _ => .file .endOfFile) 1
  require (ending == [10]) (.notNewline (Bytes.lowFirst ending))
  headerOf (← takeLines ((← left) + 1) .empty)

/-- Takes a header. -/
def takeHeader : Reader Header := do
  let first ← takeByte
  let second ← takeByte
  if first ≠ 80 then refuse (.mark first second)
  match Char.ofNat second with
  | '1' => takeBits .bitNumerals
  | '2' => takeValues 1 .numerals
  | '3' => takeValues 3 .numerals
  | '4' => takeBits .packedBits
  | '5' => takeValues 1 .bytes
  | '6' => takeValues 3 .bytes
  | '7' => takeNamed
  | _ => refuse (.mark first second)

end FileQuery.Picture.Portable

/-!
## Portable pictures

The values of the pixels follow the header: as characters, numerals, bits or bytes.
-/

namespace FileQuery.Picture.Portable

/-- The number of values. -/
def Header.values (header : Header) : Nat := header.width * header.height * header.depth

/-- Reads a number of bits that are written as characters. Each takes a byte at least. -/
def readBits : Nat → Nat → Reader Unit
  | 0, _ => refuse .fewBytes
  | fuel + 1, values => do
    if values = 0 then return
    match (← get).rest with
    | [] => refuse .fewBytes
    | byte :: _ =>
      leaveOut 1
      if isBlank byte then readBits fuel values
      else if byte = 48 ∨ byte = 49 then readBits fuel (values - 1)
      else refuse (.rasterByte byte.toNat)

/-- Takes a value that is written as a numeral. -/
def takeNumeral (size : Nat) : Reader Unit := do
  let rest := (← get).rest.dropWhile isBlank
  let letters := rest.takeWhile fun byte => !isBlank byte
  modify fun cursor => { cursor with rest := rest.drop (letters.length + 1) }
  if letters.any (128 ≤ ·) then refuse .sampleNotAscii
  match readNumeral (if size = 1 then 255 else largestValue) (textOf letters) with
  | .ok _ => return
  | .error flaw => refuse (.numeral .sample (textOf letters) flaw)

/-- Reads a number of values that are written as numerals. -/
def readNumerals (size : Nat) : Nat → Reader Unit
  | 0 => pure ()
  | count + 1 => do
    takeNumeral size
    readNumerals size count

/-- Reads values that take a number of bytes. -/
def readBytes (size : Nat) : Reader (List UInt8) := takeOr (fun _ => .malformed .fewBytes) size

/-- Reads a picture. -/
def read : Reader Unit := do
  let header ← takeHeader
  requireCountable header.width header.height (header.depth * header.size)
  reserve (header.values * header.size)
  match header.writing with
  | .bitNumerals => readBits ((← left) + 1) header.values
  | .packedBits => discard <| readBytes ((header.width + 7) / 8 * header.height)
  | .numerals => readNumerals header.size header.values
  | .bytes => discard <| readBytes (header.values * header.size)
  | .bitBytes =>
    match (← readBytes header.values).find? (1 < ·) with
    | some value => refuse (.sample value.toNat)
    | none => pure ()

end FileQuery.Picture.Portable

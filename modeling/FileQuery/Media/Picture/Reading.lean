import FileQuery.Bytes
import FileQuery.Execution.Conversion

/-!
# Reading pictures

What the readers of all formats of pictures have in common.
-/

/-!
## Flaws of pictures

Why bytes are no picture that can be read. Each format of pictures has reasons of its own.
-/

namespace FileQuery

/-- Why bytes are no picture that can be read. -/
inductive PictureFlaw (Reason : Type)
  /-- The bytes end too early. -/
  | file (error : FileError)
  /-- The bytes break a rule of the format. -/
  | malformed (reason : Reason)
  /-- The picture makes use of a feature that is not supported. -/
  | feature (words : String)
  /-- The picture has colors of a kind that is not supported. -/
  | color (words : String)
  /-- The picture is in a variant of the format that is not supported. -/
  | variant (name : String)
  /-- The pixels take more memory than a picture may. -/
  | tooLarge
  /-- The picture has longer sides than it may. -/
  | sideLimit
  /-- The picture has sides of lengths that it cannot have. -/
  | sides
  /-- There is no picture before the end. -/
  | noPicture
  deriving DecidableEq, Repr

namespace PictureFlaw

variable {Reason : Type}

/-- The error of a conversion, given the name of the format and the words for its reasons. -/
def error (format : String) (words : Reason → String) : PictureFlaw Reason → ConversionError
  | file error => .file error
  | malformed reason => .failed ("Format error decoding " ++ format ++ ": " ++ words reason)
  | feature text =>
    .unsupported ("The decoder for " ++ format ++ " does not support the format features " ++ text)
  | color text =>
    .unsupported ("The encoder or decoder for " ++ format ++ " does not support the color type \x60"
      ++ text ++ "\x60")
  | variant name => .unsupported ("The image format \x60" ++ name ++ "\x60 is not supported")
  | tooLarge => .failed "Memory limit exceeded"
  | sideLimit => .failed "Image size exceeds limit"
  | sides => .failed "The Image's dimensions are either too small or too large"
  | noPicture => .failed "The end of the image has been reached"

end PictureFlaw

end FileQuery

/-!
## Reading pictures

The bytes of a picture are read from a position on. What happens where they end too early depends
on the format. A picture is refused before its pixels are read if they would take too much memory.
-/

namespace FileQuery.Picture

/-- The bytes of a picture and those that are still to be read. -/
structure Cursor where
  whole : List UInt8
  rest : List UInt8

/-- Readers of pictures of a format. -/
abbrev Reading (Reason : Type) := ExceptT (PictureFlaw Reason) (StateM Cursor)

variable {Reason : Type}

/-- Readers whose flaws are errors of a conversion. -/
abbrev Check := ExceptT ConversionError (StateM Cursor)

/-- What a reader reads, with its flaws as errors. They need the name of the format and the words
    for its reasons. -/
def Reading.named {Result : Type} (reader : Reading Reason Result) (format : String)
    (words : Reason → String) : Check Result := fun cursor =>
  match reader cursor with
  | (.ok result, next) => (.ok result, next)
  | (.error flaw, next) => (.error (flaw.error format words), next)

/-- What is read from bytes. -/
def Check.run {Result : Type} (check : Check Result) (bytes : List UInt8) :
    Except ConversionError Result :=
  (check ⟨bytes, bytes⟩).1

/-- Refuses a picture that breaks a rule. -/
def refuse {Result : Type} (reason : Reason) : Reading Reason Result := throw (.malformed reason)

/-- Refuses a picture unless a rule is kept. -/
def require (kept : Bool) (reason : Reason) : Reading Reason Unit :=
  if kept then pure () else refuse reason

/-- The number of bytes that are left. -/
def left : Reading Reason Nat := return (← get).rest.length

/-- Takes a number of bytes. The flaw of too few depends on how many there are. -/
def takeOr (missing : Nat → PictureFlaw Reason) (count : Nat) : Reading Reason (List UInt8) := do
  let cursor ← get
  let taken := cursor.rest.take count
  if taken.length < count then throw (missing taken.length)
  set { cursor with rest := cursor.rest.drop count }
  return taken

/-- Takes a number of bytes. -/
def take (count : Nat) : Reading Reason (List UInt8) := takeOr (fun _ => .file .truncated) count

/-- Takes a byte. -/
def takeByte : Reading Reason Nat := return Bytes.lowFirst (← take 1)

/-- Takes a number of a width, lowest byte first. -/
def takeLow (width : Nat) : Reading Reason Nat := return Bytes.lowFirst (← take width)

/-- Takes a number of a width, highest byte first. -/
def takeHigh (width : Nat) : Reading Reason Nat := return Bytes.highFirst (← take width)

/-- Leaves out a number of bytes, as far as there are any. -/
def leaveOut (count : Nat) : Reading Reason Unit :=
  modify fun cursor => { cursor with rest := cursor.rest.drop count }

/-- Goes to a position, counted from the start. -/
def goTo (position : Nat) : Reading Reason Unit :=
  modify fun cursor => { cursor with rest := cursor.whole.drop position }

/-- The position, counted from the start. -/
def position : Reading Reason Nat := do
  let cursor ← get
  return cursor.whole.length - cursor.rest.length

/-- The number of bytes that pixels may take. -/
def memoryLimit : Nat := 0x20000000

/-- Refuses a picture whose pixels take too many bytes. -/
def reserve (size : Nat) : Reading Reason Unit :=
  if memoryLimit < size then throw .tooLarge else pure ()

/-- The largest number of bytes that can be counted. -/
def countLimit : Nat := 0xFFFFFFFFFFFFFFFF

/-- Refuses a picture whose bytes cannot be counted, given the number of bytes of a pixel. -/
def requireCountable (width height pixelSize : Nat) : Reading Reason Unit :=
  if countLimit / pixelSize < width * height then
    throw (.feature ("Image dimensions (" ++ toString width ++ "x" ++ toString height
      ++ ") are too large"))
  else pure ()

/-- The number of a width as one with a sign. -/
def signed (width value : Nat) : Int :=
  let span := Nat.pow 256 width
  if span ≤ 2 * value then (value : Int) - span else value

/-- Bytes as hexadecimal numbers in a list. -/
def listed (bytes : List UInt8) : String :=
  "[" ++ String.intercalate ", " (bytes.map fun byte =>
    String.ofList (Nat.toDigits 16 byte.toNat)) ++ "]"

/-- Bytes as numbers in a list. -/
def listedDecimal (bytes : List UInt8) : String :=
  "[" ++ String.intercalate ", " (bytes.map fun byte => toString byte.toNat) ++ "]"

/-- A number in hexadecimal digits, at least as many as a width. -/
def hexadecimal (width value : Nat) : String :=
  let digits := Nat.toDigits 16 value
  String.ofList (List.replicate (width - digits.length) '0' ++ digits)

/-- A text with letters in upper case. -/
def raised (text : String) : String := String.ofList (text.toList.map Char.toUpper)

/-- The letters of a text as bytes. -/
def mark (text : String) : List UInt8 := Text.encode text

end FileQuery.Picture

/-!
## Numerals in pictures

Some formats write numbers as decimal numerals. A numeral may have a plus sign, and its number must
not be larger than a limit.
-/

namespace FileQuery.Picture

/-- Why a text is no numeral. -/
inductive NumeralFlaw
  | empty
  | digit
  | tooLarge
  deriving DecidableEq, Repr

/-- A flaw in words. -/
def NumeralFlaw.words : NumeralFlaw → String
  | empty => "cannot parse integer from empty string"
  | digit => "invalid digit found in string"
  | tooLarge => "number too large to fit in target type"

/-- The number of digits after others. The first digit that is none, or makes the number too large,
    is the flaw. -/
def numberFrom (limit : Nat) (value : Nat) : List Char → Except NumeralFlaw Nat
  | [] => .ok value
  | c :: rest =>
    if c.isDigit then
      let value := value * 10 + (c.toNat - '0'.toNat)
      if limit < value then .error .tooLarge else numberFrom limit value rest
    else .error .digit

/-- The number of a numeral. -/
def readNumeral (limit : Nat) (text : String) : Except NumeralFlaw Nat :=
  match text.toList with
  | [] => .error .empty
  | ['+'] => .error .digit
  | '+' :: digits => numberFrom limit 0 digits
  | digits => numberFrom limit 0 digits

/-- The largest number of four bytes. -/
def wordLimit : Nat := 0xFFFFFFFF

end FileQuery.Picture

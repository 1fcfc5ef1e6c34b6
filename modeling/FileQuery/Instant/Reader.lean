import FileQuery.Instant
import FileQuery.Text.Blank

/-!
# Reading instants

A query may write an instant as RFC 3339 has it, or in one of the plain forms of `layouts`. The
forms are tried one after the other. Plain forms have no time zone and are read as UTC.
-/

namespace FileQuery.Instant

/-- The value of ASCII digits. -/
def digitsValue (digits : List Char) : Nat :=
  digits.foldl (fun value c => 10 * value + (c.toNat - '0'.toNat)) 0

/-- Reads as many digits as there are, within bounds. -/
def number (least most : Nat) (text : List Char) : Option (Nat × List Char) :=
  let digits := (text.take most).takeWhile Char.isDigit
  if digits.length < least then none else some (digitsValue digits, text.drop digits.length)

/-- Reads a given character. -/
def sign (c : Char) : List Char → Option (List Char)
  | first :: rest => if first = c then some rest else none
  | [] => none

/-- The parts of a date and a time of day as they are read. -/
structure Fields where
  year : Int := 0
  month : Nat := 0
  day : Nat := 0
  hour : Nat := 0
  minute : Nat := 0
  second : Nat := 0
  nanoseconds : Nat := 0
  deriving DecidableEq, Repr

/-- The instant of the parts, if the date exists and the time of day is valid. A sixtieth second
    is a leap second after any minute. -/
def Fields.instant? (fields : Fields) : Option Instant :=
  let date : Date := ⟨fields.year, fields.month, fields.day⟩
  if Calendar.exists? date ∧ fields.hour < 24 ∧ fields.minute < 60 ∧ fields.second ≤ 60 then
    if fields.second = 60 then
      some (ofDate date fields.hour fields.minute 59 (fields.nanoseconds + 1000000000))
    else some (ofDate date fields.hour fields.minute fields.second fields.nanoseconds)
  else none

/-- Reads the offset of a time zone: `Z`, or a sign, hours and minutes. The value is in
    seconds. -/
def offset : List Char → Option (Int × List Char)
  | 'Z' :: rest => some (0, rest)
  | 'z' :: rest => some (0, rest)
  | first :: rest => do
    let direction : Int ←
      if first = '+' then some 1
      else if first = '-' ∨ first = '\u2212' then some (-1)
      else none
    let (hours, rest) ← number 2 2 rest
    let rest ← sign ':' rest
    let (minutes, rest) ← number 2 2 rest
    if hours < 24 ∧ minutes < 60 then some (direction * (hours * 3600 + minutes * 60 : Nat), rest)
    else none
  | [] => none

/-- Reads a fraction of a second. Digits beyond the ninth do not count. -/
def fraction (text : List Char) : Option (Nat × List Char) := do
  match text with
  | '.' :: rest =>
    let (_, after) ← number 1 9 rest
    let digits := rest.take (rest.length - after.length)
    some (digitsValue digits * Nat.pow 10 (9 - digits.length), after.dropWhile Char.isDigit)
  | _ => some (0, text)

/-- Reads an instant as RFC 3339 has it. A blank may stand for the `T`. -/
def ofRfc3339? (text : List Char) : Option Instant := do
  let (year, text) ← number 4 4 text
  let text ← sign '-' text
  let (month, text) ← number 2 2 text
  let text ← sign '-' text
  let (day, text) ← number 2 2 text
  let text ← (sign 'T' text).orElse fun _ => (sign 't' text).orElse fun _ => sign ' ' text
  let (hour, text) ← number 2 2 text
  let text ← sign ':' text
  let (minute, text) ← number 2 2 text
  let text ← sign ':' text
  let (second, text) ← number 2 2 text
  let (nanoseconds, text) ← fraction text
  let (offset, text) ← offset text
  if !text.isEmpty then none
  let reading ← Fields.instant? { year := year, month, day, hour, minute, second, nanoseconds }
  some { reading with seconds := reading.seconds - offset }

/-- The pieces of a plain form. -/
inductive Piece
  | year | month | day | hour | minute | second
  /-- A character that has to stand there. -/
  | mark (c : Char)
  /-- Any number of blanks. -/
  | gap
  deriving DecidableEq, Repr

/-- Reads a number of at most two digits, after any number of blanks. -/
def shortNumber (text : List Char) : Option (Nat × List Char) := number 1 2 (Text.trimStart text)

/-- Reads a year, after any number of blanks: up to four digits, or a sign and any number of
    digits. -/
def yearNumber (text : List Char) : Option (Int × List Char) :=
  match Text.trimStart text with
  | '-' :: rest => (number 1 rest.length rest).map fun (value, after) => (-(value : Int), after)
  | '+' :: rest => (number 1 rest.length rest).map fun (value, after) => ((value : Int), after)
  | text => (number 1 4 text).map fun (value, after) => ((value : Int), after)

/-- Reads one piece of a plain form. -/
def Piece.read (fields : Fields) (text : List Char) : Piece → Option (Fields × List Char)
  | year => (yearNumber text).map fun (value, after) => ({ fields with year := value }, after)
  | month => (shortNumber text).map fun (value, after) => ({ fields with month := value }, after)
  | day => (shortNumber text).map fun (value, after) => ({ fields with day := value }, after)
  | hour => (shortNumber text).map fun (value, after) => ({ fields with hour := value }, after)
  | minute => (shortNumber text).map fun (value, after) => ({ fields with minute := value }, after)
  | second => (shortNumber text).map fun (value, after) => ({ fields with second := value }, after)
  | mark c => (sign c text).map (fields, ·)
  | gap => some (fields, Text.trimStart text)

/-- Reads the pieces of a plain form up to the end of the text. -/
def ofLayout? (layout : List Piece) (text : List Char) : Option Instant := do
  let (fields, rest) ← layout.foldlM (fun (fields, rest) piece => piece.read fields rest)
    (({} : Fields), text)
  if rest.isEmpty then fields.instant? else none

/-- A date with the year first. -/
def yearFirst : List Piece := [.year, .mark '-', .month, .mark '-', .day]

/-- A date with the month first and a given mark between its parts. -/
def monthFirst (c : Char) : List Piece := [.month, .mark c, .day, .mark c, .year]

/-- The plain forms. -/
def layouts : List (List Piece) := [
  yearFirst ++ [.gap, .hour, .mark ':', .minute, .mark ':', .second],
  yearFirst ++ [.gap, .hour, .mark ':', .minute],
  yearFirst ++ [.mark 'T', .hour, .mark ':', .minute, .mark ':', .second],
  yearFirst,
  monthFirst '/',
  monthFirst '.']

/-- The instant that a text denotes. -/
def read? (text : String) : Option Instant :=
  let text := Text.trim text.toList
  (ofRfc3339? text).orElse fun _ => layouts.findSome? fun layout => ofLayout? layout text

end FileQuery.Instant

import FileQuery.Script.Arithmetic
import FileQuery.Text.Utf8

/-!
# Formatted output of scripts

What scripts write: texts in which a backslash starts an escape, and formats in which a percent
sign starts a directive for an operand.
-/

namespace FileQuery.Script

/-! ### Escapes -/

/-- Whether a character is an octal digit. -/
def isOctal (c : Char) : Bool := '0' ≤ c && c ≤ '7'

/-- The bytes that letters after a backslash stand for. -/
def escapeBytes : List (Char × UInt8) := [
  ('a', 7), ('b', 8), ('e', 27), ('f', 12), ('n', 10), ('r', 13), ('t', 9), ('v', 11), ('\\', 92)]

/-- The bytes of a character. -/
def characterBytes (c : Char) : List UInt8 := Text.encode (String.ofList [c])

/-- The bytes of what follows a backslash, and the rest of the text. Digits that write a byte may
    have a zero more before them. -/
def escaped (zero : Bool) (text : List Char) : List UInt8 × List Char :=
  match text with
  | [] => ([92], [])
  | c :: rest =>
    if isOctal c then
      let digits := (text.take (if zero && c = '0' then 4 else 3)).takeWhile isOctal
      ([UInt8.ofNat (spanNumber 8 digits).1], text.drop digits.length)
    else
      match escapeBytes.lookup c with
      | some byte => ([byte], rest)
      | none => ([92], text)

/-- The bytes of a text with escapes, and whether an escape ends all output. -/
def unescaped : Nat → List Char → List UInt8 × Bool
  | 0, _ => ([], false)
  | _, [] => ([], false)
  | fuel + 1, '\\' :: rest =>
    if rest.head? = some 'c' then ([], true)
    else
      let (bytes, rest) := escaped true rest
      let (more, ended) := unescaped fuel rest
      (bytes ++ more, ended)
  | fuel + 1, c :: rest =>
    let (more, ended) := unescaped fuel rest
    (characterBytes c ++ more, ended)

/-! ### Decimal numbers -/

/-- A number that digits with a point and an exponent write. -/
structure Decimal where
  negative : Bool
  digits : Nat
  /-- The power of ten that the digits are multiplied by. -/
  scale : Int
  deriving DecidableEq, Repr

namespace Decimal

/-- The decimal number at the start of a text, and the rest. -/
def read? (text : List Char) : Option (Decimal × List Char) :=
  let body := Expression.skipBlanks text
  let (negative, body) := match body with
    | '-' :: rest => (true, rest)
    | '+' :: rest => (false, rest)
    | _ => (false, body)
  let whole := body.takeWhile Char.isDigit
  let after := body.drop whole.length
  let part := match after with
    | '.' :: rest => rest.takeWhile Char.isDigit
    | _ => []
  if whole.isEmpty && part.isEmpty then none
  else
    let after := match after with
      | '.' :: rest => rest.drop part.length
      | _ => after
    let (power, after) : Int × List Char := match after with
      | e :: rest =>
        match if e = 'e' ∨ e = 'E' then signedNumber rest else none with
        | some (_, _) =>
          let negative := rest.head? = some '-'
          let digits := rest.dropWhile fun c => c = '-' || c = '+'
          let (power, after) := spanNumber 10 digits
          (if negative then -(power : Int) else power, after)
        | none => (0, after)
      | [] => (0, after)
    some (⟨negative, (spanNumber 10 (whole ++ part)).1, power - part.length⟩, after)

/-- The whole number next to a quotient. Of two that are as near the even one is taken. -/
def nearest (number divisor : Nat) : Nat :=
  let quotient := number / divisor
  let twice := 2 * (number % divisor)
  if twice < divisor then quotient
  else if divisor < twice then quotient + 1
  else quotient + quotient % 2

/-- Digits multiplied by a power of ten, to the next whole number. -/
def shifted (digits : Nat) (power : Int) : Nat :=
  if 0 ≤ power then digits * Nat.pow 10 power.toNat else nearest digits (Nat.pow 10 power.natAbs)

/-- Digits with a point before the last ones. -/
def pointed (places digits : Nat) : String :=
  let text := toString digits
  let text := String.ofList (List.replicate (places + 1 - text.length) '0') ++ text
  if places = 0 then text
  else
    String.ofList (text.toList.take (text.length - places)) ++ "." ++
      String.ofList (text.toList.drop (text.length - places))

/-- A number with some places after its point. -/
def fixed (places : Nat) (number : Decimal) : String :=
  pointed places (shifted number.digits (number.scale + places))

/-- The power of ten of the first digit, and the digits with some places after the first one. -/
def leading (places : Nat) (number : Decimal) : Int × Nat :=
  if number.digits = 0 then (0, 0)
  else
    let count := (toString number.digits).length
    let digits := shifted number.digits (places - (count - 1 : Nat))
    let power := number.scale + (count - 1 : Nat)
    if (toString digits).length = places + 2 then (power + 1, digits / 10) else (power, digits)

/-- A power of ten after a letter. -/
def powerText (letter : String) (power : Int) : String :=
  let digits := toString power.natAbs
  letter ++ (if power < 0 then "-" else "+") ++ (if digits.length < 2 then "0" else "") ++ digits

/-- A number with one digit before its point. -/
def scientific (letter : String) (places : Nat) (number : Decimal) : String :=
  let (power, digits) := leading places number
  pointed places digits ++ powerText letter power

/-- A text without zeros at the end of its places. -/
def shortened (text : String) : String :=
  if text.toList.contains '.' then
    let rest := text.toList.reverse.dropWhile (· = '0')
    String.ofList (rest.dropWhile (· = '.')).reverse
  else text

/-- A number with some digits, in the shorter of both forms. -/
def general (letter : String) (places : Nat) (number : Decimal) : String :=
  let count := max places 1
  let (power, digits) := leading (count - 1) number
  if -4 ≤ power ∧ power < count then shortened (number.fixed (count - 1 - power).toNat)
  else shortened (pointed (count - 1) digits) ++ powerText letter power

end Decimal

/-! ### Directives -/

/-- What a directive says about the form of its operand. -/
structure Form where
  flags : List Char
  width : Nat
  precision : Option Nat
  deriving DecidableEq, Repr

namespace Form

/-- Bytes that are filled up to the width. -/
def filled (form : Form) (bytes : List UInt8) : List UInt8 :=
  let blanks := List.replicate (form.width - bytes.length) 32
  if form.flags.contains '-' then bytes ++ blanks else blanks ++ bytes

/-- The sign of a number. -/
def sign (form : Form) (negative : Bool) : String :=
  if negative then "-"
  else if form.flags.contains '+' then "+"
  else if form.flags.contains ' ' then " "
  else ""

/-- Digits after a sign, with zeros up to the width if the form has them. -/
def signed (form : Form) (sign digits : String) (mayFill : Bool) : List UInt8 :=
  let zeros :=
    if mayFill && form.flags.contains '0' && !form.flags.contains '-' then
      form.width - sign.length - digits.length
    else 0
  form.filled (Text.encode (sign ++ String.ofList (List.replicate zeros '0') ++ digits))

/-- The digits of a whole number after a sign. -/
def number (form : Form) (sign digits : String) : List UInt8 :=
  match form.precision with
  | some count =>
    let zeros := String.ofList (List.replicate (count - digits.length) '0')
    form.signed sign (zeros ++ digits) false
  | none => form.signed sign digits true

/-- Bytes that are cut to the precision. -/
def text (form : Form) (bytes : List UInt8) : List UInt8 :=
  form.filled (match form.precision with
    | some count => bytes.take count
    | none => bytes)

/-- A whole number in the form that a letter asks for. -/
def whole (form : Form) (letter : Char) (value : Int) : List UInt8 :=
  let bits := (UInt64.ofInt value).toNat
  let digits (base : Nat) := String.ofList (Nat.toDigits base bits)
  let mark (text : String) := if form.flags.contains '#' && bits != 0 then text else ""
  match letter with
  | 'o' => form.number (mark "0") (digits 8)
  | 'x' => form.number (mark "0x") (digits 16)
  | 'X' => form.number (mark "0X") (String.ofList ((digits 16).toList.map Char.toUpper))
  | 'u' => form.number "" (digits 10)
  | _ => form.number (form.sign (value < 0)) (toString value.natAbs)

/-- A decimal number in the form that a letter asks for. -/
def decimal (form : Form) (letter : Char) (value : Decimal) : List UInt8 :=
  let places := form.precision.getD 6
  let exponent := if letter.isUpper then "E" else "e"
  let digits := match letter.toLower with
    | 'f' => value.fixed places
    | 'e' => value.scientific exponent places
    | _ => value.general exponent places
  form.signed (form.sign value.negative) digits true

end Form

/-- What a directive makes of its operand. -/
structure Written where
  bytes : List UInt8
  /-- Why the operand is not what the directive asks for. -/
  complaint : Option String
  /-- Whether all output ends here. -/
  ended : Bool

namespace Written

/-- Bytes without a complaint. -/
def plain (bytes : List UInt8) : Written := ⟨bytes, none, false⟩

/-- The largest and the smallest number of 64 bits. -/
def limits : Int × Int := (-9223372036854775808, 9223372036854775807)

/-- The complaint about an operand that should be a number, given what follows the number. -/
def complaint? (operand : String) (rest : Option (List Char)) : Option String :=
  match rest with
  | none => if operand.isEmpty then none else some (operand ++ ": expected numeric value")
  | some [] => none
  | some _ => some (operand ++ ": not completely converted")

/-- The whole number that an operand writes, with a complaint if it does not. A quote stands before
    a character whose number is meant. -/
def wholeOperand (operand : String) : Int × Option String :=
  match operand.toList with
  | '\'' :: c :: _ | '"' :: c :: _ => (((characterBytes c).headD 0).toNat, none)
  | text =>
    match signedNumber text with
    | none => (0, complaint? operand none)
    | some (value, rest) =>
      if value < limits.1 then (limits.1, some (operand ++ ": Numerical result out of range"))
      else if limits.2 < value then
        (limits.2, some (operand ++ ": Numerical result out of range"))
      else (value, complaint? operand (some rest))

/-- The decimal number that an operand writes, with a complaint if it does not. -/
def decimalOperand (operand : String) : Decimal × Option String :=
  match Decimal.read? operand.toList with
  | none => (⟨false, 0, 0⟩, complaint? operand none)
  | some (value, rest) => (value, complaint? operand (some rest))

/-- What a directive with a letter makes of an operand, if the letter has a meaning. -/
def ofOperand (form : Form) (letter : Char) (operand : String) : Option Written :=
  if ['d', 'i', 'u', 'o', 'x', 'X'].contains letter then
    let (value, complaint) := wholeOperand operand
    some ⟨form.whole letter value, complaint, false⟩
  else if ['f', 'F', 'e', 'E', 'g', 'G'].contains letter then
    let (value, complaint) := decimalOperand operand
    some ⟨form.decimal letter value, complaint, false⟩
  else if letter = 'c' then some (plain ((form.text ((Text.encode operand).take 1))))
  else if letter = 's' then some (plain (form.text (Text.encode operand)))
  else if letter = 'b' then
    let (bytes, ended) := unescaped operand.length operand.toList
    some ⟨form.text bytes, none, ended⟩
  else none

end Written

/-- A number in a directive, which may be taken from the operands, with the rest. -/
def directiveNumber (text : List Char) (operands : List String) :
    Option Int × List Char × List String :=
  match text with
  | '*' :: rest => (some (Written.wholeOperand (operands.headD "")).1, rest, operands.drop 1)
  | _ =>
    let digits := text.takeWhile Char.isDigit
    (if digits.isEmpty then none else some (spanNumber 10 digits).1, text.drop digits.length,
      operands)

/-- The form of a directive after its percent sign, with the rest. -/
def directive (text : List Char) (operands : List String) : Form × List Char × List String :=
  let isFlag (c : Char) := ['-', '+', ' ', '#', '0'].contains c
  let flags := text.takeWhile isFlag
  let (width, rest, operands) := directiveNumber (text.drop flags.length) operands
  let flags := if width.any (· < 0) then '-' :: flags else flags
  let width := (width.map Int.natAbs).getD 0
  match rest with
  | '.' :: rest =>
    let (precision, rest, operands) := directiveNumber rest operands
    (⟨flags, width, some ((precision.map Int.toNat).getD 0)⟩, rest, operands)
  | rest => (⟨flags, width, none⟩, rest, operands)

/-- What a format writes, what it complains about, and the operands that it leaves. -/
structure Formatted where
  bytes : List UInt8
  complaints : List String
  rest : List String
  /-- Why nothing more is written, if it is an error. -/
  flaw : Option String
  /-- Whether all output ends here. -/
  ended : Bool

namespace Formatted

/-- The end of a format. -/
def last (operands : List String) : Formatted := ⟨[], [], operands, none, false⟩

/-- Bytes before the rest of a format. -/
def before (bytes : List UInt8) (later : Formatted) : Formatted :=
  { later with bytes := bytes ++ later.bytes }

/-- What a format writes that is used once. -/
def once : Nat → List Char → List String → Formatted
  | 0, _, operands => last operands
  | _, [], operands => last operands
  | fuel + 1, '\\' :: rest, operands =>
    let (bytes, rest) := escaped false rest
    before bytes (once fuel rest operands)
  | fuel + 1, '%' :: '%' :: rest, operands => before [37] (once fuel rest operands)
  | fuel + 1, '%' :: text, operands =>
    let (form, rest, operands) := directive text operands
    match rest with
    | [] => { last operands with flaw := some "missing format character" }
    | letter :: after =>
      match Written.ofOperand form letter (operands.headD "") with
      | none =>
        let shown := '%' :: text.take (text.length - after.length)
        { last operands with flaw := some (String.ofList shown ++ ": invalid directive") }
      | some written =>
        if written.ended then ⟨written.bytes, [], [], none, true⟩
        else
          let later := before written.bytes (once fuel after (operands.drop 1))
          { later with complaints := written.complaint.toList ++ later.complaints }
  | fuel + 1, c :: rest, operands => before (characterBytes c) (once fuel rest operands)

/-- What a format writes that is used until no operand is left. -/
def all : Nat → List Char → List String → Formatted
  | 0, format, operands => once format.length format operands
  | fuel + 1, format, operands =>
    let first := once format.length format operands
    if first.ended || first.flaw.isSome || first.rest.isEmpty ||
        first.rest.length = operands.length then first
    else
      let later := all fuel format first.rest
      { later with
        bytes := first.bytes ++ later.bytes
        complaints := first.complaints ++ later.complaints }

end Formatted

/-- The bytes that `echo` writes. Escapes have their meaning if `escapes` is set. -/
def echoed (escapes : Bool) (newline : Bool) (operands : List String) : List UInt8 :=
  let text := String.intercalate " " operands
  let (bytes, ended) := if escapes then unescaped text.length text.toList
    else (Text.encode text, false)
  if ended || !newline then bytes else bytes ++ [10]

end FileQuery.Script

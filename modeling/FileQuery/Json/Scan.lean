import FileQuery.Number
import FileQuery.Number.Text
import FileQuery.Text.Literal
import FileQuery.Text.Utf8
import FileQuery.Unicode.Ranges

/-!
# Reading JSON texts

The flaws of JSON texts, their numbers, and the scanners that readers of values are made of.
-/

/-!
## Flaws of JSON texts

Why a text is not the JSON value that is wanted. A flaw has a place: a line, and a column that
counts the bytes of the line before it.
-/

namespace FileQuery

/-- A value where another one is wanted. -/
inductive FoundValue
  | null
  | bool (value : Bool)
  | integer (value : Int)
  | fraction (value : Number)
  | string (value : String)
  | list
  | object
  deriving DecidableEq, Repr

/-- The words for a value. -/
def FoundValue.text : FoundValue → String
  | null => "null"
  | bool value => "boolean `" ++ (if value then "true" else "false") ++ "`"
  | integer value => "integer `" ++ toString value ++ "`"
  | fraction value => "floating point `" ++ value.mixedText ++ "`"
  | string value => "string " ++ Text.literal value
  | list => "sequence"
  | object => "map"

/-- Why a text is not the JSON value that is wanted. -/
inductive JsonFlaw
  | endInList
  | endInObject
  | endInString
  | endInValue
  | noColon
  | noCommaInList
  | noCommaInObject
  | unknownWord
  | noValue
  | badEscape
  | badNumber
  | numberOutOfRange
  | controlCharacter
  | keyNotString
  | loneSurrogate
  | trailingComma
  | trailingCharacters
  | unfinishedSurrogate
  | mismatch (found : FoundValue) (wanted : String)
  | duplicate (member : String)
  deriving DecidableEq, Repr

/-- The description of a flaw. -/
def JsonFlaw.message : JsonFlaw → String
  | endInList => "EOF while parsing a list"
  | endInObject => "EOF while parsing an object"
  | endInString => "EOF while parsing a string"
  | endInValue => "EOF while parsing a value"
  | noColon => "expected `:`"
  | noCommaInList => "expected `,` or `]`"
  | noCommaInObject => "expected `,` or `\x7d`"
  | unknownWord => "expected ident"
  | noValue => "expected value"
  | badEscape => "invalid escape"
  | badNumber => "invalid number"
  | numberOutOfRange => "number out of range"
  | controlCharacter => "control character (\\u0000-\\u001F) found while parsing a string"
  | keyNotString => "key must be a string"
  | loneSurrogate => "lone leading surrogate in hex escape"
  | trailingComma => "trailing comma"
  | trailingCharacters => "trailing characters"
  | unfinishedSurrogate => "unexpected end of hex escape"
  | mismatch found wanted => "invalid type: " ++ found.text ++ ", expected " ++ wanted
  | duplicate member => "duplicate field `" ++ member ++ "`"

/-- A flaw and its place. -/
structure JsonError where
  flaw : JsonFlaw
  /-- The number of bytes after the place. -/
  after : Nat
  deriving DecidableEq, Repr

namespace JsonError

/-- A flaw before a text. -/
def before (flaw : JsonFlaw) (rest : List Char) : JsonError := ⟨flaw, Text.byteLength rest⟩

/-- A flaw that is some bytes into a text, or at its end. -/
def within (flaw : JsonFlaw) (bytes : Nat) (rest : List Char) : JsonError :=
  ⟨flaw, Text.byteLength rest - bytes⟩

/-- The line and the column of a place that is a number of bytes into a text, counted on from
    those of the start of the text. -/
def place (line column : Nat) : List Char → Nat → Nat × Nat
  | [], _ => (line, column)
  | c :: rest, bytes =>
    if bytes < c.utf8Size then (line, column + bytes)
    else if c = '\n' then place (line + 1) 0 rest (bytes - 1)
    else place line (column + c.utf8Size) rest (bytes - c.utf8Size)

/-- The description of an error in a text. -/
def message (error : JsonError) (text : String) : String :=
  let (line, column) := place 1 0 text.toList (Text.byteLength text.toList - error.after)
  error.flaw.message ++ " at line " ++ toString line ++ " column " ++ toString column

end JsonError

end FileQuery

/-!
## Numbers of JSON texts

A number is read from left to right. Its digits are collected as long as they fit in sixty-four
bits, and those after that only count. What has been collected is scaled by a power of ten in the
end, so a number need not be read as the nearest one.
-/

namespace FileQuery.JsonText

/-- The exponent of a number as it is written. -/
structure WrittenExponent where
  negative : Bool
  digits : List Char
  deriving DecidableEq, Repr

/-- A number as it is written, without its sign. -/
structure WrittenNumber where
  whole : List Char
  /-- What stands after the point. -/
  places : List Char
  exponent : Option WrittenExponent
  deriving DecidableEq, Repr

/-- The first number that does not fit in sixty-four bits. -/
def wordRange : Nat := Nat.pow 2 64

/-- The first number that is too large for an exponent. -/
def exponentRange : Nat := Nat.pow 2 31

/-- Collects digits after a number as long as it stays in a range, and tells the others. -/
def collect (range : Nat) : Nat → List Char → Nat × List Char
  | value, [] => (value, [])
  | value, c :: rest =>
    let next := 10 * value + (c.toNat - '0'.toNat)
    if next < range then collect range next rest else (value, c :: rest)

/-- The value of a number, or else the digits that are not read because it is too large
    already. -/
def WrittenNumber.value (negative : Bool) (written : WrittenNumber) :
    Except (List Char) FoundValue :=
  let sign (value : Number) := if negative then value.opposite else value
  let (whole, dropped) := collect wordRange 0 written.whole
  let integral := written.places.isEmpty && written.exponent.isNone && dropped.isEmpty
  let limit := Nat.pow 2 63
  if integral && (if negative then 0 < whole && whole ≤ limit else true) then
    .ok (.integer (if negative then -(whole : Int) else whole))
  else
    let (significand, left) := collect wordRange whole written.places
    let start : Int := dropped.length - (written.places.length - left.length : Nat)
    let scaled (exponent : Int) : Except (List Char) FoundValue :=
      match Number.scaled? significand exponent with
      | some value => .ok (.fraction (sign value))
      | none => .error []
    match written.exponent with
    | none => scaled start
    | some exponent =>
      match collect exponentRange 0 exponent.digits with
      | (value, []) => scaled (start + if exponent.negative then -(value : Int) else value)
      | (_, _ :: unread) =>
        if significand = 0 ∨ exponent.negative then .ok (.fraction (sign (.finite false 0 0)))
        else .error unread

/-- The digits before the point. A zero stands alone. -/
def readWhole (atEnd : JsonFlaw) : List Char → Except JsonError (List Char × List Char)
  | [] => .error (.before atEnd [])
  | c :: rest =>
    if c = '0' then
      match rest with
      | d :: _ => if d.isDigit then .error (.within .badNumber 1 rest) else .ok ([c], rest)
      | [] => .ok ([c], rest)
    else if c.isDigit then .ok (Number.spanDigits (c :: rest))
    else .error (.within .badNumber 1 (c :: rest))

/-- The point and the digits after it, if there is a point. -/
def readPlaces (atEnd : JsonFlaw) : List Char → Except JsonError (List Char × List Char)
  | '.' :: rest =>
    match Number.spanDigits rest with
    | ([], []) => .error (.before atEnd [])
    | ([], after) => .error (.within .badNumber 1 after)
    | found => .ok found
  | text => .ok ([], text)

/-- The digits of an exponent after its sign. -/
def readExponentDigits (atEnd : JsonFlaw) (negative : Bool) :
    List Char → Except JsonError (Option WrittenExponent × List Char)
  | [] => .error (.before atEnd [])
  | c :: rest =>
    if c.isDigit then
      let (digits, after) := Number.spanDigits (c :: rest)
      .ok (some ⟨negative, digits⟩, after)
    else .error (.within .badNumber 1 (c :: rest))

/-- The exponent, if there is one. -/
def readExponent (atEnd : JsonFlaw) :
    List Char → Except JsonError (Option WrittenExponent × List Char)
  | [] => .ok (none, [])
  | mark :: rest =>
    if mark ≠ 'e' ∧ mark ≠ 'E' then .ok (none, mark :: rest)
    else
      match rest with
      | '-' :: digits => readExponentDigits atEnd true digits
      | '+' :: digits => readExponentDigits atEnd false digits
      | digits => readExponentDigits atEnd false digits

/-- A number without its sign, with the flaw that it has if it ends too early. -/
def readUnsigned (atEnd : JsonFlaw) (text : List Char) :
    Except JsonError (WrittenNumber × List Char) := do
  let (whole, text) ← readWhole atEnd text
  let (places, text) ← readPlaces atEnd text
  let (exponent, text) ← readExponent atEnd text
  return (⟨whole, places, exponent⟩, text)

/-- A number without its sign, as a value. -/
def readNumber (negative : Bool) (text : List Char) :
    Except JsonError (FoundValue × List Char) := do
  let (written, rest) ← readUnsigned .endInValue text
  match written.value negative with
  | .ok value => return (value, rest)
  | .error unread => throw (.before .numberOutOfRange (unread ++ rest))

end FileQuery.JsonText

/-!
## Scanning JSON texts

What a reader of JSON texts is made of: words, strings, numbers, and values that are skipped
whatever they are. Each scanner takes a text and returns what it found with the rest of the text.
-/

namespace FileQuery.JsonText

/-- Whether a character may stand between the parts of a JSON text. -/
def isSpace (c : Char) : Bool := c = ' ' ∨ c = '\n' ∨ c = '\t' ∨ c = '\r'

/-- A text without the space at its start. -/
def skipSpace (text : List Char) : List Char := text.dropWhile isSpace

/-- The text after a word that it should start with. -/
def readWord : List Char → List Char → Except JsonError (List Char)
  | [], rest => .ok rest
  | _ :: _, [] => .error (.before .endInValue [])
  | c :: word, d :: rest =>
    if c = d then readWord word rest else .error (.within .unknownWord 1 (d :: rest))

/-! ### Strings -/

/-- The value of four hexadecimal digits. -/
def readHex (text : List Char) : Except JsonError (Nat × List Char) :=
  if Text.byteLength text < 4 then .error (.before .endInString [])
  else
    match (text.take 4).mapM Unicode.hexDigit? with
    | some [a, b, c, d] => .ok (((a * 16 + b) * 16 + c) * 16 + d, text.drop 4)
    | _ => .error (.within .badEscape 4 text)

/-- Whether a code is the first half of a pair. -/
def isLeading (code : Nat) : Bool := 0xD800 ≤ code && code < 0xDC00

/-- Whether a code is the second half of a pair. -/
def isTrailing (code : Nat) : Bool := 0xDC00 ≤ code && code < 0xE000

/-- The character of a pair. -/
def paired (leading trailing : Nat) : Char :=
  Char.ofNat ((leading - 0xD800) * 0x400 + (trailing - 0xDC00) + 0x10000)

/-- The character of a pair whose first half has been read. -/
def readTrailing (leading : Nat) : List Char → Except JsonError (Char × List Char)
  | [] => .error (.before .endInString [])
  | '\\' :: [] => .error (.before .endInString [])
  | '\\' :: 'u' :: rest =>
    match readHex rest with
    | .error error => .error error
    | .ok (trailing, after) =>
      if isTrailing trailing then .ok (paired leading trailing, after)
      else .error (.before .loneSurrogate after)
  | '\\' :: c :: rest => .error (.within .unfinishedSurrogate 1 (c :: rest))
  | c :: rest => .error (.within .unfinishedSurrogate 1 (c :: rest))

/-- The character of a code, or of a pair that starts with it. -/
def readCode (text : List Char) : Except JsonError (Char × List Char) :=
  match readHex text with
  | .error error => .error error
  | .ok (code, rest) =>
    if isTrailing code then .error (.before .loneSurrogate rest)
    else if isLeading code then readTrailing code rest
    else .ok (Char.ofNat code, rest)

/-- The characters that letters after a backslash stand for. -/
def escapes : List (Char × Char) := [
  ('"', '"'), ('\\', '\\'), ('/', '/'), ('b', '\x08'), ('f', '\x0c'), ('n', '\n'), ('r', '\r'),
  ('t', '\t')]

/-- The character that is written after a backslash. -/
def readEscape : List Char → Except JsonError (Char × List Char)
  | [] => .error (.before .endInString [])
  | 'u' :: rest => readCode rest
  | letter :: rest =>
    match escapes.lookup letter with
    | some c => .ok (c, rest)
    | none => .error (.within .badEscape 1 (letter :: rest))

/-- What is written after a backslash is skipped, without regard to pairs. -/
def skipEscape : List Char → Except JsonError (List Char)
  | [] => .error (.before .endInString [])
  | 'u' :: rest => (readHex rest).map (·.2)
  | letter :: rest =>
    if (escapes.lookup letter).isSome then .ok rest
    else .error (.within .badEscape 1 (letter :: rest))

theorem readHex_length {text rest : List Char} {code : Nat}
    (read : readHex text = .ok (code, rest)) : rest.length ≤ text.length := by
  unfold readHex at read
  repeat' split at read
  all_goals simp at read
  obtain ⟨_, rfl⟩ := read
  simp

theorem readTrailing_length {leading : Nat} {text rest : List Char} {c : Char}
    (read : readTrailing leading text = .ok (c, rest)) : rest.length ≤ text.length := by
  unfold readTrailing at read
  split at read <;> try simp at read
  split at read
  · simp at read
  · next found =>
    split at read
    · simp only [Except.ok.injEq, Prod.mk.injEq] at read
      have := readHex_length found
      simp only [List.length_cons, ← read.2]
      omega
    · simp at read

theorem readEscape_length {text rest : List Char} {c : Char}
    (read : readEscape text = .ok (c, rest)) : rest.length ≤ text.length := by
  unfold readEscape at read
  split at read
  · simp at read
  · unfold readCode at read
    split at read
    · simp at read
    · next found =>
      have shorter := readHex_length found
      split at read
      · simp at read
      · split at read
        · have := readTrailing_length read
          simp only [List.length_cons]
          omega
        · simp only [Except.ok.injEq, Prod.mk.injEq] at read
          simp only [List.length_cons, ← read.2]
          omega
  · split at read
    · simp only [Except.ok.injEq, Prod.mk.injEq] at read
      simp [← read.2]
    · simp at read

theorem skipEscape_length {text rest : List Char} (skipped : skipEscape text = .ok rest) :
    rest.length ≤ text.length := by
  unfold skipEscape at skipped
  split at skipped
  · simp at skipped
  · next more =>
    cases found : readHex more with
    | error error => simp [found, Except.map] at skipped
    | ok pair =>
      obtain ⟨code, after⟩ := pair
      have shorter := readHex_length found
      simp only [found, Except.map, Except.ok.injEq] at skipped
      simp only [List.length_cons, ← skipped]
      omega
  · split at skipped
    · simp only [Except.ok.injEq] at skipped
      simp [← skipped]
    · simp at skipped

/-- The string that ends with the next quote. -/
def readString (text : List Char) : Except JsonError (List Char × List Char) :=
  match text with
  | [] => .error (.before .endInString [])
  | c :: rest =>
    if c = '"' then .ok ([], rest)
    else if c = '\\' then
      match _found : readEscape rest with
      | .error error => .error error
      | .ok (d, after) => (readString after).map fun (read, final) => (d :: read, final)
    else if c.toNat < 32 then .error (.within .controlCharacter 1 (c :: rest))
    else (readString rest).map fun (read, final) => (c :: read, final)
termination_by text.length
decreasing_by
  · have := readEscape_length _found
    simp only [List.length_cons]
    omega
  · simp

/-- A string is skipped. -/
def skipString (text : List Char) : Except JsonError (List Char) :=
  match text with
  | [] => .error (.before .endInString [])
  | c :: rest =>
    if c = '"' then .ok rest
    else if c = '\\' then
      match _found : skipEscape rest with
      | .error error => .error error
      | .ok after => skipString after
    else if c.toNat < 32 then .error (.before .controlCharacter (c :: rest))
    else skipString rest
termination_by text.length
decreasing_by
  · have := skipEscape_length _found
    simp only [List.length_cons]
    omega
  · simp

/-! ### Values of any kind -/

/-- A value that is wanted to be another one. Lists and objects are not read. -/
def readOther (text : List Char) : Except JsonError (FoundValue × List Char) :=
  match text with
  | 'n' :: rest => (readWord ['u', 'l', 'l'] rest).map fun after => (.null, after)
  | 't' :: rest => (readWord ['r', 'u', 'e'] rest).map fun after => (.bool true, after)
  | 'f' :: rest => (readWord ['a', 'l', 's', 'e'] rest).map fun after => (.bool false, after)
  | '-' :: rest => readNumber true rest
  | '"' :: rest =>
    (readString rest).map fun (read, after) => (.string (String.ofList read), after)
  | '[' :: rest => .ok (.list, '[' :: rest)
  | '\x7b' :: rest => .ok (.object, '\x7b' :: rest)
  | c :: rest =>
    if c.isDigit then readNumber false (c :: rest) else .error (.within .noValue 1 (c :: rest))
  | [] => .error (.before .noValue [])

/-- The error of a value that is wanted to be another one. -/
def mismatch (wanted : String) (text : List Char) : JsonError :=
  match readOther text with
  | .error error => error
  | .ok (found, rest) => .before (.mismatch found wanted) rest

/-- What a skipped value is in. -/
inductive Enclosing
  | list
  | object
  deriving DecidableEq, Repr

/-- The key of a member and the colon after it. -/
def skipKey (text : List Char) : Except JsonError (List Char) :=
  match skipSpace text with
  | [] => .error (.before .endInObject [])
  | '"' :: rest =>
    match skipString rest with
    | .error error => .error error
    | .ok rest =>
      match skipSpace rest with
      | [] => .error (.before .endInObject [])
      | ':' :: rest => .ok rest
      | c :: rest => .error (.within .noColon 1 (c :: rest))
  | c :: rest => .error (.within .keyNotString 1 (c :: rest))

/-- What follows a value in a list or an object: the ends of what it is in, and then, where there
    is more to skip, the place of the next value and what that one is in. -/
def skipEnds : List Enclosing → List Char → Except JsonError (List Enclosing × List Char)
  | [], text => .ok ([], text)
  | inner :: outer, text =>
    match inner, skipSpace text with
    | .list, [] => .error (.before .endInList [])
    | .list, ',' :: rest => .ok (.list :: outer, rest)
    | .list, ']' :: rest => skipEnds outer rest
    | .list, c :: rest => .error (.within .noCommaInList 1 (c :: rest))
    | .object, [] => .error (.before .endInObject [])
    | .object, ',' :: rest => (skipKey rest).map fun rest => (.object :: outer, rest)
    | .object, '\x7d' :: rest => skipEnds outer rest
    | .object, c :: rest => .error (.within .noCommaInObject 1 (c :: rest))

/-- The start of a value, with the ends after it. -/
def skipStart (enclosing : List Enclosing) (text : List Char) :
    Except JsonError (List Enclosing × List Char) :=
  match skipSpace text with
  | [] => .error (.before .endInValue [])
  | 'n' :: rest => readWord ['u', 'l', 'l'] rest >>= skipEnds enclosing
  | 't' :: rest => readWord ['r', 'u', 'e'] rest >>= skipEnds enclosing
  | 'f' :: rest => readWord ['a', 'l', 's', 'e'] rest >>= skipEnds enclosing
  | '-' :: rest => readUnsigned .badNumber rest >>= fun found => skipEnds enclosing found.2
  | '"' :: rest => skipString rest >>= skipEnds enclosing
  | '[' :: rest =>
    match skipSpace rest with
    | [] => .error (.before .endInList [])
    | ']' :: rest => skipEnds enclosing rest
    | rest => .ok (.list :: enclosing, rest)
  | '\x7b' :: rest =>
    match skipSpace rest with
    | [] => .error (.before .endInObject [])
    | '\x7d' :: rest => skipEnds enclosing rest
    | rest => (skipKey rest).map fun rest => (.object :: enclosing, rest)
  | c :: rest =>
    if c.isDigit then
      readUnsigned .badNumber (c :: rest) >>= fun found => skipEnds enclosing found.2
    else .error (.within .noValue 1 (c :: rest))

/-- A value is skipped. Every start takes a character at least, which bounds their number. -/
def skipValues : Nat → List Enclosing → List Char → Except JsonError (List Char)
  | 0, _, text => .error (.before .noValue text)
  | count + 1, enclosing, text =>
    match skipStart enclosing text with
    | .error error => .error error
    | .ok ([], rest) => .ok rest
    | .ok (inner :: outer, rest) => skipValues count (inner :: outer) rest

/-- A value of any kind is skipped. -/
def skipValue (text : List Char) : Except JsonError (List Char) :=
  skipValues (text.length + 1) [] text

end FileQuery.JsonText

import FileQuery.Pattern.Syntax
import FileQuery.Text.Blank
import FileQuery.Unicode.Ranges

/-!
# Reading patterns character by character

The reader stands at a place of a pattern. Under the `x` flag blanks and comments, from a number
sign to the end of the line, are skipped where the grammar allows a break.
-/

namespace FileQuery.Pattern

/-- A reader of a pattern. -/
structure Reader where
  place : Place
  /-- The pattern from the place to the end. -/
  rest : List Char
  /-- Whether blanks and comments are skipped. -/
  spaced : Bool
  /-- The names of the groups so far and where they stand. -/
  names : List (List Char × Span)

/-- What reads a part of a pattern: it has a value and a new state, or finds a flaw. -/
abbrev Reads (α : Type) := StateT Reader (Except Flaw) α

namespace Reader

/-- The reader at the start of a pattern. -/
def start (pattern : String) : Reader := ⟨Place.start, pattern.toList, false, []⟩

/-- The next character. -/
def current? : Reads (Option Char) := do return (← get).rest.head?

/-- Whether nothing is left. -/
def atEnd : Reads Bool := do return (← get).rest.isEmpty

/-- Whether the next character is the given one. -/
def sees (c : Char) : Reads Bool := do return (← get).rest.head? == some c

/-- The place of the reader. -/
def here : Reads Place := do return (← get).place

/-- The stretch of no characters at the place of the reader. -/
def hereSpan : Reads Span := do
  let place ← here
  return ⟨place, place⟩

/-- The place after the next character. -/
def hereAfter : Reads Place := do
  let reader ← get
  return match reader.rest with
    | [] => reader.place
    | c :: _ => reader.place.after c

/-- The stretch of the next character. -/
def characterSpan : Reads Span := do return ⟨← here, ← hereAfter⟩

/-- Fails with a flaw. -/
def flaw {α : Type} (kind : FlawKind) (span : Span) : Reads α := throw { kind, span }

/-- Fails with a flaw at the next character. -/
def flawHere {α : Type} (kind : FlawKind) : Reads α := do flaw kind (← characterSpan)

/-- Passes the next character. Tells whether another follows. -/
def bump : Reads Bool := do
  let reader ← get
  match reader.rest with
  | [] => return false
  | c :: rest =>
    set { reader with place := reader.place.after c, rest := rest }
    return !rest.isEmpty

/-- Passes the given characters if they come next. -/
def bumpIf (characters : List Char) : Reads Bool := do
  if characters.isPrefixOf (← get).rest then
    for _ in characters do
      let _ ← bump
    return true
  else return false

/-- The place and the rest of a pattern after blanks and comments. -/
def skipSpace : Bool → Place → List Char → Place × List Char
  | _, place, [] => (place, [])
  | true, place, c :: rest => skipSpace (c != '\n') (place.after c) rest
  | false, place, c :: rest =>
    if Text.isBlank c then skipSpace false (place.after c) rest
    else if c = '#' then skipSpace true (place.after c) rest
    else (place, c :: rest)

/-- Passes blanks and comments if they are skipped. -/
def bumpSpace : Reads Unit := do
  let reader ← get
  if reader.spaced then
    let (place, rest) := skipSpace false reader.place reader.rest
    set { reader with place, rest }

/-- Passes the next character and then blanks and comments. Tells whether another character
    follows. -/
def bumpAndSpace : Reads Bool := do
  if ← bump then
    bumpSpace
    return !(← atEnd)
  else return false

/-- The character after the next one. -/
def peek? : Reads (Option Char) := do return (← get).rest.tail.head?

/-- The first character that is neither blank nor the start of a comment. -/
def peekPastSpace : Bool → List Char → Option Char
  | _, [] => none
  | inComment, c :: rest =>
    if Text.isBlank c then peekPastSpace inComment rest
    else if !inComment && c == '#' then peekPastSpace true rest
    else some c

/-- The character after the next one, past blanks if they are skipped. -/
def peekSpace? : Reads (Option Char) := do
  let reader ← get
  return if reader.spaced then peekPastSpace false reader.rest.tail else reader.rest.tail.head?

/-- Passes characters as long as they satisfy a test, together with the blanks and comments after
    each if `spaced` says so. The passed characters are the value. The count bounds the number of
    characters, so the length of the rest is enough. -/
def bumpWhile (spaced : Bool) (test : Char → Bool) : Nat → Reads (List Char)
  | 0 => return []
  | count + 1 => do
    match ← current? with
    | some c =>
      if test c then
        let _ ← if spaced then bumpAndSpace else bump
        return c :: (← bumpWhile spaced test count)
      else return []
    | none => return []

/-- Passes all characters that satisfy a test. -/
def bumpAll (spaced : Bool) (test : Char → Bool) : Reads (List Char) := do
  bumpWhile spaced test (← get).rest.length

/-- Reads a decimal number, with blanks around it. That there is none, or one of more than 32
    bits, is a flaw in the stretch of the digits. It is returned and not yet raised, because a
    flaw further on may go before it. -/
def decimal : Reads (Except Flaw Nat) := do
  let _ ← bumpAll false Text.isBlank
  let start ← here
  let digits ← bumpAll true Char.isDigit
  let span := ⟨start, ← here⟩
  let _ ← bumpAll true Text.isBlank
  let value := digits.foldl (fun value c => 10 * value + (c.toNat - '0'.toNat)) 0
  return if digits.isEmpty then .error { kind := .repetitionCountEmpty, span }
    else if value < 0x100000000 then .ok value
    else .error { kind := .decimalInvalid, span }

/-- The character with the given code point. -/
def character? (code : Nat) : Option Char :=
  if valid : code.isValidChar then some ⟨code.toUInt32, by
    have bound : code < 0x100000000 := by
      rcases valid with below | ⟨_, below⟩ <;> omega
    simpa [UInt32.isValidChar, Nat.toUInt32, UInt32.toNat_ofNat_of_lt' bound] using valid⟩
  else none

end Reader

end FileQuery.Pattern

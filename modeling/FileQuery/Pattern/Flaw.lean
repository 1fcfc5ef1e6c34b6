import FileQuery.Text.Lines

/-!
# Flaws of patterns

A text that is no pattern has a flaw: a kind and the stretch of the text that shows it, for some
kinds with a second stretch that it conflicts with. The report of a flaw shows the pattern with
the stretches underlined and says what is wrong.
-/

namespace FileQuery.Pattern

/-- A place in a pattern. Lines and columns are counted from one. -/
structure Place where
  /-- The number of characters before the place. -/
  offset : Nat
  line : Nat
  column : Nat
  deriving DecidableEq, Repr

/-- The start of a pattern. -/
def Place.start : Place := ⟨0, 1, 1⟩

/-- The place after a character. -/
def Place.after (place : Place) (c : Char) : Place :=
  if c = '\n' then ⟨place.offset + 1, place.line + 1, 1⟩
  else ⟨place.offset + 1, place.line, place.column + 1⟩

/-- A stretch of a pattern. -/
structure Span where
  start : Place
  stop : Place
  deriving DecidableEq, Repr

/-- Whether a stretch lies within one line. -/
def Span.oneLine (span : Span) : Bool := span.start.line == span.stop.line

/-- The order of stretches: by start, then by end. -/
def Span.before (first second : Span) : Bool :=
  first.start.offset < second.start.offset ||
    (first.start.offset == second.start.offset && first.stop.offset ≤ second.stop.offset)

/-- The kinds of flaws. -/
inductive FlawKind
  | classEscapeInvalid | classRangeInvalid | classRangeLiteral | classUnclosed
  | decimalInvalid
  | escapeHexEmpty | escapeHexInvalid | escapeHexInvalidDigit
  | escapeUnexpectedEnd | escapeUnrecognized
  | flagDanglingNegation | flagDuplicate | flagRepeatedNegation | flagUnexpectedEnd
  | flagUnrecognized
  | groupNameDuplicate | groupNameEmpty | groupNameInvalid | groupNameUnexpectedEnd
  | groupUnclosed | groupUnopened
  | nestLimitExceeded (limit : Nat)
  | repetitionCountInvalid | repetitionCountEmpty | repetitionCountUnclosed | repetitionMissing
  | boundaryUnclosed | boundaryUnrecognized | boundaryUnexpectedEnd
  | unicodeClassInvalid
  | backreference | lookAround
  | unicodeNotAllowed | invalidUtf8 | propertyNotFound | propertyValueNotFound
  deriving DecidableEq, Repr

/-- What a kind of flaw says. -/
def FlawKind.message : FlawKind → String
  | classEscapeInvalid => "invalid escape sequence found in character class"
  | classRangeInvalid => "invalid character class range, the start must be <= the end"
  | classRangeLiteral => "invalid range boundary, must be a literal"
  | classUnclosed => "unclosed character class"
  | decimalInvalid => "decimal literal invalid"
  | escapeHexEmpty => "hexadecimal literal empty"
  | escapeHexInvalid => "hexadecimal literal is not a Unicode scalar value"
  | escapeHexInvalidDigit => "invalid hexadecimal digit"
  | escapeUnexpectedEnd => "incomplete escape sequence, reached end of pattern prematurely"
  | escapeUnrecognized => "unrecognized escape sequence"
  | flagDanglingNegation => "dangling flag negation operator"
  | flagDuplicate => "duplicate flag"
  | flagRepeatedNegation => "flag negation operator repeated"
  | flagUnexpectedEnd => "expected flag but got end of regex"
  | flagUnrecognized => "unrecognized flag"
  | groupNameDuplicate => "duplicate capture group name"
  | groupNameEmpty => "empty capture group name"
  | groupNameInvalid => "invalid capture group character"
  | groupNameUnexpectedEnd => "unclosed capture group name"
  | groupUnclosed => "unclosed group"
  | groupUnopened => "unopened group"
  | nestLimitExceeded limit =>
    "exceed the maximum number of nested parentheses/brackets (" ++ toString limit ++ ")"
  | repetitionCountInvalid => "invalid repetition count range, the start must be <= the end"
  | repetitionCountEmpty => "repetition quantifier expects a valid decimal"
  | repetitionCountUnclosed => "unclosed counted repetition"
  | repetitionMissing => "repetition operator missing expression"
  | boundaryUnclosed =>
    "special word boundary assertion is either unclosed or contains an invalid character"
  | boundaryUnrecognized =>
    "unrecognized special word boundary assertion, valid choices are: start, end, start-half or " ++
      "end-half"
  | boundaryUnexpectedEnd =>
    "found either the beginning of a special word boundary or a bounded repetition on a \\b " ++
      "with an opening brace, but no closing brace"
  | unicodeClassInvalid => "invalid Unicode character class"
  | backreference => "backreferences are not supported"
  | lookAround => "look-around, including look-ahead and look-behind, is not supported"
  | unicodeNotAllowed => "Unicode not allowed here"
  | invalidUtf8 => "pattern can match invalid UTF-8"
  | propertyNotFound => "Unicode property not found"
  | propertyValueNotFound => "Unicode property value not found"

/-- A flaw of a pattern. -/
structure Flaw where
  kind : FlawKind
  span : Span
  /-- The earlier stretch that the flaw conflicts with, such as the first of two equal names. -/
  earlier : Option Span := none
  deriving DecidableEq, Repr

namespace Flaw

/-- A line of carets under the stretches of one line, which are in order. -/
def underline : Nat → List Span → List Char
  | _, [] => []
  | column, span :: rest =>
    let blanks := span.start.column - 1 - column
    let carets := max 1 (span.stop.column - span.start.column)
    List.replicate blanks ' ' ++ List.replicate carets '^' ++
      underline (column + blanks + carets) rest

/-- A number in a column of the given width. -/
def padded (width number : Nat) : String :=
  let digits := toString number
  String.ofList (List.replicate (width - digits.length) ' ') ++ digits

/-- The stretches of a flaw in order. -/
def spans (flaw : Flaw) : List Span :=
  match flaw.earlier with
  | none => [flaw.span]
  | some other => if other.before flaw.span then [other, flaw.span] else [flaw.span, other]

/-- The lines of a pattern, numbered if there are several, each with its stretches underlined. -/
def notated (flaw : Flaw) (pattern : String) : String :=
  let all := (Text.lines pattern.toList).map String.ofList
  let count := all.length + if pattern.toList.getLast? = some '\n' then 1 else 0
  let width := if count ≤ 1 then 0 else (toString count).length
  let marked := flaw.spans.filter Span.oneLine
  String.join <| all.zipIdx.map fun (line, index) =>
    let lead := if width = 0 then "    " else padded width (index + 1) ++ ": "
    let margin := if width = 0 then 4 else width + 2
    let here := marked.filter fun span => span.start.line == index + 1
    let below :=
      if here.isEmpty then ""
      else String.ofList (List.replicate margin ' ' ++ underline 0 here) ++ "\n"
    lead ++ line ++ "\n" ++ below

/-- Where the stretches that run over several lines begin and end. -/
def longSpanNotes (flaw : Flaw) : String :=
  match flaw.spans.filter (fun span => !span.oneLine) with
  | [] => ""
  | long => String.intercalate "\n" (long.map fun span =>
      "on line " ++ toString span.start.line ++ " (column " ++ toString span.start.column ++
      ") through line " ++ toString span.stop.line ++ " (column " ++
      toString (span.stop.column - 1) ++ ")") ++ "\n"

/-- The report of a flaw of a pattern. -/
def report (flaw : Flaw) (pattern : String) : String :=
  let error := "error: " ++ flaw.kind.message
  if pattern.toList.contains '\n' then
    let divider := String.ofList (List.replicate 79 '~') ++ "\n"
    "regex parse error:\n" ++ divider ++ flaw.notated pattern ++ divider ++ flaw.longSpanNotes
      ++ error
  else "regex parse error:\n" ++ flaw.notated pattern ++ error

end Flaw

end FileQuery.Pattern

import FileQuery.Pattern.Parser
import FileQuery.Pattern.Regular
import FileQuery.Text.Blank
import FileQuery.Unicode.Property

/-!
# Meaning of patterns

The tree of a pattern becomes a regular expression. Flags take effect from where they stand to
the end of their group. Without the `u` flag classes are of bytes: what would match a byte that
is no character by itself is a flaw, since texts are UTF-8.
-/

namespace FileQuery.Pattern

open Unicode (CharSet)

/-- The flags that decide what a part of a pattern means. -/
structure Flags where
  ignoreCase : Bool
  multiLine : Bool
  dotMatchesLineFeed : Bool
  unicode : Bool
  anyLineEnd : Bool
  deriving DecidableEq, Repr

/-- The flags at the start of a pattern. -/
def Flags.initial : Flags := ⟨false, false, false, true, false⟩

/-- The flags after flag items. -/
def Flags.apply (flags : Flags) (items : List FlagItem) : Flags where
  ignoreCase := (flagState 'i' true items).getD flags.ignoreCase
  multiLine := (flagState 'm' true items).getD flags.multiLine
  dotMatchesLineFeed := (flagState 's' true items).getD flags.dotMatchesLineFeed
  unicode := (flagState 'u' true items).getD flags.unicode
  anyLineEnd := (flagState 'R' true items).getD flags.anyLineEnd

/-- What finds the meaning of a part: it has a value and flags for what follows, or finds a
    flaw. -/
abbrev Means (α : Type) := StateT Flags (Except Flaw) α

/-- Fails with a flaw. -/
def unsound {α : Type} (kind : FlawKind) (span : Span) : Means α := throw { kind, span }

/-- Refuses what could match a lone byte beyond ASCII. -/
def requireUnicode (span : Span) : Means Unit := do
  if !(← get).unicode then unsound .invalidUtf8 span

/-- The ranges of the classes between `[:` and `:]`. -/
def NamedAscii.ranges : NamedAscii → Unicode.Ranges
  | alnum => [(0x30, 0x39), (0x41, 0x5A), (0x61, 0x7A)]
  | alpha => [(0x41, 0x5A), (0x61, 0x7A)]
  | ascii => [(0, 0x7F)]
  | blank => [(0x9, 0x9), (0x20, 0x20)]
  | cntrl => [(0, 0x1F), (0x7F, 0x7F)]
  | digit => [(0x30, 0x39)]
  | graph => [(0x21, 0x7E)]
  | lower => [(0x61, 0x7A)]
  | print => [(0x20, 0x7E)]
  | punct => [(0x21, 0x2F), (0x3A, 0x40), (0x5B, 0x60), (0x7B, 0x7E)]
  | space => [(0x9, 0xD), (0x20, 0x20)]
  | upper => [(0x41, 0x5A)]
  | word => [(0x30, 0x39), (0x41, 0x5A), (0x5F, 0x5F), (0x61, 0x7A)]
  | xdigit => [(0x30, 0x39), (0x41, 0x46), (0x61, 0x66)]

/-- The ranges of a letter class, in all scripts or in ASCII only. -/
def LetterClass.ranges (unicode : Bool) : LetterClass → Unicode.Ranges
  | digit => if unicode then Unicode.digitRanges else NamedAscii.digit.ranges
  | space => if unicode then Text.blankRanges else NamedAscii.space.ranges
  | word => if unicode then Unicode.wordRanges else NamedAscii.word.ranges

/-- A set with case variants if case is ignored. -/
def fold (set : CharSet) : Means CharSet := do
  let flags ← get
  return if !flags.ignoreCase then set else if flags.unicode then .folded set else .foldedAscii set

/-- The set itself or, if it is negated, its complement, which holds lone bytes when classes are
    of bytes. -/
def negate (span : Span) (negated : Bool) (set : CharSet) : Means CharSet := do
  if negated then
    requireUnicode span
    return .complement set
  else return set

/-- A set with case variants, and then its complement if it is negated. -/
def foldAndNegate (span : Span) (negated : Bool) (set : CharSet) : Means CharSet := do
  negate span negated (← fold set)

/-- The set of a letter class. It holds all case variants of its members already. -/
def letterSet (span : Span) (kind : LetterClass) (negated : Bool) : Means CharSet := do
  negate span negated (.ranges (kind.ranges (← get).unicode))

/-- The set of a property class. -/
def propertySet (span : Span) (negated : Bool) (query : PropertyQuery) : Means CharSet := do
  if !(← get).unicode then unsound .unicodeNotAllowed span
  let found := match query with
    | .named name => Unicode.namedProperty name
    | .valued name value => Unicode.valuedProperty name value
  match found with
  | .ok set => foldAndNegate span negated set
  | .error .unknownProperty => unsound .propertyNotFound span
  | .error .unknownValue => unsound .propertyValueNotFound span

/-- Refuses a literal that denotes a byte beyond ASCII. -/
def checkByte (literal : Literal) : Means Unit := do
  if literal.byteEscape && 0x80 ≤ literal.character.toNat then requireUnicode literal.span

/-- The code point of a literal in a class. A class of bytes has only ASCII literals. -/
def classLiteral (literal : Literal) : Means Nat := do
  checkByte literal
  if !(← get).unicode && 0x80 ≤ literal.character.toNat then
    unsound .unicodeNotAllowed literal.span
  return literal.character.toNat

mutual

/-- The meaning of a set between brackets. -/
def ClassSet.meaning : ClassSet → Means CharSet
  | .empty _ => return .empty
  | .literal sign => return .single (← classLiteral sign)
  | .range _ low high => return .range (← classLiteral low) (← classLiteral high)
  | .ascii span kind negated => foldAndNegate span negated (.ranges kind.ranges)
  | .property span negated query => propertySet span negated query
  | .letter span kind negated => letterSet span kind negated
  | .bracketed span negated set => do foldAndNegate span negated (← set.meaning)
  | .union _ items => ClassSet.unionMeaning items
  | .binary _ operator left right => do
    let left ← fold (← left.meaning)
    let right ← fold (← right.meaning)
    return match operator with
      | .intersection => .intersection left right
      | .difference => .difference left right
      | .symmetricDifference => .symmetricDifference left right

/-- The meaning of several sets together. -/
def ClassSet.unionMeaning : List ClassSet → Means CharSet
  | [] => return .empty
  | first :: rest => do return .union (← first.meaning) (← ClassSet.unionMeaning rest)

end

/-- The meaning of a literal outside brackets. -/
def literalMeaning (literal : Literal) : Means Regular := do
  checkByte literal
  return .set (← fold (.single literal.character.toNat))

/-- The meaning of a dot: any character, as a rule other than a line end. -/
def dotMeaning (span : Span) : Means Regular := do
  requireUnicode span
  let flags ← get
  return .set (.complement
    (if flags.dotMatchesLineFeed then .empty
     else if flags.anyLineEnd then .union (.single 0xA) (.single 0xD)
     else .single 0xA))

/-- The meaning of an assertion. -/
def assertionMeaning (kind : Assertion) : Means Regular := do
  let flags ← get
  let ascii := !flags.unicode
  return .look <| match kind with
    | .textStart => .textStart
    | .textEnd => .textEnd
    | .lineStart =>
      if !flags.multiLine then .textStart else if flags.anyLineEnd then .anyLineStart
      else .lineStart
    | .lineEnd =>
      if !flags.multiLine then .textEnd else if flags.anyLineEnd then .anyLineEnd else .lineEnd
    | .boundary => .boundary ascii
    | .notBoundary => .notBoundary ascii
    | .wordStart => .wordStart ascii
    | .wordEnd => .wordEnd ascii
    | .wordStartHalf => .wordStartHalf ascii
    | .wordEndHalf => .wordEndHalf ascii

mutual

/-- The meaning of a pattern. -/
def Syntax.meaning : Syntax → Means Regular
  | .empty _ => return .empty
  | .flags _ items => do
    modify (·.apply items)
    return .empty
  | .literal sign => literalMeaning sign
  | .dot span => dotMeaning span
  | .assertion _ kind => assertionMeaning kind
  | .property span negated query => return .set (← propertySet span negated query)
  | .letter span kind negated => return .set (← letterSet span kind negated)
  | .bracketed span negated set => do
    return .set (← foldAndNegate span negated (← set.meaning))
  | .repetition _ least most body => return .repetition (← body.meaning) least most
  | .group _ captures items body => do
    let outer ← get
    modify (·.apply items)
    let inner ← body.meaning
    set outer
    return .group captures inner
  | .alternation _ items => Syntax.choiceMeaning items
  | .concatenation _ items => Syntax.sequenceMeaning items

/-- The meaning of alternatives. -/
def Syntax.choiceMeaning : List Syntax → Means Regular
  | [] => return .set .empty
  | [only] => only.meaning
  | first :: rest => do return .choice (← first.meaning) (← Syntax.choiceMeaning rest)

/-- The meaning of patterns in sequence. -/
def Syntax.sequenceMeaning : List Syntax → Means Regular
  | [] => return .empty
  | [only] => only.meaning
  | first :: rest => do return .sequence (← first.meaning) (← Syntax.sequenceMeaning rest)

end

/-- The meaning of a pattern, or the first flaw that it shows. -/
def Syntax.regular (tree : Syntax) : Except Flaw Regular :=
  (tree.meaning Flags.initial).map (·.1)

end FileQuery.Pattern

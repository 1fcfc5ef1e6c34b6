import FileQuery.Pattern.Reader
import FileQuery.Unicode.Recent

/-!
# Reading patterns

The grammar of patterns: alternatives of sequences of parts, each a literal, a dot, an assertion,
a class or a group, with repetition signs after it. Where a text is no pattern, the flaw that
comes first in reading order is found.

The readers of nested parts take a bound on the number of steps. The length of the pattern is
enough, because every step passes a character.
-/

namespace FileQuery.Pattern

open Reader

/-- The characters that have a meaning in patterns, and that a backslash makes literal. -/
def metaCharacters : List Char :=
  ['\\', '.', '+', '*', '?', '(', ')', '|', '[', ']', '\x7b', '\x7d', '^', '$', '#', '&', '-', '~']

/-- Whether a backslash before a character that has no meaning makes it literal. Letters, digits
    and angle brackets are kept for meanings of their own. -/
def escapable (c : Char) : Bool := c.toNat < 0x80 && !c.isAlphanum && c != '<' && c != '>'

/-- Whether a character can stand in the name of a group. -/
def isNameCharacter (first : Bool) (c : Char) : Bool :=
  c == '_' || Unicode.isLetter c ||
    !first && (c == '.' || c == '[' || c == ']' || Unicode.isNumber c)

/-- Whether a character is a hexadecimal digit. -/
def isHexDigit (c : Char) : Bool := (Unicode.hexDigit? c).isSome

/-- The literal of hexadecimal digits. -/
def hexLiteral (digits : List Char) (flawed span : Span) (byteEscape : Bool) : Reads Literal := do
  let value := Unicode.hexNumber digits
  match if value < 0x100000000 then character? value else none with
  | some character => return { span, character, byteEscape }
  | none => flaw .escapeHexInvalid flawed

/-- Reads a fixed number of hexadecimal digits, the first of which comes next. -/
def hexFixed (count : Nat) (first : Bool) : Reads (List Char) := do
  match count with
  | 0 => return []
  | remaining + 1 =>
    if !first then
      if !(← bumpAndSpace) then flaw .escapeUnexpectedEnd (← hereSpan)
    match ← current? with
    | some c =>
      if isHexDigit c then return c :: (← hexFixed remaining false)
      else flawHere .escapeHexInvalidDigit
    | none => flaw .escapeUnexpectedEnd (← hereSpan)

/-- Reads hexadecimal digits up to the closing brace. The next character is the one before the
    first digit. -/
def hexBraced : Nat → Reads (List Char)
  | 0 => return []
  | count + 1 => do
    if ← bumpAndSpace then
      match ← current? with
      | some c =>
        if c = '\x7d' then return []
        else if isHexDigit c then return c :: (← hexBraced count)
        else flawHere .escapeHexInvalidDigit
      | none => return []
    else return []

/-- Reads the character that `\x`, `\u` or `\U` denotes. The next character is the letter. -/
def hex (letter : Char) : Reads Literal := do
  if !(← bumpAndSpace) then flaw .escapeUnexpectedEnd (← hereSpan)
  if ← sees '\x7b' then
    let brace ← here
    let start ← hereAfter
    let digits ← hexBraced (← get).rest.length
    if ← atEnd then flaw .escapeUnexpectedEnd ⟨brace, ← here⟩
    let stop ← here
    let _ ← bumpAndSpace
    if digits.isEmpty then flaw .escapeHexEmpty ⟨brace, ← here⟩
    hexLiteral digits ⟨start, stop⟩ ⟨start, ← here⟩ false
  else
    let start ← here
    let digits ← hexFixed (if letter = 'x' then 2 else if letter = 'u' then 4 else 8) true
    let _ ← bumpAndSpace
    let span := ⟨start, ← here⟩
    hexLiteral digits span span (letter = 'x')

/-- Splits a text at the first place where a separator stands. -/
def splitAt? (separator : List Char) : List Char → List Char → Option (List Char × List Char)
  | _, [] => none
  | before, c :: rest =>
    if separator.isPrefixOf (c :: rest) then
      some (before.reverse, (c :: rest).drop separator.length)
    else splitAt? separator (c :: before) rest

/-- What the text between the braces of a property class asks, and whether it asks for all other
    characters. -/
def propertyQuery (name : List Char) : PropertyQuery × Bool :=
  let valued (parts : List Char × List Char) : PropertyQuery :=
    .valued (String.ofList parts.1) (String.ofList parts.2)
  match splitAt? ['!', '='] [] name, splitAt? [':'] [] name, splitAt? ['='] [] name with
  | some parts, _, _ => (valued parts, true)
  | none, some parts, _ => (valued parts, false)
  | none, none, some parts => (valued parts, false)
  | none, none, none => (.named (String.ofList name), false)

/-- Reads the name of a property up to the closing brace. The next character is the one before
    the name. -/
def propertyName : Nat → Reads (List Char)
  | 0 => return []
  | count + 1 => do
    if ← bumpAndSpace then
      match ← current? with
      | some c => if c = '\x7d' then return [] else return c :: (← propertyName count)
      | none => return []
    else return []

/-- Reads a property class. The next character is the letter after the backslash. -/
def property (start : Place) (negated : Bool) : Reads Syntax := do
  if !(← bumpAndSpace) then flaw .escapeUnexpectedEnd (← hereSpan)
  match ← current? with
  | some '\x7b' =>
    let name ← propertyName (← get).rest.length
    if ← atEnd then flaw .escapeUnexpectedEnd (← hereSpan)
    let _ ← bump
    let (query, other) := propertyQuery name
    return .property ⟨start, ← here⟩ (negated != other) query
  | some '\\' => flawHere .unicodeClassInvalid
  | some c =>
    let _ ← bumpAndSpace
    return .property ⟨start, ← here⟩ negated (.named (String.singleton c))
  | none => flaw .escapeUnexpectedEnd (← hereSpan)

/-- Whether a character can stand in the name of a special word boundary. -/
def isBoundaryLetter (c : Char) : Bool := c.isAlpha || c == '-'

/-- Reads the name of a special word boundary between braces, if one comes next. Braces with
    anything else are left for a counted repetition. -/
def specialBoundary (boundaryStart : Place) : Reads (Option Assertion) := do
  let before ← get
  let start ← here
  if !(← bumpAndSpace) then flaw .boundaryUnexpectedEnd ⟨boundaryStart, ← here⟩
  let contents ← here
  if !((← current?).any isBoundaryLetter) then
    set before
    return none
  let name ← bumpAll true isBoundaryLetter
  if !(← sees '\x7d') then flaw .boundaryUnclosed ⟨start, ← here⟩
  let stop ← here
  let _ ← bump
  match String.ofList name with
  | "start" => return some .wordStart
  | "end" => return some .wordEnd
  | "start-half" => return some .wordStartHalf
  | "end-half" => return some .wordEndHalf
  | _ => flaw .boundaryUnrecognized ⟨contents, stop⟩

/-- The control characters that a letter after a backslash denotes. -/
def controlEscape? : Char → Option Char
  | 'a' => some '\x07'
  | 'f' => some '\x0c'
  | 't' => some '\t'
  | 'n' => some '\n'
  | 'r' => some '\r'
  | 'v' => some '\x0b'
  | _ => none

/-- The classes that a letter after a backslash denotes, and whether it is the class of all other
    characters. -/
def letterClass? : Char → Option (LetterClass × Bool)
  | 'd' => some (.digit, false)
  | 'D' => some (.digit, true)
  | 's' => some (.space, false)
  | 'S' => some (.space, true)
  | 'w' => some (.word, false)
  | 'W' => some (.word, true)
  | _ => none

/-- The assertions that a character after a backslash denotes. -/
def assertionEscape? : Char → Option Assertion
  | 'A' => some .textStart
  | 'z' => some .textEnd
  | 'B' => some .notBoundary
  | '<' => some .wordStart
  | '>' => some .wordEnd
  | _ => none

/-- Reads what a backslash begins. The next character is the backslash. -/
def escape : Reads Syntax := do
  let start ← here
  if !(← bump) then flaw .escapeUnexpectedEnd ⟨start, ← here⟩
  match ← current? with
  | none => flaw .escapeUnexpectedEnd ⟨start, ← here⟩
  | some c =>
    if c.isDigit then flaw .backreference ⟨start, ← hereAfter⟩
    if c = 'x' ∨ c = 'u' ∨ c = 'U' then
      let literal ← hex c
      return .literal { literal with span := ⟨start, literal.span.stop⟩ }
    if c = 'p' ∨ c = 'P' then return ← property start (c = 'P')
    let _ ← bump
    let span := ⟨start, ← here⟩
    match letterClass? c, controlEscape? c, assertionEscape? c with
    | some (kind, negated), _, _ => return .letter span kind negated
    | none, some character, _ => return .literal { span, character, byteEscape := false }
    | none, none, some kind => return .assertion span kind
    | none, none, none =>
      if metaCharacters.contains c || escapable c then
        return .literal { span, character := c, byteEscape := false }
      else if c = 'b' then
        if ← sees '\x7b' then
          match ← specialBoundary start with
          | some kind => return .assertion ⟨start, ← here⟩ kind
          | none => return .assertion span .boundary
        else return .assertion span .boundary
      else flaw .escapeUnrecognized span

/-- The classes between `[:` and `:]` by name. -/
def namedAscii? : String → Option NamedAscii
  | "alnum" => some .alnum
  | "alpha" => some .alpha
  | "ascii" => some .ascii
  | "blank" => some .blank
  | "cntrl" => some .cntrl
  | "digit" => some .digit
  | "graph" => some .graph
  | "lower" => some .lower
  | "print" => some .print
  | "punct" => some .punct
  | "space" => some .space
  | "upper" => some .upper
  | "word" => some .word
  | "xdigit" => some .xdigit
  | _ => none

/-- Reads a class between `[:` and `:]`. The value is none when what comes next is not one. -/
def asciiBody : Reads (Option ClassSet) := do
  let start ← here
  if !(← bump) then return none
  if !(← sees ':') then return none
  if !(← bump) then return none
  let negated ← sees '^'
  if negated then
    if !(← bump) then return none
  let name ← bumpAll false (· != ':')
  if ← atEnd then return none
  if !(← bumpIf [':', ']']) then return none
  match namedAscii? (String.ofList name) with
  | some kind => return some (.ascii ⟨start, ← here⟩ kind negated)
  | none => return none

/-- Reads a class between `[:` and `:]` if one comes next, and nothing otherwise. -/
def asciiClass? : Reads (Option ClassSet) := do
  let before ← get
  match ← asciiBody with
  | some found => return some found
  | none =>
    set before
    return none

/-- Reads one part of a class: an escape or a character. -/
def classPart : Reads Syntax := do
  match ← current? with
  | some '\\' => escape
  | some c =>
    let span ← characterSpan
    let _ ← bump
    return .literal { span, character := c, byteEscape := false }
  | none => flaw .classUnclosed (← hereSpan)

/-- What a part means in a class. Assertions mean nothing there. -/
def classItem : Syntax → Reads ClassSet
  | .literal literal => return .literal literal
  | .property span negated query => return .property span negated query
  | .letter span kind negated => return .letter span kind negated
  | other => flaw .classEscapeInvalid other.span

/-- The literal that bounds a range of a class. -/
def rangeBound : Syntax → Reads Literal
  | .literal literal => return literal
  | other => flaw .classRangeLiteral other.span

/-- Reads a character or a range of a class whose opening has the given stretch. A hyphen before
    the closing bracket or before another hyphen makes no range. -/
def classRange (opening : Span) : Reads ClassSet := do
  let first ← classPart
  bumpSpace
  if ← atEnd then flaw .classUnclosed opening
  let next ← peekSpace?
  if !(← sees '-') || next == some ']' || next == some '-' then classItem first
  else
    if !(← bumpAndSpace) then flaw .classUnclosed opening
    let second ← classPart
    let span := ⟨first.span.start, second.span.stop⟩
    let low ← rangeBound first
    let high ← rangeBound second
    if low.character.toNat ≤ high.character.toNat then return .range span low high
    else flaw .classRangeInvalid span

/-- The items of a class so far, last first, with the stretch they cover. -/
structure Items where
  span : Span
  reversed : List ClassSet

/-- One more item. -/
def Items.add (items : Items) (item : ClassSet) : Items :=
  ⟨⟨if items.reversed.isEmpty then item.span.start else items.span.start, item.span.stop⟩,
    item :: items.reversed⟩

/-- The set of all items. -/
def Items.set (items : Items) : ClassSet :=
  match items.reversed with
  | [] => .empty items.span
  | [item] => item
  | several => .union items.span several.reverse

/-- The set that a pending operator makes with its right side. -/
def applyPending (pending : Option (SetOperator × ClassSet)) (right : ClassSet) : ClassSet :=
  match pending with
  | none => right
  | some (operator, left) =>
    .binary ⟨left.span.start, right.span.stop⟩ operator left right

/-- Reads hyphens at the start of a class as literals. -/
def leadingHyphens (start : Place) : Nat → Items → Reads Items
  | 0, items => return items
  | count + 1, items => do
    if ← sees '-' then
      let span ← characterSpan
      if !(← bumpAndSpace) then flaw .classUnclosed ⟨start, start⟩
      leadingHyphens start count
        (items.add (.literal { span, character := '-', byteEscape := false }))
    else return items

/-- Reads the opening of a class: the bracket, a caret that negates it, and hyphens or a closing
    bracket that stand for themselves. -/
def classOpening : Reads (Span × Bool × Items) := do
  let start ← here
  if !(← bumpAndSpace) then flaw .classUnclosed ⟨start, ← here⟩
  let negated ← sees '^'
  if negated then
    if !(← bumpAndSpace) then flaw .classUnclosed ⟨start, ← here⟩
  let items ← leadingHyphens start (← get).rest.length ⟨← hereSpan, []⟩
  let mut items := items
  if items.reversed.isEmpty then
    if ← sees ']' then
      let span ← characterSpan
      items := items.add (.literal { span, character := ']', byteEscape := false })
      if !(← bumpAndSpace) then flaw .classUnclosed ⟨start, ← here⟩
  return (⟨start, ← here⟩, negated, items)

/-- The operator between sets that two equal characters denote. -/
def setOperator? (c : Char) (next : Option Char) : Option SetOperator :=
  if next != some c then none
  else if c = '&' then some .intersection
  else if c = '-' then some .difference
  else if c = '~' then some .symmetricDifference
  else none

mutual

/-- Reads a class: its stretch, whether it is negated, and its set. The next character is the
    opening bracket. -/
def classBody : Nat → Reads (Span × Bool × ClassSet)
  | 0 => do flaw .classUnclosed (← hereSpan)
  | steps + 1 => do
    let (opening, negated, items) ← classOpening
    classItems steps opening negated items none

/-- Reads the items of a class up to the closing bracket. -/
def classItems : Nat → Span → Bool → Items → Option (SetOperator × ClassSet) →
    Reads (Span × Bool × ClassSet)
  | 0, opening, _, _, _ => flaw .classUnclosed opening
  | steps + 1, opening, negated, items, pending => do
    bumpSpace
    match ← current? with
    | none => flaw .classUnclosed opening
    | some '[' =>
      let item ← match ← asciiClass? with
        | some found => pure found
        | none => do
          let (span, negated, set) ← classBody steps
          pure (.bracketed span negated set)
      classItems steps opening negated (items.add item) pending
    | some ']' =>
      let set := applyPending pending items.set
      let _ ← bump
      return (⟨opening.start, ← here⟩, negated, set)
    | some c =>
      match setOperator? c (← peek?) with
      | some operator =>
        let _ ← bumpIf [c, c]
        let left := applyPending pending items.set
        classItems steps opening negated ⟨← hereSpan, []⟩ (some (operator, left))
      | none =>
        let item ← classRange opening
        classItems steps opening negated (items.add item) pending

end

/-- The flags of patterns. -/
def flagLetters : List Char := ['i', 'm', 's', 'U', 'u', 'R', 'x']

/-- Reads flags up to the colon or the closing parenthesis after them. -/
def flagItems : Nat → List (FlagItem × Span) → Reads (List (FlagItem × Span))
  | 0, items => return items.reverse
  | steps + 1, items => do
    let span ← characterSpan
    match ← current? with
    | none => flaw .flagUnexpectedEnd (← hereSpan)
    | some c =>
      if c = ':' ∨ c = ')' then
        match items with
        | (.negation, dangling) :: _ => flaw .flagDanglingNegation dangling
        | _ => return items.reverse
      else
        let item : FlagItem := if c = '-' then .negation else .flag c
        if c ≠ '-' ∧ ¬ flagLetters.contains c then flaw .flagUnrecognized span
        match items.find? (·.1 == item) with
        | some (_, earlier) =>
          throw { kind := if c = '-' then .flagRepeatedNegation else .flagDuplicate
                  span, earlier := some earlier }
        | none => pure ()
        if !(← bump) then flaw .flagUnexpectedEnd (← hereSpan)
        flagItems steps ((item, span) :: items)

/-- Reads the characters of a group's name up to the closing angle bracket or the end. -/
def nameCharacters : Nat → Bool → Reads (List Char)
  | 0, _ => return []
  | steps + 1, first => do
    match ← current? with
    | none => return []
    | some '>' => return []
    | some c =>
      if isNameCharacter first c then
        let _ ← bump
        return c :: (← nameCharacters steps false)
      else flawHere .groupNameInvalid

/-- Reads the name of a group and notes it. -/
def groupName : Reads Unit := do
  if ← atEnd then flaw .groupNameUnexpectedEnd (← hereSpan)
  let start ← here
  let name ← nameCharacters (← get).rest.length true
  let stop ← here
  if ← atEnd then flaw .groupNameUnexpectedEnd (← hereSpan)
  let _ ← bump
  if name.isEmpty then flaw .groupNameEmpty ⟨start, start⟩
  let span := ⟨start, stop⟩
  match (← get).names.find? (·.1 == name) with
  | some (_, earlier) => throw { kind := .groupNameDuplicate, span, earlier := some earlier }
  | none => modify fun reader => { reader with names := (name, span) :: reader.names }

/-- What an opening parenthesis begins: flags for what follows, or a group with flags of its
    own. -/
inductive Opening
  | flags (span : Span) (items : List FlagItem)
  | group (captures : Bool) (items : List FlagItem)

/-- Reads the opening of a group. The next character is the parenthesis. -/
def groupOpening : Reads (Span × Opening) := do
  let span ← characterSpan
  let _ ← bump
  bumpSpace
  for lookAround in [['?', '='], ['?', '!'], ['?', '<', '='], ['?', '<', '!']] do
    if ← bumpIf lookAround then flaw .lookAround ⟨span.start, ← here⟩
  let inner ← hereSpan
  if ← bumpIf ['?', 'P', '<'] then
    groupName
    return (span, .group true [])
  else if ← bumpIf ['?', '<'] then
    groupName
    return (span, .group true [])
  else if ← bumpIf ['?'] then
    if ← atEnd then flaw .groupUnclosed span
    let items := (← flagItems ((← get).rest.length + 1) []).map (·.1)
    let closed ← sees ')'
    let _ ← bump
    if closed then
      if items.isEmpty then flaw .repetitionMissing inner
      return (span, .flags ⟨span.start, ← here⟩ items)
    else return (span, .group false items)
  else return (span, .group true [])

/-- Reads a repetition sign, or a count in braces, after the given parts, last first. The next
    character is the sign. -/
def repetition (parts : List Syntax) (sign : Char) : Reads (List Syntax) := do
  let start ← here
  match parts with
  | [] => flaw .repetitionMissing (← hereSpan)
  | body :: earlier =>
    if !body.repeatable then flaw .repetitionMissing (← hereSpan)
    if sign = '\x7b' then
      if !(← bumpAndSpace) then flaw .repetitionCountUnclosed ⟨start, ← here⟩
      let least ← decimal
      if ← atEnd then flaw .repetitionCountUnclosed ⟨start, ← here⟩
      let mut most : Option Nat := none
      if ← sees ',' then
        if !(← bumpAndSpace) then flaw .repetitionCountUnclosed ⟨start, ← here⟩
        if !(← sees '\x7d') then
          let _ ← least
          most := some (← (← decimal))
      else
        most := least.toOption
      let least ← least
      if !(← sees '\x7d') then flaw .repetitionCountUnclosed ⟨start, ← here⟩
      if ← bumpAndSpace then
        if ← sees '?' then
          let _ ← bump
      let span := ⟨start, ← here⟩
      if most.any (· < least) then flaw .repetitionCountInvalid span
      return .repetition ⟨body.span.start, span.stop⟩ least most body :: earlier
    else
      if ← bump then
        if ← sees '?' then
          let _ ← bump
      let stop ← here
      let least := if sign = '+' then 1 else 0
      let most := if sign = '?' then some 1 else none
      return .repetition ⟨body.span.start, stop⟩ least most body :: earlier

/-- Reads a character that stands for itself, a dot, an anchor or an escape. -/
def primitive : Reads Syntax := do
  match ← current? with
  | some '\\' => escape
  | some c =>
    let span ← characterSpan
    let _ ← bump
    match c with
    | '.' => return .dot span
    | '^' => return .assertion span .lineStart
    | '$' => return .assertion span .lineEnd
    | _ => return .literal { span, character := c, byteEscape := false }
  | none => flaw .groupUnopened (← hereSpan)

/-- A sequence of parts, given last first. One part alone is no sequence. -/
def sequence (start stop : Place) : List Syntax → Syntax
  | [] => .empty ⟨start, stop⟩
  | [part] => part
  | parts => .concatenation ⟨start, stop⟩ parts.reverse

/-- Alternatives, given last first. One alone is no choice. -/
def choice (start stop : Place) : List Syntax → Syntax
  | [] => .empty ⟨start, stop⟩
  | [part] => part
  | parts => .alternation ⟨start, stop⟩ parts.reverse

/-- Where reading alternatives stands: the alternatives and the parts of the current one, both
    last first, and where they start. -/
structure Progress where
  choiceStart : Place
  choices : List Syntax
  start : Place
  parts : List Syntax

/-- Reads alternatives up to a closing parenthesis or the end. -/
def alternatives : Nat → Progress → Reads Syntax
  | 0, _ => do flaw .groupUnclosed (← hereSpan)
  | steps + 1, progress => do
    bumpSpace
    let place ← here
    let finish := do
      return choice progress.choiceStart (← here)
        (sequence progress.start (← here) progress.parts :: progress.choices)
    match ← current? with
    | none => finish
    | some ')' => finish
    | some '(' =>
      let (span, opening) ← groupOpening
      match opening with
      | .flags span items =>
        if let some spaced := flagState 'x' true items then
          modify ({ · with spaced })
        alternatives steps { progress with parts := .flags span items :: progress.parts }
      | .group captures items =>
        let outer := (← get).spaced
        modify ({ · with spaced := (flagState 'x' true items).getD outer })
        let inner ← here
        let body ← alternatives steps ⟨inner, [], inner, []⟩
        if ← atEnd then flaw .groupUnclosed span
        modify ({ · with spaced := outer })
        let _ ← bump
        let part := .group ⟨span.start, ← here⟩ captures items body
        alternatives steps { progress with parts := part :: progress.parts }
    | some '|' =>
      let finished := sequence progress.start place progress.parts
      let _ ← bump
      alternatives steps ⟨progress.choiceStart, finished :: progress.choices, ← here, []⟩
    | some '[' =>
      let (span, negated, set) ← classBody ((← get).rest.length + 1)
      alternatives steps { progress with parts := .bracketed span negated set :: progress.parts }
    | some c =>
      if c = '?' ∨ c = '*' ∨ c = '+' ∨ c = '\x7b' then
        let parts ← repetition progress.parts c
        alternatives steps { progress with parts }
      else
        let part ← primitive
        alternatives steps { progress with parts := part :: progress.parts }

/-- Reads a whole pattern and checks how deep it nests. -/
def whole : Reads Syntax := do
  let place ← here
  let tree ← alternatives ((← get).rest.length + 2) ⟨place, [], place, []⟩
  if !(← atEnd) then flawHere .groupUnopened
  tree.checkDepth 0
  return tree

/-- The tree of a pattern, or its first flaw. -/
def Syntax.parse (pattern : String) : Except Flaw Syntax :=
  (whole (Reader.start pattern)).map (·.1)

end FileQuery.Pattern

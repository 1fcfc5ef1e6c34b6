import FileQuery.Unicode.CharSet
import FileQuery.Unicode.Word

/-!
# Regular expressions

What a pattern means: a regular expression over sets of characters and assertions about places.
Because a condition only asks whether a pattern occurs, the meaning knows of no preference among
the ways to match. Groups are kept, although they have no influence on whether a pattern occurs,
because the size of a pattern depends on them.

A text of `n` characters has `n + 1` places. A marking tells for each place whether it is marked.
`Regular.reach` moves the marks from the places where a match may start to the places where it
may end, so a pattern occurs in a text when marks on all places reach any place.
-/

namespace FileQuery.Pattern

/-- The assertions about a place, given the characters before and after it. -/
inductive Look
  | textStart | textEnd
  | lineStart | lineEnd
  | anyLineStart | anyLineEnd
  | boundary (ascii : Bool) | notBoundary (ascii : Bool)
  | wordStart (ascii : Bool) | wordEnd (ascii : Bool)
  | wordStartHalf (ascii : Bool) | wordEndHalf (ascii : Bool)
  deriving DecidableEq, Repr

/-- Whether a character is a word character, in all scripts or in ASCII only. -/
def isWordCharacter (ascii : Bool) (c : Char) : Bool :=
  if ascii then c.isAlphanum || c == '_' else Unicode.isWord c

/-- Whether an assertion holds between two characters. At the ends of a text one is missing. -/
def Look.holds (before after : Option Char) : Look → Bool
  | textStart => before.isNone
  | textEnd => after.isNone
  | lineStart => before.isNone || before == some '\n'
  | lineEnd => after.isNone || after == some '\n'
  | anyLineStart =>
    before.isNone || before == some '\n' || (before == some '\r' && after != some '\n')
  | anyLineEnd =>
    after.isNone || after == some '\r' || (after == some '\n' && before != some '\r')
  | boundary ascii => before.any (isWordCharacter ascii) != after.any (isWordCharacter ascii)
  | notBoundary ascii => before.any (isWordCharacter ascii) == after.any (isWordCharacter ascii)
  | wordStart ascii => !before.any (isWordCharacter ascii) && after.any (isWordCharacter ascii)
  | wordEnd ascii => before.any (isWordCharacter ascii) && !after.any (isWordCharacter ascii)
  | wordStartHalf ascii => !before.any (isWordCharacter ascii)
  | wordEndHalf ascii => !after.any (isWordCharacter ascii)

/-- A regular expression. -/
inductive Regular
  | empty
  | set (set : Unicode.CharSet)
  | look (look : Look)
  | sequence (first second : Regular)
  | choice (first second : Regular)
  | repetition (body : Regular) (least : Nat) (most : Option Nat)
  /-- A group, which may be one whose match is kept. -/
  | group (captures : Bool) (body : Regular)

/-- For each place of a text whether it is marked. -/
abbrev Marking := List Bool

namespace Marking

/-- The places marked in either of two markings. -/
def either (first second : Marking) : Marking := List.zipWith (· || ·) first second

/-- The places marked in the first marking and not in the second. -/
def without (first second : Marking) : Marking := List.zipWith (fun a b => a && !b) first second

/-- Whether any place is marked. -/
def any (marking : Marking) : Bool := List.any marking id

/-- A step applied a number of times, or fewer when more would change nothing. -/
def times (step : Marking → Marking) : Nat → Marking → Marking
  | 0, marking => marking
  | count + 1, marking =>
    let next := step marking
    if next == marking then marking else times step count next

/-- The places reached by at most a number of steps. Only places that the last step has reached
    for the first time are looked at in the next. -/
def closure (step : Marking → Marking) : Nat → Marking → Marking → Marking
  | 0, reached, _ => reached
  | count + 1, reached, fresh =>
    let next := (step fresh).without reached
    if next.any then closure step count (reached.either next) next else reached

end Marking

/-- The characters before and after each place of a text. -/
def surroundings : Option Char → List Char → List (Option Char × Option Char)
  | before, [] => [(before, none)]
  | before, c :: rest => (before, some c) :: surroundings (some c) rest

/-- Where a regular expression that starts at marked places of a text can end. A repetition
    without a bound needs no more steps than the text has places, because each step marks a new
    place. -/
def Regular.reach (text : List Char) : Regular → Marking → Marking
  | empty, marks => marks
  | set s, marks => false :: List.zipWith (fun c marked => marked && s.contains c.toNat) text marks
  | look l, marks =>
    List.zipWith (fun (before, after) marked => marked && l.holds before after)
      (surroundings none text) marks
  | sequence first second, marks => second.reach text (first.reach text marks)
  | choice first second, marks => (first.reach text marks).either (second.reach text marks)
  | repetition body least most, marks =>
    let step := fun marks => body.reach text marks
    let required := Marking.times step least marks
    let more := match most with
      | some most => min (most - least) (text.length + 1)
      | none => text.length + 1
    Marking.closure step more required required
  | group _ body, marks => body.reach text marks

/-- Whether a regular expression occurs anywhere in a text. -/
def Regular.occurs (pattern : Regular) (text : List Char) : Bool :=
  (pattern.reach text (List.replicate (text.length + 1) true)).any

end FileQuery.Pattern

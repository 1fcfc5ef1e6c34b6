import FileQuery.Pattern.Regular
import FileQuery.Text.Utf8

/-!
# Outlines of regular expressions

The automaton of a regular expression is not built from the expression as it was written. What
can be said more simply is simplified first: characters in sequence are joined to texts,
alternatives that are single characters make one class, and what all alternatives begin with is
taken out in front of them.
-/

namespace FileQuery.Pattern

/-- A regular expression as its automaton is built from it. -/
inductive Outline
  /-- Matches the empty text. -/
  | nothing
  /-- Matches one text, given by its bytes. -/
  | text (bytes : List UInt8)
  /-- Matches the characters of ranges. There are none, or two at least. -/
  | characters (ranges : Unicode.Ranges)
  | look (look : Look)
  | repetition (body : Outline) (least : Nat) (most : Option Nat)
  /-- A group whose match is kept, with its number. -/
  | capture (index : Nat) (body : Outline)
  | sequence (parts : List Outline)
  | choice (parts : List Outline)
  deriving BEq

namespace Outline

/-- The bytes of a character. -/
def characterBytes (code : Nat) : List UInt8 := Text.encode (String.singleton (Char.ofNat code))

/-- The outline of a class of characters. A single character is a text. -/
def ofRanges : Unicode.Ranges → Outline
  | [(low, high)] => if low = high then .text (characterBytes low) else .characters [(low, high)]
  | ranges => .characters ranges

mutual

/-- The least number of bytes that a match has, if there are matches. -/
def leastLength : Outline → Option Nat
  | nothing | look _ => some 0
  | text bytes => some bytes.length
  | characters ranges => ranges.head?.map fun (low, _) => (characterBytes low).length
  | repetition body least _ => body.leastLength.map (least * ·)
  | capture _ body => body.leastLength
  | sequence parts => leastSum parts
  | choice parts => leastOf parts

/-- The sum of the least lengths. -/
def leastSum : List Outline → Option Nat
  | [] => some 0
  | first :: rest => do return (← first.leastLength) + (← leastSum rest)

/-- The least of the least lengths, if all are known. -/
def leastOf : List Outline → Option Nat
  | [] => none
  | [only] => only.leastLength
  | first :: rest => do return min (← first.leastLength) (← leastOf rest)

end

mutual

/-- Whether all matches are empty. -/
def isEmptyOnly : Outline → Bool
  | nothing | look _ => true
  | text bytes => bytes.isEmpty
  | characters _ => false
  | repetition body _ most => most == some 0 || most.isSome && body.isEmptyOnly
  | capture _ body => body.isEmptyOnly
  | sequence parts | choice parts => areEmptyOnly parts

/-- Whether all matches of all outlines are empty. -/
def areEmptyOnly : List Outline → Bool
  | [] => true
  | first :: rest => first.isEmptyOnly && areEmptyOnly rest

end

/-- The parts that an outline has in a sequence. -/
def sequenceParts : Outline → List Outline
  | nothing => []
  | sequence parts => parts
  | other => [other]

/-- Parts in sequence with neighbouring texts joined. -/
def joinTexts : List Outline → List Outline
  | [] => []
  | text bytes :: rest =>
    match joinTexts rest with
    | text more :: others => text (bytes ++ more) :: others
    | others => text bytes :: others
  | first :: rest => first :: joinTexts rest

/-- Outlines in sequence. -/
def inSequence (outlines : List Outline) : Outline :=
  match joinTexts (outlines.flatMap sequenceParts) with
  | [] => nothing
  | [only] => only
  | parts => sequence parts

/-- The alternatives that an outline consists of. -/
def choiceParts : Outline → List Outline
  | choice parts => parts
  | other => [other]

/-- The character that is the only match of an outline. -/
def onlyCharacter? : Outline → Option Nat
  | text bytes =>
    match (Text.decode? bytes).map String.toList with
    | some [c] => some c.toNat
    | _ => none
  | _ => none

/-- The class that an outline is. -/
def class? : Outline → Option Unicode.Ranges
  | characters ranges => some ranges
  | _ => none

/-- What two lists begin with alike. -/
def commonStart : List Outline → List Outline → List Outline
  | first :: rest, other :: others =>
    if first == other then first :: commonStart rest others else []
  | _, _ => []

/-- What all alternatives begin with, if they are sequences. -/
def sharedStart : List Outline → List Outline
  | [] => []
  | [sequence parts] => parts
  | sequence parts :: rest => commonStart parts (sharedStart rest)
  | _ => []

/-- An outline without a number of parts at its start. -/
def dropParts (count : Nat) (outline : Outline) : Outline :=
  inSequence (outline.sequenceParts.drop count)

/-- Alternatives that are no choices themselves. What they share is taken out until they share
    nothing. Each time the first of them has fewer parts, so the number of its parts is a bound
    on the number of times. -/
def choose : Nat → List Outline → Outline
  | bound, parts =>
    match parts, parts.mapM onlyCharacter?, parts.mapM class? with
    | [], _, _ => characters []
    | [only], _, _ => only
    | _, some codes, _ => ofRanges (Unicode.Ranges.normal (codes.map fun code => (code, code)))
    | _, none, some classes => ofRanges (Unicode.Ranges.normal classes.flatten)
    | _, none, none =>
      match bound, sharedStart parts with
      | 0, _ | _, [] => choice parts
      | bound + 1, shared =>
        let rests := parts.map (dropParts shared.length)
        inSequence (shared ++ [choose bound (rests.flatMap choiceParts)])

/-- Alternatives. -/
def inChoice (outlines : List Outline) : Outline :=
  match outlines with
  | [only] => only
  | _ =>
    let parts := outlines.flatMap choiceParts
    choose ((parts.head?.map (·.sequenceParts.length)).getD 0) parts

/-- A repetition. Repeating what matches only the empty text once is enough. -/
def repeated (body : Outline) (least : Nat) (most : Option Nat) : Outline :=
  let (least, most) :=
    if body.isEmptyOnly then (min least 1, some (min (most.getD 1) 1)) else (least, most)
  if least = 0 ∧ most = some 0 then nothing
  else if least = 1 ∧ most = some 1 then body
  else repetition body least most

end Outline

/-- The outlines of the alternatives that a regular expression consists of. The state is the
    number of groups so far. -/
def Regular.alternatives : Regular → StateM Nat (List Outline)
  | .empty => return [.nothing]
  | .set s => return [.ofRanges s.toRanges]
  | .look l => return [.look l]
  | .sequence first second => do
    let first := Outline.inChoice (← first.alternatives)
    return [Outline.inSequence [first, Outline.inChoice (← second.alternatives)]]
  | .choice first second => do
    let first := Outline.inChoice (← first.alternatives)
    return first :: (← second.alternatives)
  | .repetition body least most => do
    return [(Outline.inChoice (← body.alternatives)).repeated least most]
  | .group false body => do return [Outline.inChoice (← body.alternatives)]
  | .group true body => do
    let index ← getModify (· + 1)
    return [.capture index (Outline.inChoice (← body.alternatives))]

/-- The outline of a regular expression. -/
def Regular.outline (pattern : Regular) : Outline :=
  Outline.inChoice (pattern.alternatives.run 0).1

end FileQuery.Pattern

import FileQuery.Unicode.Ranges
import FileQuery.Unicode.Fold

/-!
# Sets of characters

Sets of code points as they are built from ranges by the operations on sets and by adding case
variants. Membership is decided along the way a set was built.
-/

namespace FileQuery.Unicode

/-- A set of code points. -/
inductive CharSet
  | empty
  | ranges (ranges : Ranges)
  | union (first second : CharSet)
  | intersection (first second : CharSet)
  | difference (first second : CharSet)
  | symmetricDifference (first second : CharSet)
  | complement (set : CharSet)
  /-- The set and the case variants of its members. -/
  | folded (set : CharSet)
  /-- The set and the other cases of the ASCII letters in it. -/
  | foldedAscii (set : CharSet)

namespace CharSet

/-- The set of the code points from one to another. -/
def range (low high : Nat) : CharSet := .ranges [(low, high)]

/-- The set of one code point. -/
def single (code : Nat) : CharSet := range code code

/-- The code points that are no characters. -/
def surrogates : CharSet := range 0xD800 0xDFFF

/-- The other case of an ASCII letter. -/
def otherAsciiCase? (code : Nat) : Option Nat :=
  if 0x41 ≤ code ∧ code ≤ 0x5A then some (code + 0x20)
  else if 0x61 ≤ code ∧ code ≤ 0x7A then some (code - 0x20)
  else none

/-- Whether a code point is in a set. A set with case variants holds a code point if the set or
    one of the code point's variants is in it, because being variants is symmetric. -/
def contains : CharSet → Nat → Bool
  | empty, _ => false
  | ranges r, code => r.contains code
  | union a b, code => a.contains code || b.contains code
  | intersection a b, code => a.contains code && b.contains code
  | difference a b, code => a.contains code && !b.contains code
  | symmetricDifference a b, code => a.contains code != b.contains code
  | complement a, code => !a.contains code
  | folded a, code => a.contains code || (caseVariants code).any fun other => a.contains other
  | foldedAscii a, code =>
    a.contains code || (otherAsciiCase? code).any fun other => a.contains other

/-- A code point is outside the complement exactly when it is in the set. -/
theorem contains_complement (set : CharSet) (code : Nat) :
    (complement set).contains code = !set.contains code := rfl

/-- All characters. -/
def allCharacters : Ranges := [(0, 0xD7FF), (0xE000, 0x10FFFF)]

/-- The ranges of a set of characters, ascending and with gaps between them. -/
def toRanges : CharSet → Ranges
  | empty => []
  | ranges r => r.normal
  | union a b => Ranges.normal (a.toRanges ++ b.toRanges)
  | intersection a b => a.toRanges.common b.toRanges
  | difference a b => a.toRanges.common (allCharacters.without b.toRanges)
  | symmetricDifference a b =>
    let first := a.toRanges
    let second := b.toRanges
    Ranges.normal (first.without second ++ second.without first)
  | complement a => allCharacters.without a.toRanges
  | folded a =>
    let set := a.toRanges
    let variants := caseVariantTable.flatMap fun (code, others) =>
      if set.contains code then others.map fun other => (other, other) else []
    Ranges.normal (set ++ variants)
  | foldedAscii a =>
    let set := a.toRanges
    let variants := (List.range 0x80).filterMap fun code =>
      if set.contains code then (otherAsciiCase? code).map fun other => (other, other) else none
    Ranges.normal (set ++ variants)

end CharSet

end FileQuery.Unicode

/-!
# Patterns of scripts

A pattern of a script has characters that stand for themselves, question marks and sets of
characters that stand for one, and stars that stand for any number of characters.
-/

namespace FileQuery.Script

/-- A character that a word stands for. -/
structure Letter where
  char : Char
  /-- Whether it stands for itself alone in a pattern. -/
  quoted : Bool
  deriving DecidableEq, Repr

/-- A part of a pattern. -/
inductive Wildcard
  | exactly (char : Char)
  | one
  | many
  /-- One character of some ranges, or of none of them. -/
  | among (negated : Bool) (ranges : List (Char × Char))
  deriving DecidableEq, Repr

namespace Wildcard

/-- The characters of a class. -/
def classRanges? : String → Option (List (Char × Char))
  | "alpha" => some [('A', 'Z'), ('a', 'z')]
  | "digit" => some [('0', '9')]
  | "alnum" => some [('0', '9'), ('A', 'Z'), ('a', 'z')]
  | "upper" => some [('A', 'Z')]
  | "lower" => some [('a', 'z')]
  | "space" => some [('\t', '\r'), (' ', ' ')]
  | "blank" => some [('\t', '\t'), (' ', ' ')]
  | "punct" => some [('!', '/'), (':', '@'), ('[', '\x60'), ('\x7b', '~')]
  | "print" => some [(' ', '~')]
  | "graph" => some [('!', '~')]
  | "cntrl" => some [('\x00', '\x1f'), ('\x7f', '\x7f')]
  | "xdigit" => some [('0', '9'), ('A', 'F'), ('a', 'f')]
  | _ => none

/-- The class at the start of a set, without its opening, and what follows it. -/
def class? (letters : List Letter) : Option (List (Char × Char) × List Letter) :=
  let name := letters.takeWhile (·.char != ':')
  match letters.drop name.length with
  | ⟨':', _⟩ :: ⟨']', _⟩ :: rest =>
    (classRanges? (String.ofList (name.map (·.char)))).map fun ranges => (ranges, rest)
  | _ => none

/-- The ranges of a set up to its closing bracket, and what follows it. A bracket that comes first
    closes nothing. -/
def ranges? : Nat → Bool → List Letter → Option (List (Char × Char) × List Letter)
  | 0, _, _ => none
  | _, _, [] => none
  | fuel + 1, isFirst, first :: rest =>
    let alone := (ranges? fuel false rest).map fun (ranges, rest) =>
      ((first.char, first.char) :: ranges, rest)
    if first = ⟨']', false⟩ && !isFirst then some ([], rest)
    else
      match first, rest with
      | ⟨'[', false⟩, ⟨':', false⟩ :: inner =>
        match class? inner with
        | some (found, rest) =>
          (ranges? fuel false rest).map fun (ranges, rest) => (found ++ ranges, rest)
        | none => alone
      | _, ⟨'-', false⟩ :: last :: after =>
        if last = ⟨']', false⟩ then alone
        else
          (ranges? fuel false after).map fun (ranges, rest) =>
            ((first.char, last.char) :: ranges, rest)
      | _, _ => alone

/-- The set after an opening bracket, and what follows it. -/
def set? (letters : List Letter) : Option (Wildcard × List Letter) :=
  let (negated, inner) := match letters with
    | ⟨'!', false⟩ :: rest => (true, rest)
    | ⟨'^', false⟩ :: rest => (true, rest)
    | _ => (false, letters)
  (ranges? (inner.length + 1) true inner).map fun (ranges, rest) => (among negated ranges, rest)

/-- The pattern that letters denote. A bracket that nothing closes stands for itself. -/
def read : Nat → List Letter → List Wildcard
  | 0, _ => []
  | _, [] => []
  | fuel + 1, letter :: rest =>
    if letter.quoted then exactly letter.char :: read fuel rest
    else if letter.char = '*' then many :: read fuel rest
    else if letter.char = '?' then one :: read fuel rest
    else if letter.char = '[' then
      match set? rest with
      | some (found, rest) => found :: read fuel rest
      | none => exactly '[' :: read fuel rest
    else exactly letter.char :: read fuel rest

/-- The pattern that letters denote. -/
def ofLetters (letters : List Letter) : List Wildcard := read letters.length letters

/-- Whether some letters may stand for more than themselves. -/
def isActive (letters : List Letter) : Bool :=
  letters.any fun letter => !letter.quoted && ['*', '?', '['].contains letter.char

/-- Whether a part other than a star stands for a character. -/
def accepts (char : Char) : Wildcard → Bool
  | exactly expected => char = expected
  | one => true
  | many => false
  | among negated ranges =>
    (ranges.any fun (low, high) => low ≤ char && char ≤ high) != negated

/-- Whether a star and the pattern after it match a text: the pattern matches one of its ends. -/
def matchesEnd (rest : List Char → Bool) : List Char → Bool
  | [] => rest []
  | char :: text => rest (char :: text) || matchesEnd rest text

/-- Whether a pattern matches the whole of a text. -/
def matchesAll : List Wildcard → List Char → Bool
  | [], text => text.isEmpty
  | many :: pattern, text => matchesEnd (matchesAll pattern) text
  | first :: pattern, text =>
    match text with
    | [] => false
    | char :: text => first.accepts char && matchesAll pattern text

/-- A text without a start that a pattern matches. -/
def withoutStart (longest : Bool) (pattern : List Wildcard) (text : List Char) : List Char :=
  let counts := List.range (text.length + 1)
  match (if longest then counts.reverse else counts).find? fun count =>
    matchesAll pattern (text.take count) with
  | some count => text.drop count
  | none => text

/-- A text without an end that a pattern matches. -/
def withoutEnd (longest : Bool) (pattern : List Wildcard) (text : List Char) : List Char :=
  let counts := List.range (text.length + 1)
  match (if longest then counts else counts.reverse).find? fun count =>
    matchesAll pattern (text.drop count) with
  | some count => text.take count
  | none => text

end Wildcard

end FileQuery.Script

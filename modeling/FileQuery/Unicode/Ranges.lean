/-!
# Ranges of code points

A character class of the Unicode standard is a union of ranges. The tables of the library write
it as a list of ranges in ascending order, or as a text in hexadecimal that is read into one.
-/

namespace FileQuery.Unicode

/-- Ascending, disjoint ranges of code points. Both ends belong to a range. -/
abbrev Ranges := List (Nat × Nat)

/-- Whether a code point lies in one of the ranges. The order of the ranges lets the search stop
    at the first range that begins after the code point. -/
def Ranges.contains : Ranges → Nat → Bool
  | [], _ => false
  | (low, high) :: rest, code =>
    if code < low then false else if code ≤ high then true else Ranges.contains rest code

/-- A range followed by ranges that start no earlier, with those joined that overlap or touch. -/
def Ranges.joinFrom (low high : Nat) : Ranges → Ranges
  | [] => [(low, high)]
  | (start, stop) :: rest =>
    if start ≤ high + 1 then Ranges.joinFrom low (max high stop) rest
    else (low, high) :: Ranges.joinFrom start stop rest

/-- Any ranges as ascending ones with gaps between them. -/
def Ranges.normal (ranges : Ranges) : Ranges :=
  match ranges.mergeSort fun first second => first.1 ≤ second.1 with
  | [] => []
  | (low, high) :: rest => Ranges.joinFrom low high rest

/-- What is left of a range without ascending ranges. -/
def Ranges.cut (low high : Nat) : Ranges → Ranges
  | [] => if low ≤ high then [(low, high)] else []
  | (start, stop) :: rest =>
    if high < start then if low ≤ high then [(low, high)] else []
    else if stop < low then Ranges.cut low high rest
    else (if low < start then [(low, start - 1)] else []) ++ Ranges.cut (stop + 1) high rest

/-- The code points of ascending ranges that are not in others. -/
def Ranges.without (ranges others : Ranges) : Ranges :=
  ranges.flatMap fun (low, high) => Ranges.cut low high others

/-- The code points that are in both of two lists of ascending ranges. -/
def Ranges.common (first second : Ranges) : Ranges := first.without (first.without second)

/-- The value of a hexadecimal digit of either case. -/
def hexDigit? (c : Char) : Option Nat :=
  if '0' ≤ c ∧ c ≤ '9' then some (c.toNat - '0'.toNat)
  else if 'a' ≤ c ∧ c ≤ 'f' then some (c.toNat - 'a'.toNat + 10)
  else if 'A' ≤ c ∧ c ≤ 'F' then some (c.toNat - 'A'.toNat + 10)
  else none

/-- The number that hexadecimal digits denote; other characters count as zero. -/
def hexNumber (digits : List Char) : Nat :=
  digits.foldl (fun value c => 16 * value + (hexDigit? c).getD 0) 0

/-- One written range: a code point, or two joined by a hyphen. -/
def Ranges.readOne (text : String) : Option (Nat × Nat) :=
  match text.splitOn "-" with
  | [only] => if only.isEmpty then none else some (hexNumber only.toList, hexNumber only.toList)
  | [low, high] => some (hexNumber low.toList, hexNumber high.toList)
  | _ => none

/-- The words of a text: what stands between its blanks and line ends. -/
def words (text : String) : List String :=
  ((text.splitOn "\n").flatMap (·.splitOn " ")).filter (!·.isEmpty)

/-- The ranges of a text in which blanks and line ends separate them. -/
def Ranges.read (text : String) : Ranges := (words text).filterMap Ranges.readOne

/-- A class of characters that has names. -/
structure NamedClass where
  /-- The spellings of the name, in lower case and without separators. -/
  names : List String
  /-- The ranges of the class as `Ranges.read` reads them. -/
  text : String

/-- The class with a given name. -/
def findClass? (classes : List NamedClass) (name : String) : Option NamedClass :=
  classes.find? fun candidate => candidate.names.contains name

end FileQuery.Unicode

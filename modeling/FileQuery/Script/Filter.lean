import FileQuery.Script.Format

/-!
# Filters of scripts

What commands make of bytes: parts of them, counts, and other bytes in their place.
-/

namespace FileQuery.Script

/-! ### Lines -/

/-- The lines of bytes, each with its end. The last one may have none. -/
def byteLines : List UInt8 → List (List UInt8)
  | [] => []
  | byte :: rest =>
    if byte = 10 then [10] :: byteLines rest
    else
      match byteLines rest with
      | [] => [[byte]]
      | line :: more => (byte :: line) :: more

/-- A line without its end. -/
def withoutEnd (line : List UInt8) : List UInt8 :=
  if line.getLast? = some 10 then line.dropLast else line

/-- A line with an end. -/
def withEnd (line : List UInt8) : List UInt8 := withoutEnd line ++ [10]

/-- A part of some things. -/
inductive Portion
  | first (count : Nat)
  /-- All but some at the end. -/
  | allBut (count : Nat)
  | last (count : Nat)
  /-- All from one on. -/
  | start (place : Nat)
  deriving DecidableEq, Repr

/-- The part of a list. -/
def Portion.of {α : Type} : Portion → List α → List α
  | first count, found => found.take count
  | allBut count, found => found.take (found.length - count)
  | last count, found => found.drop (found.length - count)
  | start place, found => found.drop (place - 1)

/-- The order of lines by their bytes. -/
def lineBefore (first second : List UInt8) : Bool :=
  match first, second with
  | [], _ => true
  | _ :: _, [] => false
  | a :: first, b :: second => a < b || (a == b && lineBefore first second)

/-- The number at the start of a line. -/
def lineNumber (line : List UInt8) : Int :=
  match signedNumber (line.map fun byte => Char.ofNat byte.toNat) with
  | some (value, _) => value
  | none => 0

/-- Lines in order, as options ask for. -/
def sortedLines (options : List Char) (lines : List (List UInt8)) : List (List UInt8) :=
  let before (first second : List UInt8) : Bool :=
    if options.contains 'n' && lineNumber first != lineNumber second then
      lineNumber first < lineNumber second
    else lineBefore first second
  let sorted := (lines.map withoutEnd).mergeSort before
  let sorted := if options.contains 'u' then sorted.eraseReps else sorted
  (if options.contains 'r' then sorted.reverse else sorted).map withEnd

/-- The groups of lines that follow each other and are alike. -/
def groupedLines (lines : List (List UInt8)) : List (List (List UInt8)) :=
  (lines.map withEnd).splitBy (· == ·)

/-! ### Counts -/

/-- Whether a byte is blank. -/
def isBlankByte (byte : UInt8) : Bool := byte = 32 || (9 ≤ byte && byte ≤ 13)

/-- The number of words. -/
def wordCount (bytes : List UInt8) : Nat :=
  ((bytes.splitBy fun a b => isBlankByte a == isBlankByte b).filter fun part =>
    !(part.head?.any isBlankByte)).length

/-- The counts that options ask for: lines, words, characters and bytes. -/
def counts (options : List Char) (bytes : List UInt8) : List Nat :=
  let asked := if options.isEmpty then ['l', 'w', 'c'] else options
  [('l', (bytes.filter (· = 10)).length), ('w', wordCount bytes),
    ('m', bytes.length), ('c', bytes.length)].filterMap fun (option, count) =>
      if asked.contains option then some count else none

/-- A number with blanks before it. -/
def aligned (width number : Nat) : String :=
  let digits := toString number
  String.ofList (List.replicate (width - digits.length) ' ') ++ digits

/-! ### Replacing bytes -/

/-- The bytes of a class. -/
def classBytes (name : List Char) : List UInt8 :=
  let range (low high : Nat) : List UInt8 :=
    (List.range (high + 1 - low)).map fun step => UInt8.ofNat (low + step)
  match String.ofList name with
  | "lower" => range 97 122
  | "upper" => range 65 90
  | "alpha" => range 65 90 ++ range 97 122
  | "digit" => range 48 57
  | "alnum" => range 48 57 ++ range 65 90 ++ range 97 122
  | "space" => range 9 13 ++ [32]
  | "blank" => [9, 32]
  | "punct" => range 33 47 ++ range 58 64 ++ range 91 96 ++ range 123 126
  | "cntrl" => range 0 31 ++ [127]
  | "print" => range 32 126
  | "graph" => range 33 126
  | "xdigit" => range 48 57 ++ range 65 70 ++ range 97 102
  | _ => []

/-- The bytes of a set of characters, with ranges, classes and escapes. -/
def setBytes : Nat → List Char → List UInt8
  | 0, _ => []
  | _, [] => []
  | fuel + 1, '[' :: ':' :: rest =>
    let name := rest.takeWhile (· != ':')
    match rest.drop name.length with
    | ':' :: ']' :: rest => classBytes name ++ setBytes fuel rest
    | _ => 91 :: setBytes fuel (':' :: rest)
  | fuel + 1, '\\' :: rest =>
    let (bytes, rest) := escaped false rest
    bytes ++ setBytes fuel rest
  | fuel + 1, low :: '-' :: high :: rest =>
    ((List.range (high.toNat + 1 - low.toNat)).map fun step => UInt8.ofNat (low.toNat + step)) ++
      setBytes fuel rest
  | fuel + 1, c :: rest => characterBytes c ++ setBytes fuel rest

/-- The byte that replaces a byte. The last one of a set replaces all that have no place in it. -/
def replacement : List UInt8 → List UInt8 → UInt8 → UInt8
  | old :: more, [last], byte => if old = byte then last else replacement more [last] byte
  | old :: more, other :: others, byte =>
    if old = byte then other else replacement more others byte
  | _, _, byte => byte

/-- Bytes of a set only once where they are repeated. -/
def squeezed (set : List UInt8) (bytes : List UInt8) : List UInt8 :=
  (bytes.splitBy (· == ·)).flatMap fun part =>
    if part.head?.any set.contains then part.take 1 else part

/-- What `tr` makes of bytes. -/
def translated (options : List Char) (sets : List String) (bytes : List UInt8) : List UInt8 :=
  let read (text : String) := setBytes (text.length + 1) text.toList
  let first := read (sets.headD "")
  let first := if options.contains 'c' || options.contains 'C' then
      ((List.range 256).map UInt8.ofNat).filter fun byte => !first.contains byte
    else first
  let second := read ((sets.drop 1).headD "")
  if options.contains 'd' then
    let kept := bytes.filter fun byte => !first.contains byte
    if options.contains 's' then squeezed second kept else kept
  else if sets.length < 2 then squeezed first bytes
  else
    let changed := bytes.map (replacement first second)
    if options.contains 's' then squeezed second changed else changed

/-! ### Fields of lines -/

/-- The ranges of places that a list writes. A range without an end has none. -/
def placeRanges (text : String) : List (Nat × Option Nat) :=
  (text.splitOn ",").map fun range =>
    match range.splitOn "-" with
    | [place] => (place.toNat?.getD 0, some (place.toNat?.getD 0))
    | [low, ""] => (low.toNat?.getD 0, none)
    | low :: high :: _ => (if low.isEmpty then 1 else low.toNat?.getD 0, high.toNat?)
    | [] => (0, none)

/-- The things at places of ranges. -/
def atPlaces {α : Type} (ranges : List (Nat × Option Nat)) (found : List α) : List α :=
  (found.zipIdx 1).filterMap fun (thing, place) =>
    if ranges.any fun (low, high) => low ≤ place && (high.all (place ≤ ·)) then some thing
    else none

/-- The parts of bytes between bytes of a kind. -/
def byteFields (separator : UInt8) : List UInt8 → List (List UInt8)
  | [] => [[]]
  | byte :: rest =>
    match byteFields separator rest with
    | [] => [[byte]]
    | field :: more =>
      if byte = separator then [] :: field :: more else (byte :: field) :: more

/-- Some fields of a line. A line without separators is kept as a whole. -/
def cutFields (separator : UInt8) (ranges : List (Nat × Option Nat)) (line : List UInt8) :
    List UInt8 :=
  let fields := byteFields separator (withoutEnd line)
  if fields.length = 1 then withEnd line
  else List.intercalate [separator] (atPlaces ranges fields) ++ [10]

/-! ### Searching -/

/-- Whether bytes hold other bytes. -/
def holdsBytes (part : List UInt8) : List UInt8 → Bool
  | [] => part.isEmpty
  | byte :: rest => part.isPrefixOf (byte :: rest) || holdsBytes part rest

/-- Whether a line has a text, which may have to stand at its start or end. -/
def hasText (text : List UInt8) (line : List UInt8) : Bool :=
  let atStart := text.head? = some 94
  let text := if atStart then text.drop 1 else text
  let atEnd := text.getLast? = some 36
  let text := if atEnd then text.dropLast else text
  if atStart && atEnd then line == text
  else if atStart then text.isPrefixOf line
  else if atEnd then text.isSuffixOf line
  else holdsBytes text line

/-- Bytes with small letters in the place of capital ones. -/
def loweredBytes (bytes : List UInt8) : List UInt8 :=
  bytes.map fun byte => if 65 ≤ byte && byte ≤ 90 then byte + 32 else byte

end FileQuery.Script

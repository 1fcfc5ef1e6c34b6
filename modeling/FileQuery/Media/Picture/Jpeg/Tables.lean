import FileQuery.Media.Picture.Reading
import FileQuery.Text.Literal

/-!
# Tables of photographs

What can be wrong with a photograph, and the tables that its pixels are read by.
-/

/-!
## Reasons against photographs

Why bytes are no photograph. Some reasons are told with the segment in which they arise, and some
as literals.
-/

namespace FileQuery.Picture.Jpeg

/-- The components of a picture, in order. -/
inductive ComponentName
  | luminance
  | blueDifference
  | redDifference
  | fourth
  deriving DecidableEq, Repr

namespace ComponentName

/-- The name of a component. -/
def text : ComponentName → String
  | luminance => "Y"
  | blueDifference => "Cb"
  | redDifference => "Cr"
  | fourth => "Q"

/-- The component at a place. -/
def ofPlace? (place : Nat) : Option ComponentName :=
  [luminance, blueDifference, redDifference, fourth][place]?

end ComponentName

/-- The segments that reasons are told with. -/
inductive Segment
  | frame
  | scan
  | quantization
  deriving DecidableEq, Repr

/-- Why bytes are no picture of this format. -/
inductive Reason
  | mark (number : Nat)
  /-- There are fewer bytes than expected. -/
  | ended (expected found : Nat)
  /-- The sides are not both positive. -/
  | sides
  /-- The words for what is wrong in a segment. -/
  | within (segment : Segment) (words : String)
  /-- The words for what is wrong in a code. -/
  | code (words : String)
  /-- The words for what else is wrong. -/
  | other (words : String)
  deriving DecidableEq, Repr

/-- What a reason in a segment starts with. -/
def Segment.words : Segment → String
  | frame => "Error parsing SOF segment. Reason:"
  | scan => "Error parsing SOS Segment. Reason:"
  | quantization => "Error parsing DQT segment. Reason:"

/-- A reason in words. -/
def Reason.words : Reason → String
  | mark number => "Error parsing image. Illegal start bytes:" ++ raised (hexadecimal 1 number)
  | ended expected found =>
    "I/O errors Not enough bytes, expected " ++ toString expected ++ " but found "
      ++ toString found ++ "\n"
  | sides => "Image width or height is set to zero, cannot continue"
  | within segment text => segment.words ++ text
  | code text => "Error decoding huffman values: " ++ text
  | other text => Text.literal text

/-- Readers of pictures of this format. -/
abbrev Reader := Reading Reason

/-- Takes a number of bytes. -/
def taken (count : Nat) : Reader (List UInt8) :=
  takeOr (fun found => .malformed (.ended count found)) count

/-- The next bytes of a number, which are not taken. -/
def peeked (count : Nat) : Reader (List UInt8) := do
  let cursor ← get
  let found ← taken count
  set cursor
  return found

/-- Takes a number of a width. -/
def takenNumber (width : Nat) : Reader Nat := return Bytes.highFirst (← taken width)

end FileQuery.Picture.Jpeg

/-!
## Tables of photographs

Segments before the pixels hold tables: those by which values were divided, and codes. There are up
to four of each kind. A code is written as the number of its words of each length, and the symbols
in the order of their words.
-/

namespace FileQuery.Picture.Jpeg

/-- The largest number of components, and of tables of a kind. -/
def mostComponents : Nat := 4

/-- The places of the tables that have been read. -/
structure Tables where
  quantization : List Nat
  direct : List Nat
  alternating : List Nat
  deriving DecidableEq, Repr

/-- No tables. -/
def Tables.empty : Tables := ⟨[], [], []⟩

/-- Reads tables of divisors that take a number of bytes. Each takes 65 bytes at least. -/
def readDivisors : Nat → Nat → Tables → Reader Tables
  | 0, _, tables => return tables
  | fuel + 1, size, tables => do
    if size = 0 then return tables
    let kind ← takenNumber 1
    let precision := kind / 16
    let place := kind % 16
    let needed := 64 * (precision + 1) + 1
    require (needed ≤ size) (.within .quantization
      ("Invalid QT table bytes left :" ++ toString size
        ++ ". Too small to construct a valid qt table which should be " ++ toString needed
        ++ " long"))
    match precision with
    | 0 => discard <| taken 64
    | 1 => for _ in List.range 64 do discard <| taken 2
    | _ =>
      refuse (.within .quantization
        ("Expected QT precision value of either 0 or 1, found " ++ toString precision))
    require (place < mostComponents) (.within .quantization
      ("Too large table position for QT :" ++ toString place ++ ", expected between 0 and 3"))
    readDivisors fuel (size - needed) { tables with quantization := place :: tables.quantization }

/-- The segment of tables of divisors. -/
def divisors (tables : Tables) : Reader Tables := do
  let size ← takenNumber 2
  require (2 ≤ size) (.other "Invalid DQT length. Length should be greater than 2")
  readDivisors size (size - 2) tables

/-- Whether there is a code with numbers of words of each length from a length on, given the first
    free word of that length. After the words of a length there is a free one left, since no word
    has only ones. -/
def fits (word length : Nat) : List Nat → Bool
  | [] => true
  | count :: rest =>
    let next := word + count
    (count == 0 || next < Nat.pow 2 length) && fits (2 * next) (length + 1) rest

/-- Whether there is a code with numbers of words of each length. -/
def isCode (counts : List Nat) : Bool := fits 0 1 counts

/-- The largest symbol of a code for direct values. -/
def largestDirect : Nat := 15

/-- The words for a code that is none. -/
def badCode : Reason := .code "Bad Huffman Table"

/-- Reads codes that take a number of bytes. Each takes 17 bytes at least. -/
def readCodes : Nat → Nat → Tables → Reader Tables
  | 0, _, tables => return tables
  | fuel + 1, size, tables => do
    if size ≤ 16 then
      require (size == 0) (.other "Bogus Huffman table definition")
      return tables
    let kind ← takenNumber 1
    let place := kind % 16
    let alternating := kind / 16
    require (place < mostComponents)
      (.code ("Invalid DHT index " ++ toString place ++ ", expected between 0 and 3"))
    require (alternating ≤ 1)
      (.code ("Invalid DHT position " ++ toString alternating ++ ", should be 0 or 1"))
    let counts := (← taken 16).map UInt8.toNat
    let size := size - 17
    let total := counts.foldl (· + ·) 0
    require (total ≤ 256) (.other "Encountered Huffman table with excessive length in DHT")
    require (total ≤ size) (.code ("Excessive Huffman table of length " ++ toString total
      ++ " found when header length is " ++ toString size))
    let symbols ← taken total
    require (isCode counts) badCode
    require (alternating == 1 || symbols.all (·.toNat ≤ largestDirect)) badCode
    let tables := if alternating = 1 then { tables with alternating := place :: tables.alternating }
      else { tables with direct := place :: tables.direct }
    readCodes fuel (size - total) tables

/-- The segment of codes. -/
def codes (tables : Tables) : Reader Tables := do
  let size ← takenNumber 2
  require (2 ≤ size) (.other "Invalid Huffman length in image")
  readCodes size (size - 2) tables

end FileQuery.Picture.Jpeg

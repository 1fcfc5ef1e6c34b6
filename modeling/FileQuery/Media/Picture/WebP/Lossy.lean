import FileQuery.Bytes

/-!
# Lossy pixels

The first part of lossy pixels is read as a number between zero and one, written in bytes. Each bit
narrows the range that the number is in, by a chance that the bit is zero. The bits tell how the
pixels are divided into segments, how edges between blocks are smoothed, into how many parts the
pixels are split, by what values they were divided, and which chances of later bits change.

A stream may be read one byte beyond its end, as if there were a zero.
-/

namespace FileQuery.Picture.WebP.Lossy

/-- Why the first part is none. -/
inductive Flaw
  /-- The stream ends too early. -/
  | corrupt
  /-- The colors are of a kind that is not known. -/
  | colors (number : Nat)
  deriving DecidableEq, Repr

/-- A stream that is being read. -/
structure Stream where
  /-- The bytes that have not been taken. -/
  input : List UInt8
  /-- How far above the start of the range the number is. -/
  value : Nat
  /-- The width of the range, in units of the bits below those that are compared with it. -/
  range : Nat
  /-- The number of bits below those that are compared with the range, less than zero if another
      byte has to be taken first. -/
  below : Int
  /-- Whether the byte beyond the end has been taken. -/
  extended : Bool
  /-- Whether there was no byte left to take. -/
  ended : Bool
  deriving DecidableEq, Repr

/-- The stream of bytes. -/
def Stream.ofBytes (bytes : List UInt8) : Stream := ⟨bytes, 0, 255, -8, false, false⟩

/-- Readers of a stream. -/
abbrev Reader := ExceptT Flaw (StateM Stream)

/-- The chance of a bit of which nothing is known, of 256. -/
def evenChance : Nat := 128

namespace Stream

/-- The stream after another byte. -/
def grow (stream : Stream) (byte : UInt8) : Stream :=
  { stream with value := stream.value * 256 + byte.toNat, below := stream.below + 8 }

/-- The stream with a bit below those that are compared with the range, or at its end. -/
def fill (stream : Stream) : Stream :=
  if 0 ≤ stream.below then stream
  else
    match stream.input with
    | byte :: rest => { stream.grow byte with input := rest }
    | [] =>
      if stream.extended then { stream with ended := true }
      else { stream.grow 0 with extended := true }

/-- The stream with a range of eight bits. -/
def widen (stream : Stream) : Stream :=
  let missing := 7 - Nat.log2 stream.range
  { stream with range := stream.range * Nat.pow 2 missing, below := stream.below - missing }

/-- The next bit and the stream after it, by the chance of a zero. At the end all bits are zeros. -/
def next (stream : Stream) (chance : Nat) : Bool × Stream :=
  let stream := stream.fill
  if stream.ended then (false, stream)
  else
    let bound := 1 + (stream.range - 1) * chance / 256
    let limit := bound * Nat.pow 2 stream.below.toNat
    if limit ≤ stream.value then
      (true, { stream with range := stream.range - bound, value := stream.value - limit }.widen)
    else (false, { stream with range := bound }.widen)

end Stream

/-- Takes a bit, by the chance of a zero. -/
def takeBit (chance : Nat) : Reader Bool := fun stream =>
  let (bit, next) := stream.next chance
  (.ok bit, next)

/-- Takes a bit of which nothing is known. -/
def takeFlag : Reader Bool := takeBit evenChance

/-- Takes a number of bits, highest first. -/
def takeNumber : Nat → Reader Nat
  | 0 => return 0
  | count + 1 => do
    let bit ← takeFlag
    let rest ← takeNumber count
    return bit.toNat * Nat.pow 2 count + rest

/-- Takes a number of bits and a sign, if there is one. -/
def takeSigned (bits : Nat) : Reader Unit := do
  if ← takeFlag then
    discard <| takeNumber bits
    discard takeFlag

/-- Takes a number of numbers with signs. -/
def takeAllSigned (bits : Nat) : Nat → Reader Unit
  | 0 => pure ()
  | count + 1 => do
    takeSigned bits
    takeAllSigned bits count

/-- Refuses a stream that has ended. -/
def check : Reader Unit := do
  if (← get).ended then throw .corrupt

/-- The number of segments. -/
def segments : Nat := 4

/-- Takes the chances of the segments of blocks. -/
def takeSegmentChances : Nat → Reader Unit
  | 0 => pure ()
  | count + 1 => do
    if ← takeFlag then discard <| takeNumber 8
    takeSegmentChances count

/-- Takes how blocks are divided into segments. -/
def takeSegments : Reader Unit := do
  let hasChances ← takeFlag
  if ← takeFlag then
    discard takeFlag
    takeAllSigned 7 segments
    takeAllSigned 6 segments
  if hasChances then takeSegmentChances (segments - 1)
  check

/-- Takes how edges between blocks are smoothed. -/
def takeSmoothing : Reader Unit := do
  discard <| takeNumber 10
  if ← takeFlag then
    if ← takeFlag then
      takeAllSigned 6 4
      takeAllSigned 6 4
    check

/-- Takes the bits up to the number of parts of the pixels, and tells that number. -/
def takeParts : Reader Nat := do
  let colors ← takeFlag
  discard takeFlag
  if colors then throw (.colors 1)
  if ← takeFlag then takeSegments
  takeSmoothing
  let parts ← takeNumber 2
  check
  return Nat.pow 2 parts

/-- The chances that the chances of later bits do not change, in rows. What a row lacks is 255. -/
def keptChances : List (List Nat) := [
  [], [], [], [176, 246], [223, 241, 252], [249, 253, 253], [255, 244, 252], [234, 254, 254],
  [253], [255, 246, 254], [239, 253, 254], [254, 255, 254], [255, 248, 254], [251, 255, 254], [],
  [255, 253, 254], [251, 254, 254], [254, 255, 254], [255, 254, 253, 255, 254],
  [250, 255, 254, 255, 254], [254], [], [], [],
  [217], [225, 252, 241, 253, 255, 255, 254], [234, 250, 241, 250, 253, 255, 253, 254],
  [255, 254], [223, 254, 254], [238, 253, 254, 254], [255, 248, 254], [249, 254], [],
  [255, 253], [247, 254], [], [255, 253, 254], [252], [], [255, 254, 254], [253], [],
  [255, 254, 253], [250], [254], [], [], [],
  [186, 251, 250], [234, 251, 244, 254], [251, 251, 243, 253, 254, 255, 254], [255, 253, 254],
  [236, 253, 254], [251, 253, 253, 254, 254], [255, 254, 254], [254, 254, 254], [], [255, 254],
  [254, 254], [], [], [254], [], [], [], [], [], [], [], [], [], [],
  [248], [250, 254, 252, 254], [248, 254, 249, 253], [255, 253, 253], [246, 253, 253],
  [252, 254, 251, 254, 254], [255, 254, 252], [248, 254, 253], [253, 255, 254, 254],
  [255, 251, 254], [245, 251, 254], [253, 253, 254], [255, 251, 253], [252, 253, 254],
  [255, 254], [255, 252], [249, 255, 254], [255, 255, 254], [255, 255, 253], [250], [], [],
  [254], []]

/-- The number of chances in a row. -/
def rowLength : Nat := 11

/-- The chance that a chance does not change where a row lacks it. -/
def usualChance : Nat := 255

/-- A row with all of its chances. -/
def wholeRow (row : List Nat) : List Nat :=
  row ++ List.replicate (rowLength - row.length) usualChance

/-- Takes the chances of later bits that change. -/
def takeChances : List Nat → Reader Unit
  | [] => pure ()
  | chance :: rest => do
    if ← takeBit chance then discard <| takeNumber 8
    takeChances rest

/-- Takes the bits from the number of parts to the end of the head. -/
def takeRest : Reader Unit := do
  discard <| takeNumber 7
  takeAllSigned 4 5
  check
  discard takeFlag
  takeChances (keptChances.flatMap wholeRow)
  if ← takeFlag then discard <| takeNumber 8
  check

end FileQuery.Picture.WebP.Lossy

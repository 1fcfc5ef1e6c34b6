import FileQuery.Bytes
import FileQuery.Compression.Flaw
import FileQuery.Compression.Zstandard.Block

/-!
# Frames and their checksum

Bytes are read from frames, and a frame may end with a checksum of what it stands for.
-/

/-!
## A checksum by mixing

Four sums take the words of eight bytes in turn, each by a product and a rotation. Then they are
joined with the number of bytes and with the bytes that are left.
-/

namespace FileQuery.Compression.Mixing

/-- The factors. -/
def factor1 : UInt64 := 0x9E3779B185EBCA87
def factor2 : UInt64 := 0xC2B2AE3D27D4EB4F
def factor3 : UInt64 := 0x165667B19E3779F9
def factor4 : UInt64 := 0x85EBCA77C2B2AE63
def factor5 : UInt64 := 0x27D4EB2F165667C5

/-- A word with its bits turned to the left. -/
def turned (word : UInt64) (count : UInt64) : UInt64 :=
  (word <<< count) ||| (word >>> (64 - count))

/-- A sum after another word. -/
def add (sum word : UInt64) : UInt64 := turned (sum + word * factor2) 31 * factor1

/-- The word of eight bytes. -/
def word (bytes : List UInt8) : UInt64 := UInt64.ofNat (Bytes.lowFirst bytes)

/-- The four sums. -/
structure Sums where
  first : UInt64
  second : UInt64
  third : UInt64
  fourth : UInt64

/-- The sums at the start. -/
def Sums.start : Sums := ⟨factor1 + factor2, factor2, 0, 0 - factor1⟩

/-- The number of bytes of a round. -/
def roundSize : Nat := 32

/-- The sums after rounds, and the bytes that are left. -/
def rounds : Nat → Sums → List UInt8 → Sums × List UInt8
  | 0, sums, bytes => (sums, bytes)
  | count + 1, sums, bytes =>
    rounds count
      ⟨add sums.first (word (bytes.take 8)), add sums.second (word ((bytes.drop 8).take 8)),
        add sums.third (word ((bytes.drop 16).take 8)),
        add sums.fourth (word ((bytes.drop 24).take 8))⟩
      (bytes.drop roundSize)

/-- The four sums joined. -/
def Sums.joined (sums : Sums) : UInt64 :=
  let all := [sums.first, sums.second, sums.third, sums.fourth]
  let start := turned sums.first 1 + turned sums.second 7 + turned sums.third 12
    + turned sums.fourth 18
  all.foldl (fun value sum => (value ^^^ add 0 sum) * factor1 + factor4) start

/-- A value after the bytes that are left. -/
def finish (value : UInt64) : List UInt8 → UInt64
  | a :: b :: c :: d :: e :: f :: g :: h :: rest =>
    finish (turned (value ^^^ add 0 (word [a, b, c, d, e, f, g, h])) 27 * factor1 + factor4) rest
  | a :: b :: c :: d :: rest =>
    finish (turned (value ^^^ (word [a, b, c, d] * factor1)) 23 * factor2 + factor3) rest
  | byte :: rest => finish (turned (value ^^^ (word [byte] * factor5)) 11 * factor1) rest
  | [] => value

/-- A value with its bits spread. -/
def spread (value : UInt64) : UInt64 :=
  let value := (value ^^^ (value >>> 33)) * factor2
  let value := (value ^^^ (value >>> 29)) * factor3
  value ^^^ (value >>> 32)

/-- The checksum of bytes. -/
def checksum (bytes : List UInt8) : UInt64 :=
  let count := bytes.length / roundSize
  let (sums, rest) := rounds count .start bytes
  let value := if count = 0 then factor5 else sums.joined
  spread (finish (value + UInt64.ofNat bytes.length) rest)

end FileQuery.Compression.Mixing

/-!
## Frames of blocks

Bytes are frames one after another. A frame has a header, blocks, and maybe a checksum of the bytes
that it stands for. A block holds bytes as they are, one byte that is repeated, or literals and
sequences. There are frames that are passed over.
-/

namespace FileQuery.Compression

namespace Zstandard

/-- The mark of a frame. -/
def frameMark : List UInt8 := [0x28, 0xB5, 0x2F, 0xFD]

/-- The end of the mark of a frame that is passed over. -/
def skippedMark : List UInt8 := [0x2A, 0x4D, 0x18]

/-- The largest size of a window. -/
def windowLimit : Nat := 0x8000001

/-- How a frame ends: its flaw, or the bytes after it. What was made of it remains. -/
structure FrameEnd where
  output : Array UInt8
  result : Except CompressionFlaw (List UInt8)

/-- What the header of a frame tells. -/
structure FrameHeader where
  /-- The size of the result, if it is told. -/
  size : Option Nat
  /-- The largest number of bytes that a block stands for. -/
  blockSize : Nat
  hasChecksum : Bool
  deriving DecidableEq, Repr

/-- The number of bytes at the start of bytes, and the bytes after them. -/
def split (count : Nat) (bytes : List UInt8) : Except CompressionFlaw (List UInt8 × List UInt8) :=
  if bytes.length < count then .error .frameIncomplete else .ok (bytes.take count, bytes.drop count)

/-- The header of a frame at the start of bytes, and the bytes after it. -/
def FrameHeader.read (bytes : List UInt8) :
    Except CompressionFlaw (FrameHeader × List UInt8) := do
  let (first, rest) ← split 1 bytes
  let flags := Bytes.lowFirst first
  let single := flags.testBit 5
  let dictionarySize := [0, 1, 2, 4].getD (flags % 4) 0
  let countSize := [if single then 1 else 0, 2, 4, 8].getD (flags / 64) 0
  let (window, rest) ← split (if single then 0 else 1) rest
  let (dictionary, rest) ← split dictionarySize rest
  let (count, rest) ← split countSize rest
  if flags.testBit 3 then throw .frameFeature
  let size := if countSize = 0 then none
    else some (Bytes.lowFirst count + if countSize = 2 then 256 else 0)
  let window := if single then size.getD 0 else
    let told := Bytes.lowFirst window
    let least := Nat.pow 2 (10 + told / 8)
    least + least / 8 * (told % 8)
  if windowLimit < window then throw .frameWindow
  if Bytes.lowFirst dictionary ≠ 0 then throw .frameDictionary
  return (⟨size, min window blockLimit, flags.testBit 2⟩, rest)

/-- The flaw of a corrupt block. -/
def flawOf : Corruption → CompressionFlaw
  | .corrupt => .frameCorrupt
  | .noCode => .frameCode

/-- What ends a frame, after what has been made of its blocks. -/
def finishFrame (header : FrameHeader) (bytes : List UInt8) (output : Array UInt8) : FrameEnd :=
  let result : Except CompressionFlaw (List UInt8) := do
    if header.size.any (· ≠ output.size) then throw .frameCorrupt
    if header.hasChecksum then
      let (found, rest) ← split 4 bytes
      let computed := (Mixing.checksum output.toList).toNat % 0x100000000
      if Bytes.lowFirst found ≠ computed then throw .frameChecksum
      return rest
    else return bytes
  ⟨output, result⟩

/-- Reads blocks after others of a frame. Each takes three bytes at least. -/
def blocks (header : FrameHeader) : Nat → Memory → List UInt8 → Array UInt8 → FrameEnd
  | 0, _, _, output => ⟨output, .error .frameIncomplete⟩
  | fuel + 1, memory, bytes, output =>
    match split 3 bytes with
    | .error flaw => ⟨output, .error flaw⟩
    | .ok (head, rest) =>
      let head := Bytes.lowFirst head
      let kind := head / 2 % 4
      let size := head / 8
      let stored := if kind = 1 then 1 else size
      if kind = 3 ∨ header.blockSize < size then ⟨output, .error .frameCorrupt⟩
      else
        match split stored rest with
        | .error flaw =>
          ⟨if kind = 0 then rest.foldl (·.push ·) output else output, .error flaw⟩
        | .ok (data, rest) =>
          let made : Except CompressionFlaw (Array UInt8 × Memory) :=
            if kind = 0 then .ok (data.foldl (·.push ·) output, memory)
            else if kind = 1 then .ok (output ++ Array.replicate size (data.headD 0), memory)
            else if size = 0 ∧ header.size.isNone then .ok (output, memory)
            else (decodeBlock memory data output).mapError flawOf
          match made with
          | .error flaw => ⟨output, .error flaw⟩
          | .ok (output, memory) =>
            if head % 2 = 1 then finishFrame header rest output
            else blocks header fuel memory rest output

/-- Whether bytes begin like a frame that is passed over. -/
def isSkipped : List UInt8 → Bool
  | [] => false
  | first :: rest =>
    0x50 ≤ first && first < 0x60 && (rest.isPrefixOf skippedMark || skippedMark.isPrefixOf rest)

/-- Reads a frame. Its mark is looked at as far as there are bytes. -/
def frame (bytes : List UInt8) : FrameEnd :=
  if isSkipped bytes then
    ⟨#[], do
      let (size, rest) ← split 4 (bytes.drop 4)
      let (_, rest) ← split (Bytes.lowFirst size) rest
      return rest⟩
  else if bytes.isPrefixOf frameMark then ⟨#[], .error .frameIncomplete⟩
  else if frameMark.isPrefixOf bytes then
    match FrameHeader.read (bytes.drop 4) with
    | .error flaw => ⟨#[], .error flaw⟩
    | .ok (header, rest) => blocks header (rest.length + 1) .start rest #[]
  else ⟨#[], .error .frameMark⟩

/-- Reads frames one after another. Each takes eight bytes at least. When a frame has no meaning,
    what was made of it since the last whole piece is lost. -/
def frames : Nat → List UInt8 → Array UInt8 → Decompressed
  | 0, _, output => (output.toList, some .frameIncomplete)
  | fuel + 1, bytes, output =>
    match frame bytes with
    | ⟨made, .ok rest⟩ =>
      if rest.isEmpty then ((output ++ made).toList, none) else frames fuel rest (output ++ made)
    | ⟨made, .error .frameIncomplete⟩ => ((output ++ made).toList, some .frameIncomplete)
    | ⟨made, .error flaw⟩ => (output.toList ++ wholePieces pieceSize made.toList, some flaw)

end Zstandard

/-- The bytes that frames stand for. -/
def unframe (bytes : List UInt8) : Decompressed :=
  Zstandard.frames (bytes.length + 1) bytes #[]

end FileQuery.Compression

import FileQuery.Compression.Deflate
import FileQuery.Media.Picture.Reading

/-!
# Pictures of palette indices

A picture has a screen, maybe a palette for it, and blocks. A block holds a frame, or an extension
that can be passed over. The first frame is read. Its pixels are indices into a palette; they are
written as codes that stand for growing runs of pixels.
-/

namespace FileQuery.Picture.Gif

/-- Why bytes are no picture of this format. -/
inductive Reason
  | ended
  | mark
  | blockKind
  | controlSize
  | codeSize
  | noPalette
  | noPixels
  /-- A code stands for nothing. -/
  | code
  | fewPixels
  deriving DecidableEq, Repr

/-- A reason in words. -/
def Reason.words : Reason → String
  | ended => "Unexpected End of File"
  | mark => "malformed GIF header"
  | blockKind => "unknown block type encountered"
  | controlSize => "control extension has wrong length"
  | codeSize => "invalid minimal code size"
  | noPalette => "no color table available for current frame"
  | noPixels => "file does not contain any image data"
  | code => "invalid code in LZW stream"
  | fewPixels => "image truncated"

/-- Readers of pictures of this format. -/
abbrev Reader := Reading Reason

/-- Takes a number of bytes. -/
def taken (count : Nat) : Reader (List UInt8) := takeOr (fun _ => .malformed .ended) count

/-- Takes a number of a width. -/
def takenNumber (width : Nat) : Reader Nat := return Bytes.lowFirst (← taken width)

/-! ### Codes -/

/-- The largest number of bits of a code. -/
def widest : Nat := 12

/-- What has been read of codes: for each code that stands for pixels the number of them, in the
    order of the codes, and the number of pixels of the last code. -/
structure Codes where
  /-- The number of bits of the smallest codes. -/
  least : Nat
  runs : Array Nat
  last : Option Nat
  width : Nat

namespace Codes

/-- The code that forgets all runs. -/
def clear (least : Nat) : Nat := Nat.pow 2 least

/-- The codes at the start: one for each index, and two that stand for no pixels. -/
def start (least : Nat) : Codes := ⟨least, Array.replicate (clear least + 2) 1, none, least + 1⟩

/-- The codes with a new run of a number of pixels, as long as there is a code for it. -/
def grow (codes : Codes) (run : Nat) : Codes :=
  if codes.runs.size < Nat.pow 2 widest then
    let runs := codes.runs.push run
    let width := if runs.size = Nat.pow 2 codes.width ∧ codes.width < widest then codes.width + 1
      else codes.width
    { codes with runs, width }
  else codes

end Codes

/-- How the codes of a frame end. -/
inductive CodeEnd
  /-- All pixels have been read. -/
  | full
  /-- A code stands for nothing. -/
  | wrong
  /-- There are too few codes. -/
  | short
  deriving DecidableEq, Repr

/-- Reads codes until a number of pixels has been read. Each code takes a bit at least. -/
def readCodes : Nat → Codes → Nat → List Bool → CodeEnd
  | 0, _, _, _ => .short
  | fuel + 1, codes, pixels, bits =>
    if pixels = 0 then .full
    else
      match Compression.Inflation.split? codes.width bits with
      | none => .short
      | some (taken, rest) =>
        let code := Compression.Inflation.number taken
        if code = Codes.clear codes.least then readCodes fuel (.start codes.least) pixels rest
        else if code = Codes.clear codes.least + 1 then .short
        else
          let known := codes.runs[code]?
          match codes.last, known with
          | none, none => .wrong
          | none, some run => readCodes fuel { codes with last := some run } (pixels - run) rest
          | some last, some run =>
            readCodes fuel { codes.grow (last + 1) with last := some run } (pixels - run) rest
          | some last, none =>
            if code = codes.runs.size then
              let run := last + 1
              readCodes fuel { codes.grow run with last := some run } (pixels - run) rest
            else .wrong

/-! ### Blocks -/

/-- Takes data in pieces up to an empty one, and tells whether there is one. Each piece takes a
    byte at least. -/
def pieces : Nat → Reader (List UInt8 × Bool)
  | 0 => return ([], false)
  | fuel + 1 => do
    if (← left) = 0 then return ([], false)
    let size ← takenNumber 1
    if size = 0 then return ([], true)
    let available := min size (← left)
    let piece ← taken available
    if available < size then return (piece, false)
    let (rest, complete) ← pieces fuel
    return (piece ++ rest, complete)

/-- Takes data in pieces up to an empty one. -/
def wholePieces : Reader (List UInt8) := do
  let (data, complete) ← pieces ((← left) + 1)
  require complete .ended
  return data

/-- The kinds of blocks. -/
def extensionKind : Nat := 0x21
def frameKind : Nat := 0x2C
def endKind : Nat := 0x3B

/-- The kind of an extension that controls a frame. -/
def controlKind : Nat := 0xF9

/-- Passes over an extension. -/
def extension : Reader Unit := do
  if (← takenNumber 1) = controlKind then
    require ((← takenNumber 1) == 4) .controlSize
    discard <| taken 4
  discard wholePieces

/-- Reads blocks up to the start of a frame. Each block takes a byte at least. -/
def frameStart : Nat → Reader Unit
  | 0 => refuse .ended
  | fuel + 1 => do
    let kind ← takenNumber 1
    if kind = extensionKind then
      extension
      frameStart fuel
    else if kind = endKind then refuse .noPixels
    else require (kind == frameKind) .blockKind

/-- Takes the palette that flags tell of, and tells whether there is one. -/
def palette (flags : Nat) : Reader Bool := do
  if 128 ≤ flags then
    discard <| taken (3 * Nat.pow 2 (flags % 8 + 1))
    return true
  else return false

/-- The largest number of bits of the smallest codes. -/
def largestLeast : Nat := 11

/-- The bytes of a pixel. -/
def pixelSize : Nat := 4

/-- Reads a picture. -/
def read : Reader Unit := do
  let found ← taken 6
  require (found == mark "GIF87a" || found == mark "GIF89a") .mark
  let width ← takenNumber 2
  let height ← takenNumber 2
  let flags ← takenNumber 1
  discard <| taken 2
  let common ← palette flags
  frameStart ((← left) + 1)
  let screen := width * height * pixelSize
  reserve screen
  let column ← takenNumber 2
  let row ← takenNumber 2
  let frameWidth ← takenNumber 2
  let frameHeight ← takenNumber 2
  let own ← palette (← takenNumber 1)
  let least ← takenNumber 1
  require (least ≤ largestLeast) .codeSize
  require (common || own) .noPalette
  let pixels := frameWidth * frameHeight
  if column ≠ 0 ∨ frameWidth ≠ width ∨ height < row + frameHeight then
    reserve (screen + pixels * pixelSize)
  let (data, complete) ← pieces ((← left) + 1)
  let bits := data.flatMap Compression.Inflation.bitsOf
  match readCodes (bits.length + 1) (.start least) pixels bits with
  | .full => pure ()
  | .wrong => refuse .code
  | .short => refuse (if complete then .fewPixels else .ended)

end FileQuery.Picture.Gif

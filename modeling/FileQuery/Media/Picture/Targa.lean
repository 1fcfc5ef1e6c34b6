import FileQuery.Media.Picture.Reading

/-!
# Pictures of pixels or runs

A picture has a header, a text, maybe a palette, and pixels. Pixels are colors, shades of gray or
indices into the palette. They are written one by one, or in runs.
-/

namespace FileQuery.Picture.Targa

/-- Why bytes are no picture of this format. -/
inductive Reason
  | empty
  | paletteKind
  | indexSize
  | alphaBits
  | index
  deriving DecidableEq, Repr

/-- A reason in words. -/
def Reason.words : Reason → String
  | empty => "Invalid empty image"
  | paletteKind => "Color map type must be 1 for color mapped images"
  | indexSize => "Color map must use 1 or 2 byte indexes"
  | alphaBits => "More alpha bits than pixel bits"
  | index => "Invalid color map index"

/-- Readers of pictures of this format. -/
abbrev Reader := Reading Reason

/-- What the header tells. -/
structure Header where
  textLength : Nat
  hasPalette : Bool
  kind : Nat
  paletteStart : Nat
  paletteLength : Nat
  entryBits : Nat
  width : Nat
  height : Nat
  bits : Nat
  alphaBits : Nat
  deriving DecidableEq, Repr

namespace Header

/-- Takes a header. -/
def taken : Reader Header := do
  let textLength ← takeByte
  let paletteKind ← takeByte
  let kind ← takeByte
  let paletteStart ← takeLow 2
  let paletteLength ← takeLow 2
  let entryBits ← takeByte
  discard <| take 4
  let width ← takeLow 2
  let height ← takeLow 2
  let bits ← takeByte
  let flags ← takeByte
  return ⟨textLength, paletteKind = 1, kind, paletteStart, paletteLength, entryBits, width, height,
    bits, flags % 16⟩

/-- Whether pixels are indices. -/
def isIndexed (header : Header) : Bool := header.kind == 1 || header.kind == 9

/-- Whether pixels are colors, maybe by indices. -/
def isColored (header : Header) : Bool := [1, 2, 9, 10].contains header.kind

/-- Whether pixels are written in runs. -/
def isPacked (header : Header) : Bool := [9, 10, 11].contains header.kind

/-- The number of bytes of a written pixel. -/
def writtenSize (header : Header) : Nat := (header.bits + 7) / 8

/-- The number of bytes of a color of the palette. -/
def entrySize (header : Header) : Nat := (header.entryBits + 7) / 8

/-- The number of bytes of a pixel that is read, given the numbers of bits of its alpha value and of
    the rest. -/
def pixelSize? (header : Header) (alpha rest : Nat) : Option Nat :=
  if header.isColored then
    if alpha = 0 ∧ rest = 32 ∨ alpha = 8 ∧ rest = 24 then some 4
    else if alpha = 0 ∧ [15, 16, 24].contains rest ∨ alpha = 1 ∧ rest = 15 then some 3
    else none
  else if alpha = 8 ∧ rest = 8 then some 2
  else if alpha = 0 ∧ rest = 8 ∨ alpha = 8 ∧ rest = 0 then some 1
  else none

end Header

/-- Reads pixels that take a number of bytes. What is written of them, last piece first, goes before
    what has been read. Each run takes a byte at least. -/
def readPacked (size : Nat) : Nat → Nat → List (List UInt8) → Reader (List (List UInt8))
  | 0, _, _ => throw (.file .truncated)
  | fuel + 1, missing, before => do
    if missing = 0 then return before
    let kind ← takeByte
    let count := kind % 128 + 1
    let written ← take (if 128 ≤ kind then size else min (count * size) missing)
    readPacked size fuel (missing - count * size) (written :: before)

/-- Reads pixels as they are written. -/
def readPixels (header : Header) : Reader (List UInt8) := do
  let size := header.width * header.height * header.writtenSize
  if header.isPacked then
    let pieces ← readPacked header.writtenSize ((← left) + 1) size []
    return pieces.reverse.flatten
  else
    if (← left) < size then throw (.file .truncated)
    take size

/-- The indices that bytes tell. -/
def indices (size : Nat) : Nat → List UInt8 → List Nat
  | 0, _ => []
  | fuel + 1, bytes =>
    if bytes.length < size ∨ size = 0 then []
    else Bytes.lowFirst (bytes.take size) :: indices size fuel (bytes.drop size)

/-- Reads a picture. -/
def read : Reader Unit := do
  let header ← Header.taken
  require (header.width ≠ 0 && header.height ≠ 0) .empty
  if header.isIndexed then
    require header.hasPalette .paletteKind
    require (header.bits == 8 || header.bits == 16) .indexSize
    if header.entryBits < header.bits then throw (.feature "Indices larger than pixel values")
  discard <| take header.textLength
  if header.hasPalette then
    if header.entrySize < 2 ∨ 4 < header.entrySize then
      throw (.feature "Unsupported color map entry size")
    discard <| take (header.entrySize * header.paletteLength)
  let bits := if header.hasPalette then header.entryBits else header.bits
  require (header.alphaBits ≤ bits) .alphaBits
  let some pixelSize := header.pixelSize? header.alphaBits (bits - header.alphaBits)
    | throw (.color ("Unknown(" ++ toString header.bits ++ ")"))
  reserve (header.width * header.height * pixelSize)
  let written ← readPixels header
  if header.isIndexed then
    let found := indices header.writtenSize written.length written
    require (found.all fun index => header.paletteStart ≤ index
      && index < header.paletteStart + header.paletteLength) .index

end FileQuery.Picture.Targa

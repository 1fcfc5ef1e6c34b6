import FileQuery.Media.Picture.Reading

/-!
# Pictures of textures

A picture has a header of fixed size and blocks of sixteen pixels, compressed in one of three ways.
The way has a name of four letters, or a number in a second header.
-/

namespace FileQuery.Picture.DirectDraw

/-- Why bytes are no picture of this format. -/
inductive Reason
  | mark
  | headerSize (size : Nat)
  | headerFlags (flags : Nat)
  | pixelSize (size : Nat)
  | resource (kind : Nat)
  | moreFlags (flags : Nat)
  | pictures (count : Nat)
  deriving DecidableEq, Repr

/-- Flags in words. -/
def flagsText (flags : Nat) : String := "0x" ++ raised (hexadecimal 8 flags)

/-- A reason in words. -/
def Reason.words : Reason → String
  | mark => "DDS signature not found"
  | headerSize size => "Invalid DDS header size: " ++ toString size
  | headerFlags flags => "Invalid DDS header flags: " ++ flagsText flags
  | pixelSize size => "Invalid DDS PixelFormat size: " ++ toString size
  | resource kind => "Invalid DDS resource dimension: " ++ toString kind
  | moreFlags flags => "Invalid DDS DX10 header flags: " ++ flagsText flags
  | pictures count => "Invalid DDS DX10 array size: " ++ toString count

/-- Readers of pictures of this format. -/
abbrev Reader := Reading Reason

/-- The ways to compress blocks. -/
inductive Way
  | opaqueBlocks
  | plainAlpha
  | steppedAlpha
  deriving DecidableEq, Repr

/-- The number of bytes of a pixel. -/
def Way.pixelSize : Way → Nat
  | opaqueBlocks => 3
  | plainAlpha | steppedAlpha => 4

/-- The number of bytes of a block. -/
def Way.blockSize : Way → Nat
  | opaqueBlocks => 8
  | plainAlpha | steppedAlpha => 16

/-- The flags that a header has to have. -/
def neededFlags : Nat := 0x1007

/-- The flags that a header can have. -/
def knownFlags : Nat := 0x8A100F

/-- The flag of pixels whose way of compression has a name. -/
def namedFlag : Nat := 2

/-- The way of a number. -/
def wayOfNumber? (number : Nat) : Option Way :=
  if 70 ≤ number ∧ number ≤ 72 then some .opaqueBlocks
  else if 73 ≤ number ∧ number ≤ 75 then some .plainAlpha
  else if 76 ≤ number ∧ number ≤ 78 then some .steppedAlpha
  else none

/-- Takes the second header. -/
def takeNumbered : Reader Way := do
  let number ← takeLow 4
  let resource ← takeLow 4
  let flags ← takeLow 4
  let count ← takeLow 4
  let alpha ← takeLow 4
  require (2 ≤ resource && resource ≤ 4) (.resource resource)
  require (flags == 0 || flags == 4) (.moreFlags flags)
  require (resource ≠ 4 || count == 1) (.pictures count)
  require (alpha ≤ 4) (.moreFlags alpha)
  let some way := wayOfNumber? number
    | throw (.feature ("DDS DXGI Format " ++ toString number))
  return way

/-- Takes what follows of the way of compression after its name. -/
def wayOfName (name : List UInt8) : Reader Way :=
  if name = mark "DXT1" then return .opaqueBlocks
  else if name = mark "DXT3" then return .plainAlpha
  else if name = mark "DXT5" then return .steppedAlpha
  else if name = mark "DX10" then takeNumbered
  else throw (.feature ("DDS FourCC " ++ listedDecimal name))

/-- The number of columns and rows of a block. -/
def blockSide : Nat := 4

/-- Reads a picture. -/
def read : Reader Unit := do
  require ((← take 4) == mark "DDS ") .mark
  let size ← takeLow 4
  require (size == 124) (.headerSize size)
  let flags ← takeLow 4
  require (flags &&& neededFlags == neededFlags && flags ||| knownFlags == knownFlags)
    (.headerFlags flags)
  let height ← takeLow 4
  let width ← takeLow 4
  discard <| take 56
  let pixelSize ← takeLow 4
  require (pixelSize == 32) (.pixelSize pixelSize)
  let pixelFlags ← takeLow 4
  let name ← take 4
  discard <| take 40
  if !pixelFlags.testBit namedFlag then throw (.variant "DDS")
  let way ← wayOfName name
  requireCountable width height way.pixelSize
  if width % blockSide ≠ 0 ∨ height % blockSide ≠ 0 then throw .sides
  reserve (width * height * way.pixelSize)
  let blocks := width / blockSide * (height / blockSide)
  if (← left) < blocks * way.blockSize then throw (.file .truncated)

end FileQuery.Picture.DirectDraw

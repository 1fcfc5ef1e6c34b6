import FileQuery.Compression.Deflate

/-!
# Lossless pixels

Lossless pixels are a stream of bits, lowest bit of each byte first. Before the pixels come
transforms, some with a smaller picture of their own. The pixels of a picture are symbols in five
codes: a green value that is followed by the other values of the pixel, the length of pixels that
are repeated from a distance, or the place of a pixel in a cache. A large picture can have groups of
codes, and a picture that tells the group of each of its blocks.

Only the pixels of the picture of groups are kept. The others do not matter to the stream.
-/

namespace FileQuery.Picture.WebP.Lossless

open Compression (Inflation)

/-- Why a stream stands for no pixels. -/
inductive Flaw
  | corrupt
  | code
  | transform
  | cacheBits (bits : Nat)
  deriving DecidableEq, Repr

/-- Readers of a stream. -/
abbrev Reader := ExceptT Flaw (StateM (List Bool))

/-- Refuses a stream unless a rule is kept. -/
def require (kept : Bool) (flaw : Flaw) : Reader Unit := if kept then pure () else throw flaw

/-- Takes a number of bits. -/
def takeBits (count : Nat) : Reader Nat := fun bits =>
  match Inflation.split? count bits with
  | some (taken, rest) => (.ok (Inflation.number taken), rest)
  | none => (.error .corrupt, [])

/-- Takes a bit. -/
def takeBit : Reader Bool := return (← takeBits 1) = 1

/-- A code for symbols. -/
inductive SymbolCode
  /-- The only symbol takes no bits. -/
  | single (symbol : Nat)
  | many (words : Inflation.Words)

namespace SymbolCode

/-- The code with words of lengths. It leaves no words unused. -/
def ofLengths (lengths : List Nat) : Except Flaw SymbolCode :=
  let code : Inflation.Code := lengths
  match code.used with
  | 0 => .error .code
  | 1 => .ok (single (lengths.findIdx (· ≠ 0)))
  | _ => if code.space = Inflation.fullSpace then .ok (many code.words) else .error .code

/-- Whether the code has a single symbol. -/
def isSingle : SymbolCode → Bool
  | single _ => true
  | many _ => false

/-- Takes a symbol. -/
def take : SymbolCode → Reader Nat
  | single symbol => return symbol
  | many words => fun bits =>
    match Inflation.symbol .literal words ⟨bits, #[]⟩ with
    | (.ok symbol, next) => (.ok symbol, next.bits)
    | (.error _, next) => (.error .corrupt, next.bits)

end SymbolCode

/-! ### Codes -/

/-- The order in which the lengths of the code of lengths are written. -/
def lengthOrder : List Nat := [17, 18, 0, 1, 2, 3, 4, 5, 16, 6, 7, 8, 9, 10, 11, 12, 13, 14, 15]

/-- The length that is repeated before there is another one. -/
def firstRepeated : Nat := 8

/-- Takes lengths, last first, for symbols that still have none. The number of symbols of the code
    of lengths that are read is limited. -/
def takeLengths (code : SymbolCode) (count : Nat) : Nat → Nat → List Nat → Reader (List Nat)
  | 0, _, found => return found
  | limit + 1, last, found => do
    if count ≤ found.length then return found
    let symbol ← code.take
    if symbol < 16 then
      takeLengths code count limit (if symbol = 0 then last else symbol) (symbol :: found)
    else
      let (bits, least) := if symbol = 16 then (2, 3) else if symbol = 17 then (3, 3) else (7, 11)
      let repeated := least + (← takeBits bits)
      require (found.length + repeated ≤ count) .corrupt
      let length := if symbol = 16 then last else 0
      takeLengths code count limit last (List.replicate repeated length ++ found)

/-- Takes lengths of three bits each. -/
def takeTriples : Nat → Reader (List Nat)
  | 0 => return []
  | count + 1 => do
    let first ← takeBits 3
    return first :: (← takeTriples count)

/-- Takes a code for a number of symbols. -/
def takeCode (count : Nat) : Reader SymbolCode := do
  if ← takeBit then
    let hasSecond ← takeBit
    let isWide ← takeBit
    let first ← takeBits (if isWide then 8 else 1)
    require (first < count) .corrupt
    if !hasSecond then return .single first
    let second ← takeBits 8
    require (second < count) .corrupt
    return .many ⟨[[first, second]], Inflation.fullSpace⟩
  else
    let written ← takeTriples (4 + (← takeBits 4))
    let lengthCode ← ExceptT.mk (pure (SymbolCode.ofLengths ((List.range 19).map fun symbol =>
      ((lengthOrder.zip written).lookup symbol).getD 0)))
    let limit ← if ← takeBit then do
        let width := 2 + 2 * (← takeBits 3)
        let limit := 2 + (← takeBits width)
        require (limit ≤ count) .corrupt
        pure limit
      else pure count
    let found ← takeLengths lengthCode count limit firstRepeated []
    ExceptT.mk (pure (SymbolCode.ofLengths
      (found.reverse ++ List.replicate (count - found.length) 0)))

/-- The codes of a group. -/
structure Group where
  green : SymbolCode
  red : SymbolCode
  blue : SymbolCode
  alpha : SymbolCode
  distance : SymbolCode

/-- The number of green values. -/
def greens : Nat := 256

/-- The number of symbols for lengths. -/
def lengthSymbols : Nat := 24

/-- The number of symbols for distances. -/
def distanceSymbols : Nat := 40

/-- Takes a group of codes, given the number of pixels in the cache. -/
def takeGroup (cached : Nat) : Reader Group := do
  let green ← takeCode (greens + lengthSymbols + cached)
  let red ← takeCode 256
  let blue ← takeCode 256
  let alpha ← takeCode 256
  let distance ← takeCode distanceSymbols
  return ⟨green, red, blue, alpha, distance⟩

/-- Takes a number of groups, last first. -/
def takeGroups (cached : Nat) : Nat → List Group → Reader (List Group)
  | 0, found => return found
  | count + 1, found => do takeGroups cached count ((← takeGroup cached) :: found)

/-! ### Pixels -/

/-- Takes the number that a symbol stands for. -/
def takeExtended (symbol : Nat) : Reader Nat := do
  if symbol < 4 then return symbol + 1
  let bits := (symbol - 2) / 2
  return (2 + symbol % 2) * Nat.pow 2 bits + (← takeBits bits) + 1

/-- The columns and rows of near pixels, by the numbers of their distances. -/
def nearPlaces : List (Int × Int) := [
  (0, 1), (1, 0), (1, 1), (-1, 1), (0, 2), (2, 0), (1, 2), (-1, 2), (2, 1), (-2, 1), (2, 2),
  (-2, 2), (0, 3), (3, 0), (1, 3), (-1, 3), (3, 1), (-3, 1), (2, 3), (-2, 3), (3, 2), (-3, 2),
  (0, 4), (4, 0), (1, 4), (-1, 4), (4, 1), (-4, 1), (3, 3), (-3, 3), (2, 4), (-2, 4), (4, 2),
  (-4, 2), (0, 5), (3, 4), (-3, 4), (4, 3), (-4, 3), (5, 0), (1, 5), (-1, 5), (5, 1), (-5, 1),
  (2, 5), (-2, 5), (5, 2), (-5, 2), (4, 4), (-4, 4), (3, 5), (-3, 5), (5, 3), (-5, 3), (0, 6),
  (6, 0), (1, 6), (-1, 6), (6, 1), (-6, 1), (2, 6), (-2, 6), (6, 2), (-6, 2), (4, 5), (-4, 5),
  (5, 4), (-5, 4), (3, 6), (-3, 6), (6, 3), (-6, 3), (0, 7), (7, 0), (1, 7), (-1, 7), (5, 5),
  (-5, 5), (7, 1), (-7, 1), (4, 6), (-4, 6), (6, 4), (-6, 4), (2, 7), (-2, 7), (7, 2), (-7, 2),
  (3, 7), (-3, 7), (7, 3), (-7, 3), (5, 6), (-5, 6), (6, 5), (-6, 5), (8, 0), (4, 7), (-4, 7),
  (7, 4), (-7, 4), (8, 1), (8, 2), (6, 6), (-6, 6), (8, 3), (5, 7), (-5, 7), (7, 5), (-7, 5),
  (8, 4), (6, 7), (-6, 7), (7, 6), (-7, 6), (8, 5), (7, 7), (-7, 7), (8, 6), (8, 7)]

/-- The distance of a number in a picture of a width. -/
def distanceOf (width number : Nat) : Nat :=
  match nearPlaces[number - 1]? with
  | some (column, row) => max 1 (column + row * width).toNat
  | none => number - nearPlaces.length

/-- The pixels that have been read: how many there are, and those that are kept. -/
structure Pixels where
  count : Nat
  kept : Array Nat
  cache : Array Nat

/-- The factor by which pixels are spread in a cache. -/
def cacheFactor : Nat := 0x1E35A7BD

/-- The place of a pixel in a cache of a number of bits. -/
def cachePlace (bits pixel : Nat) : Nat :=
  pixel * cacheFactor % 0x100000000 / Nat.pow 2 (32 - bits)

/-- A picture whose pixels are read. -/
structure Plan where
  width : Nat
  height : Nat
  /-- The number of bits of places in a cache, if there is one. -/
  cacheBits : Option Nat
  groups : Array Group
  /-- The number of bits of the sides of a block with one group. -/
  blockBits : Nat
  /-- The group of each block. -/
  blocks : Array Nat
  /-- Whether the pixels are kept. -/
  keeps : Bool

namespace Plan

/-- The number of pixels. -/
def size (plan : Plan) : Nat := plan.width * plan.height

/-- The number of parts that a side has, given the number of bits of a part. -/
def parts (side bits : Nat) : Nat := (side + Nat.pow 2 bits - 1) / Nat.pow 2 bits

/-- The group of the pixel at a place. -/
def group? (plan : Plan) (place : Nat) : Option Group :=
  let block := place / plan.width / Nat.pow 2 plan.blockBits * parts plan.width plan.blockBits
    + place % plan.width / Nat.pow 2 plan.blockBits
  plan.groups[(plan.blocks[block]?).getD 0]?

/-- The pixels with another one after them. -/
def add (plan : Plan) (pixels : Pixels) (pixel : Nat) : Pixels :=
  if plan.keeps then
    let cache := match plan.cacheBits with
      | some bits => pixels.cache.setIfInBounds (cachePlace bits pixel) pixel
      | none => pixels.cache
    ⟨pixels.count + 1, pixels.kept.push pixel, cache⟩
  else { pixels with count := pixels.count + 1 }

/-- The pixels with a number of them repeated from a distance. -/
def copy (plan : Plan) (distance : Nat) : Nat → Pixels → Pixels
  | 0, pixels => pixels
  | count + 1, pixels =>
    copy plan distance count
      (plan.add pixels ((pixels.kept[pixels.kept.size - distance]?).getD 0))

/-- Reads the pixels of a picture in which each one takes bits, or all of a block are the same. -/
def read (plan : Plan) : Nat → Pixels → Reader Pixels
  | 0, pixels => return pixels
  | fuel + 1, pixels => do
    if plan.size ≤ pixels.count then return pixels
    let some group := plan.group? pixels.count | throw .corrupt
    let symbol ← group.green.take
    if symbol < greens then
      let red ← group.red.take
      let blue ← group.blue.take
      let alpha ← group.alpha.take
      let isSame := group.green.isSingle && group.red.isSingle && group.blue.isSingle
        && group.alpha.isSingle
      if isSame && plan.blocks.isEmpty && !plan.keeps then
        return { pixels with count := plan.size }
      else
        let pixel := ((alpha * 256 + red) * 256 + symbol) * 256 + blue
        read plan fuel (plan.add pixels pixel)
    else if symbol < greens + lengthSymbols then
      let length ← takeExtended (symbol - greens)
      let number ← takeExtended (← group.distance.take)
      let distance := distanceOf plan.width number
      require (distance ≤ pixels.count && pixels.count + length ≤ plan.size) .corrupt
      read plan fuel <|
        if plan.keeps then plan.copy distance length pixels
        else { pixels with count := pixels.count + length }
    else
      require plan.cacheBits.isSome .corrupt
      let pixel := (pixels.cache[symbol - greens - lengthSymbols]?).getD 0
      read plan fuel (plan.add pixels pixel)

end Plan

/-- Takes the number of bits of places in a cache, if there is one. -/
def takeCacheBits : Reader (Option Nat) := do
  if ← takeBit then
    let bits ← takeBits 4
    require (1 ≤ bits && bits ≤ 11) (.cacheBits bits)
    return some bits
  else return none

/-- Takes the pixels of a picture that has one group of codes, or a number of groups for its
    blocks. -/
def takePixels (width height : Nat) (cacheBits : Option Nat) (groupCount blockBits : Nat)
    (blocks : Array Nat) (keeps : Bool) : Reader (Array Nat) := do
  let cached := match cacheBits with
    | some bits => Nat.pow 2 bits
    | none => 0
  let groups ← takeGroups cached groupCount []
  let plan : Plan :=
    ⟨width, height, cacheBits, groups.reverse.toArray, blockBits, blocks, keeps⟩
  let cache := if keeps then Array.replicate cached 0 else #[]
  return (← plan.read plan.size ⟨0, #[], cache⟩).kept

/-- Takes a smaller picture. -/
def takeSmall (width height : Nat) (keeps : Bool) : Reader (Array Nat) := do
  takePixels width height (← takeCacheBits) 1 0 #[] keeps

/-- Takes the picture itself. -/
def takeWhole (width height : Nat) : Reader Unit := do
  let cacheBits ← takeCacheBits
  if ← takeBit then
    let blockBits := 2 + (← takeBits 3)
    let pixels ← takeSmall (Plan.parts width blockBits) (Plan.parts height blockBits) true
    let blocks := pixels.map fun pixel => pixel / 256 % 65536
    let groupCount := blocks.foldl max 0 + 1
    discard <| takePixels width height cacheBits groupCount blockBits blocks false
  else discard <| takePixels width height cacheBits 1 0 #[] false

/-- Takes transforms, each of another kind than those before it, and tells the width that is left.
    There are four kinds. -/
def takeTransforms (height : Nat) : Nat → List Nat → Nat → Reader Nat
  | 0, _, width => return width
  | fuel + 1, seen, width => do
    if !(← takeBit) then return width
    let kind ← takeBits 2
    require (!seen.contains kind) .transform
    let width ← match kind with
      | 0 | 1 => do
        let bits := 2 + (← takeBits 3)
        discard <| takeSmall (Plan.parts width bits) (Plan.parts height bits) false
        pure width
      | 2 => pure width
      | _ => do
        let colors := 1 + (← takeBits 8)
        discard <| takeSmall colors 1 false
        let bits := if colors ≤ 2 then 3 else if colors ≤ 4 then 2 else if colors ≤ 16 then 1 else 0
        pure (Plan.parts width bits)
    takeTransforms height fuel (kind :: seen) width

/-- The flaw of the bytes of a picture with sides, after its header. -/
def flaw? (width height : Nat) (bytes : List UInt8) : Option Flaw :=
  let reader : Reader Unit := do
    takeWhole (← takeTransforms height 5 [] width) height
  match (reader.run (bytes.flatMap Inflation.bitsOf)).1 with
  | .ok () => none
  | .error flaw => some flaw

end FileQuery.Picture.WebP.Lossless

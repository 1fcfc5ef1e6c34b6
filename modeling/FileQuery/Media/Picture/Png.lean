import FileQuery.Media.Picture.Png.Chunk

/-!
# Network pictures

A picture is made of chunks, and its pixels stand in rows.
-/

/-!
## Rows of a network picture

The header tells the sides of the picture and what a pixel is made of. The pixels stand in rows,
each after the number of a filter. An interlaced picture is made of seven smaller ones, with more
and more of the pixels.
-/

namespace FileQuery.Picture.Png

/-- The header of a picture. -/
structure Header where
  width : Nat
  height : Nat
  depth : Nat
  kind : ColorKind
  interlaced : Bool
  deriving DecidableEq, Repr

namespace Header

/-- The number of bytes of a header. -/
def size : Nat := 13

/-- The header in the data of a chunk. -/
def ofData (data : List UInt8) : Except Reason Header := do
  if data.length ≠ size then throw (.length .header)
  let width := number data 0 4
  let height := number data 4 4
  if width = 0 ∨ height = 0 then throw .sides
  let depth := number data 8 1
  let color := number data 9 1
  let some depthName := depthName depth | throw (.depth depth)
  let some kind := ColorKind.ofNumber? color | throw (.color color)
  if !kind.depths.contains depth then throw (.combination kind depthName)
  let compression := number data 10 1
  if compression ≠ 0 then throw (.compression compression)
  let filter := number data 11 1
  if filter ≠ 0 then throw (.filter filter)
  let interlace := number data 12 1
  if 1 < interlace then throw (.interlace interlace)
  return ⟨width, height, depth, kind, interlace = 1⟩

/-- The number of bytes that the pixels take when they are read. -/
def memory (header : Header) (transparent : Bool) : Nat :=
  let samples := match header.kind with
    | .gray => if transparent then 2 else 1
    | .rgb | .indexed => if transparent then 4 else 3
    | .grayAlpha => 2
    | .rgbAlpha => 4
  header.width * header.height * samples * (if header.depth = 16 then 2 else 1)

/-- The number of bytes of a row of a number of pixels, with the number of the filter. -/
def rowSize (header : Header) (pixels : Nat) : Nat :=
  1 + (pixels * header.kind.samples * header.depth + 7) / 8

/-- For each of the smaller pictures the offsets of the first column and row, and the steps from
    one to the next. -/
def passes : List (Nat × Nat × Nat × Nat) := [
  (0, 0, 8, 8), (4, 0, 8, 8), (0, 4, 4, 8), (2, 0, 4, 4), (0, 2, 2, 4), (1, 0, 2, 2), (0, 1, 1, 2)]

/-- How many of a number of lines are taken from an offset on by a step. -/
def taking (lines offset step : Nat) : Nat := (lines - offset + (step - 1)) / step

/-- The numbers of rows and the number of bytes of each. -/
def rows (header : Header) : List (Nat × Nat) :=
  if header.interlaced then
    passes.filterMap fun (column, row, columnStep, rowStep) =>
      let width := taking header.width column columnStep
      let height := taking header.height row rowStep
      if width = 0 ∨ height = 0 then none else some (height, header.rowSize width)
  else [(header.height, header.rowSize header.width)]

end Header

/-- The largest number of a filter. -/
def lastFilter : Nat := 4

/-- Whether bytes hold all rows, where each row is one that can be read. A row takes a byte at
    least. -/
def holdsRows (readable : Bool) : Nat → List (Nat × Nat) → List UInt8 → Except Reason Bool
  | 0, rows, _ => .ok rows.isEmpty
  | _ + 1, [], _ => .ok true
  | fuel + 1, (0, _) :: rows, bytes => holdsRows readable fuel rows bytes
  | fuel + 1, (count + 1, size) :: rows, bytes =>
    match bytes with
    | [] => .ok false
    | filter :: _ =>
      if bytes.length < size then .ok false
      else if lastFilter < filter.toNat then .error (.filter filter.toNat)
      else if !readable then .error .noPalette
      else holdsRows readable fuel ((count, size) :: rows) (bytes.drop size)

/-- What has been made of compressed pixels. -/
structure Unpacked where
  bytes : List UInt8
  /-- Whether the compressed pixels are complete. -/
  complete : Bool
  deriving DecidableEq, Repr

/-- The number of bytes of the checksum after compressed pixels. -/
def streamChecksumSize : Nat := 4

/-- Whether two bytes are the header of compressed pixels. -/
def isStreamHeader (first second : UInt8) : Bool :=
  first.toNat % 16 == 8 && first.toNat / 16 ≤ 7 && !second.toNat.testBit 5
    && (first.toNat * 256 + second.toNat) % 31 == 0

/-- What can be made of compressed pixels so far. -/
def unpack : List UInt8 → Except Reason Unpacked
  | first :: second :: stream =>
    if isStreamHeader first second then
      match Compression.inflateWith .strict stream with
      | (bytes, none, left) => .ok ⟨bytes, streamChecksumSize ≤ left.length / 8⟩
      | (bytes, some .unfinished, _) => .ok ⟨bytes, false⟩
      | (_, some flaw, _) => .error (.stream flaw)
    else .error .streamHeader
  | _ => .ok ⟨[], false⟩

end FileQuery.Picture.Png

/-!
## Network pictures

A picture has a header, then maybe a palette and more, then its pixels in one chunk or in chunks
that follow each other. A flaw of a chunk that a reader need not know is passed over. Pixels are
read as they come, up to the name of the chunk after them.
-/

namespace FileQuery.Picture.Png

/-- What is known of a picture before its pixels. -/
structure Heading where
  header : Option Header
  palette : Bool
  transparent : Bool
  /-- The number of the last frame of an animation. -/
  sequence : Option Nat
  /-- Whether the pixels of a frame of an animation may follow. -/
  frameReady : Bool
  deriving DecidableEq, Repr

/-- What is known at the start. -/
def Heading.start : Heading := ⟨none, false, false, none, false⟩

/-- Whether the sides are not longer than a limit, if there is one. -/
def Heading.isWithin (heading : Heading) (limit : Option (Nat × Nat)) : Bool :=
  match heading.header, limit with
  | some header, some (width, height) => header.width ≤ width && header.height ≤ height
  | _, _ => true

/-- Takes the length and the name of a chunk. -/
def chunkHead : Reader (Nat × ChunkName) := do
  let length ← takenNumber
  let letters ← taken 4
  return (length, ⟨letters⟩)

/-- Takes the checksum of a chunk, and tells the reason why it is not that of its bytes. -/
def checksumReason (name : ChunkName) (data : List UInt8) : Reader (Option Reason) := do
  let found ← takenNumber
  let computed := Compression.checksum (name.letters ++ data)
  return if found = computed then none else some (.checksum found computed name)

/-- The mark at the start, in two halves. -/
def startMark : List UInt8 × List UInt8 := ([0x89, 0x50, 0x4E, 0x47], [0x0D, 0x0A, 0x1A, 0x0A])

/-- Checks a frame of an animation before the pixels: it has to be the picture itself. -/
def checkFrame (header : Header) (data : List UInt8) : Except Reason Unit := do
  if data.length < 26 then throw (.length .frameControl)
  let disposal := number data 24 1
  if 2 < disposal then throw (.disposal disposal)
  let blend := number data 25 1
  if 1 < blend then throw (.blend blend)
  if number data 4 4 ≠ header.width ∨ number data 8 4 ≠ header.height
      ∨ number data 12 4 ≠ 0 ∨ number data 16 4 ≠ 0 then throw .frame

/-- What is known after the control of a frame. -/
def controlled (heading : Heading) (header : Header) (data : List UInt8) :
    Except Reason Heading := do
  if data.length < 4 then throw (.length .frameControl)
  let expected := match heading.sequence with
    | none => 0
    | some last => last + 1
  let found := number data 0 4
  if found ≠ expected then throw (.order expected found)
  checkFrame header data
  return { heading with sequence := some found, frameReady := true }

/-- What is known after a chunk other than pixels, if there are still pixels to come. -/
def Heading.after (heading : Heading) (name : ChunkName) (data : List UInt8) :
    Except Reason Heading :=
  if name = .header then
    if heading.header.isSome then .error (.duplicate name)
    else (Header.ofData data).map fun header => { heading with header := some header }
  else if name = .palette then
    if heading.palette then .error (.duplicate name) else .ok { heading with palette := true }
  else if name = .ending then .error .noPixels
  else if name = .frameControl then
    match heading.header with
    | some header => controlled heading header data
    | none => .ok heading
  else if name.isCritical then .error (.unknown name)
  else .ok { heading with transparent := heading.transparent || name == .transparency }

/-- The number of bytes of a chunk but for its data. -/
def chunkFrame : Nat := 12

/-- Reads chunks up to the first one of pixels, and tells its length. The sides must not be longer
    than a limit, if there is one. Each chunk takes some bytes. -/
def readHeading (limit : Option (Nat × Nat)) : Nat → Heading → Reader (Header × Heading × Nat)
  | 0, _ => throw (.file .endOfFile)
  | fuel + 1, heading => do
    let (length, name) ← chunkHead
    if heading.header.isNone && name != .header then refuse (.beforeHeader name)
    match heading.header, name == .pixels with
    | some header, true => return (header, heading, length)
    | _, _ =>
      if name = .framePixels ∧ !heading.frameReady then refuse (.restart name)
      let data ← taken length
      match ← checksumReason name data with
      | some reason =>
        if name.isCritical then refuse reason else readHeading limit fuel heading
      | none =>
        match heading.after name data with
        | .ok next =>
          if !next.isWithin limit then throw .sideLimit
          readHeading limit fuel next
        | .error reason => refuse reason

/-- Reads pixels after those that have been read, and the chunks of pixels that follow. Each chunk
    takes some bytes. -/
def readPixels (header : Header) (readable : Bool) : Nat → Nat → List UInt8 → Reader Unit
  | 0, _, _ => throw (.file .endOfFile)
  | fuel + 1, length, before => do
    let available := min length (← left)
    let data ← taken available
    let packed := before ++ data
    match unpack packed with
    | .error reason => refuse reason
    | .ok unpacked =>
      match holdsRows readable (unpacked.bytes.length + 8) header.rows unpacked.bytes with
      | .error reason => refuse reason
      | .ok full =>
        if available < length then throw (.file .endOfFile)
        if let some reason ← checksumReason .pixels data then refuse reason
        let (next, name) ← chunkHead
        if name = .pixels then readPixels header readable fuel next packed
        else if !unpacked.complete then refuse (.stream .unfinished)
        else require full .fewPixels

/-- A picture up to its pixels. -/
structure Opened where
  header : Header
  heading : Heading
  /-- The length of the first chunk of pixels. -/
  length : Nat
  deriving DecidableEq, Repr

/-- The number of bytes that the pixels take when they are read. -/
def Opened.memory (opened : Opened) : Nat := opened.header.memory opened.heading.transparent

/-- Whether the pixels have an alpha value, and eight bits for each value. -/
def Opened.isPlain (opened : Opened) : Bool :=
  opened.memory == opened.header.width * opened.header.height * 4 && opened.header.depth ≤ 8

/-- Reads a picture up to its pixels. -/
def takeOpened (limit : Option (Nat × Nat)) : Reader Opened := do
  require ((← taken 4) == startMark.1) .mark
  require ((← taken 4) == startMark.2) .mark
  let (header, heading, length) ← readHeading limit ((← left) / chunkFrame + 1) .start
  return ⟨header, heading, length⟩

/-- Reads the pixels of a picture. -/
def Opened.readPixels (opened : Opened) : Reader Unit := do
  let readable := opened.heading.palette || opened.header.kind != .indexed
  Png.readPixels opened.header readable ((← left) / chunkFrame + 1) opened.length []

/-- Reads a picture. -/
def read : Reader Unit := do
  let opened ← takeOpened none
  reserve opened.memory
  opened.readPixels

end FileQuery.Picture.Png

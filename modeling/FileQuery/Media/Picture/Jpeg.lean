import FileQuery.Media.Picture.Jpeg.Tables

/-!
# Photographs

A photograph is made of segments, each with a marker. The segment of the frame tells the sides and
the components of the picture, and that of a scan which tables each component has. Then come the
pixels, which are taken as they are: a reader makes something of any bytes.
-/

namespace FileQuery.Picture.Jpeg

/-- A component of a picture. -/
structure Component where
  number : Nat
  name : ComponentName
  quantization : Nat
  /-- The places of its codes, once a scan has told them. -/
  codes : Nat × Nat
  deriving DecidableEq, Repr

/-- What the segment of the frame tells. -/
structure Frame where
  width : Nat
  height : Nat
  /-- Whether each value is written in several scans. -/
  progressive : Bool
  components : List Component
  deriving DecidableEq, Repr

/-- Whether a number is a power of two. -/
def isPower (number : Nat) : Bool := [1, 2, 4, 8].contains number

/-- Takes components from a place on. -/
def takeComponents (place : Nat) : Nat → Reader (List Component)
  | 0 => return []
  | count + 1 => do
    let found ← taken 3
    let part (place : Nat) : Nat := Bytes.highFirst ((found.drop place).take 1)
    let number := part 0
    let sampling := part 1
    let quantization := part 2
    let some name := ComponentName.ofPlace? place
      | refuse (.other ("Unknown component id found," ++ toString place
          ++ ", expected value between 1 and 4"))
    let across := sampling / 16
    let down := sampling % 16
    require (quantization < mostComponents) (.other ("Too large quantization number :"
      ++ toString quantization ++ ", expected value between 0 and " ++ toString mostComponents))
    require (isPower across) (.other ("Horizontal sample is not a power of two("
      ++ toString across ++ ") cannot decode"))
    require (isPower down) (.other ("Vertical sub-sample is not power of two("
      ++ toString down ++ ") cannot decode"))
    return ⟨number, name, quantization, (0, 0)⟩ :: (← takeComponents (place + 1) count)

/-- The segment of a frame. -/
def takeFrame (progressive : Bool) : Reader Frame := do
  let size ← takenNumber 2
  let precision ← takenNumber 1
  require (precision == 8) (.within .frame
    ("The library can only parse 8-bit images, the image has " ++ toString precision
      ++ " bits of precision"))
  let height ← takenNumber 2
  let width ← takenNumber 2
  require (width ≠ 0 && height ≠ 0) .sides
  let count ← takenNumber 1
  require (count ≠ 0) (.within .frame "Number of components cannot be zero.")
  let expected := 8 + 3 * count
  require (size == expected) (.within .frame ("Length of start of frame differs from expected "
    ++ toString expected ++ ",value is " ++ toString size))
  return ⟨width, height, progressive, ← takeComponents 0 count⟩

/-- What the segment of a scan tells. -/
structure Scan where
  frame : Frame
  /-- The components of the scan, as numbers. -/
  numbers : List Nat
  /-- The first and the last value of each block. -/
  first : Nat
  last : Nat
  deriving DecidableEq, Repr

/-- Takes which codes each of a number of components has, and tells the numbers of components that
    have been seen, last first. Some have been seen before. -/
def takeCodes (seen : List Nat) : Nat → List Component → Reader (List Nat × List Component)
  | 0, components => return (seen, components)
  | count + 1, components => do
    let number ← takenNumber 1
    require (!seen.contains number) (.within .frame ("Duplicate ID " ++ toString number
      ++ " seen twice in the same component"))
    let places ← takenNumber 1
    require (components.any (·.number = number)) (.within .frame ("Invalid component id "
      ++ toString number ++ ", expected a value between 0 and " ++ toString components.length))
    let place := components.findIdx (·.number = number)
    let components := components.modify place fun component =>
      { component with codes := (places / 16, places % 16) }
    takeCodes (number :: seen) count components

/-- A parameter of a scan that is beyond its range. -/
def outside (name : String) (value limit : Nat) : Reason :=
  .within .scan ("Invalid " ++ name ++ " parameter " ++ toString value ++ ", range should be 0-"
    ++ toString limit)

/-- The segment of a scan. -/
def takeScan (frame : Option Frame) : Reader Scan := do
  let size ← takenNumber 2
  let count ← takenNumber 1
  require (size == 6 + 2 * count)
    (.within .scan ("Bad SOS length " ++ toString size ++ ",corrupt jpeg"))
  require (1 ≤ count && count ≤ mostComponents) (.within .scan
    ("Invalid number of components in start of scan " ++ toString count
      ++ ", expected in range 1..5"))
  let some frame := frame
    | refuse (.other "Error decoding SOF Marker, Number of components cannot be zero.")
  let (seen, components) ← takeCodes [] count frame.components
  let first ← takenNumber 1
  let last ← takenNumber 1
  let approximation ← takenNumber 1
  require (last ≤ 63) (outside "Se" last 63)
  require (first ≤ 63) (outside "Ss" first 63)
  require (approximation / 16 ≤ 13) (outside "Ah" 0 13)
  require (approximation % 16 ≤ 13) (outside "Al" (approximation % 16) 13)
  return ⟨{ frame with components }, seen.reverse, first, last⟩

/-- The segments that a reader looks at. -/
inductive Marker
  | frame (progressive : Bool)
  /-- A frame that is written in a way that cannot be read. -/
  | otherFrame
  | codes
  | divisors
  | scan
  | ending
  | restarts
  /-- A segment that cannot be read, under a name. -/
  | unsupported (name : String)
  /-- A segment of an application, with a number. -/
  | application (number : Nat)
  /-- A segment that is passed over. -/
  | passed
  /-- A marker that is not known. -/
  | unknown
  deriving DecidableEq, Repr

/-- The marker of a byte. -/
def Marker.ofByte (byte : Nat) : Marker :=
  if byte = 0xC0 ∨ byte = 0xC1 then frame false
  else if byte = 0xC2 then frame true
  else if byte = 0xC4 then codes
  else if byte = 0xCC then unsupported "DAC"
  else if [0xC3, 0xC5, 0xC6, 0xC7, 0xC9, 0xCA, 0xCB, 0xCD, 0xCE, 0xCF].contains byte then otherFrame
  else if byte = 0xD9 then ending
  else if byte = 0xDA then scan
  else if byte = 0xDB then divisors
  else if byte = 0xDC then unsupported "DNL"
  else if byte = 0xDD then restarts
  else if 0xD0 ≤ byte ∧ byte ≤ 0xD8 ∨ byte = 0xFE then passed
  else if [0xE0, 0xE1, 0xE2, 0xED, 0xEE].contains byte then application (byte - 0xE0)
  else unknown

/-- The words for a length of a segment that is too small, after some separator. -/
def invalidLength (separator : String) (size : Nat) : String :=
  "Found a marker with invalid length" ++ separator ++ toString size

/-- Passes over a segment, given the words for a length that is too small. -/
def passOver (words : Nat → String) : Reader Unit := do
  let size ← takenNumber 2
  require (2 ≤ size) (.other (words size))
  leaveOut (size - 2)

/-- The rest of the segment of an application that tells the kind of colors. -/
def readColors (size : Nat) : Reader Unit := do
  require (14 ≤ size) (.other "Too short of a length for App14 segment")
  let name := mark "Adobe"
  if (← peeked name.length) = name then
    leaveOut 11
    let kind ← takenNumber 1
    require (kind ≤ 2) (.other ("Unknown Adobe colorspace " ++ toString kind))
    leaveOut (size - 14)
  else leaveOut (size - 2)

/-- The number of letters of the first application's name. -/
def nameSize : Nat := 5

/-- Notes that applications leave in their segments. -/
structure Note where
  /-- What the data of the segment start with. -/
  name : List UInt8
  /-- The number of bytes between the name and the note. -/
  between : Nat
  deriving DecidableEq, Repr

/-- The note that an application with a number can leave, if it is looked at. -/
def Note.ofApplication? : Nat → Option Note
  | 1 => some ⟨mark "Exif\x00\x00", 0⟩
  | 2 => some ⟨mark "ICC_PROFILE\x00", 2⟩
  | 13 => some ⟨mark "Photoshop 3.0\x00", 0⟩
  | _ => none

/-- Reads data of a size that may be a note. All bytes of a note have to be there. -/
def Note.read (note : Note) (size : Nat) : Reader Unit := do
  let before := note.name.length + note.between
  if before < size && (← peeked note.name.length) == note.name then
    leaveOut before
    discard <| peeked (size - before)
    leaveOut (size - before)
  else leaveOut size

/-- The segment of an application. That of the first one has a name, unless it is too short. -/
def readApplication (number : Nat) : Reader Unit := do
  let size ← takenNumber 2
  let tooSmall := match number with
    | 1 => "Too small app1 length"
    | 2 => "Too small app2 segment"
    | 13 => "Too small APP13 length"
    | 14 => "Too small APP14 length"
    | _ => invalidLength ":" size ++ "\n"
  require (2 ≤ size) (.other tooSmall)
  match number, Note.ofApplication? number with
  | _, some note => note.read (size - 2)
  | 0, none =>
    if nameSize < size then
      discard <| taken nameSize
      leaveOut (size - nameSize - 2)
    else leaveOut (size - 2)
  | 14, none => readColors size
  | _, none => leaveOut (size - 2)

/-- What has been read before the pixels. -/
structure Heading where
  frame : Option Frame
  tables : Tables
  deriving DecidableEq, Repr

/-- Reads a segment, and tells the scan if the pixels follow. -/
def readSegment (heading : Heading) : Marker → Reader (Heading × Option Scan)
  | .frame progressive => do
    if heading.frame.isSome then refuse (.within .frame "Two Start of Frame Markers")
    return ({ heading with frame := some (← takeFrame progressive) }, none)
  | .otherFrame => refuse (.other "Unsupported image format")
  | .codes => return ({ heading with tables := ← codes heading.tables }, none)
  | .divisors => return ({ heading with tables := ← divisors heading.tables }, none)
  | .scan => return (heading, some (← takeScan heading.frame))
  | .ending => refuse (.other "Premature End of image")
  | .restarts => do
    require ((← takenNumber 2) == 4) (.other "Bad DRI length, Corrupt JPEG")
    discard <| taken 2
    return (heading, none)
  | .unsupported name =>
    refuse (.other ("Parsing of the following header \x60" ++ name
      ++ "\x60 is not supported, cannot continue"))
  | .application number => do
    readApplication number
    return (heading, none)
  | .passed => do
    passOver fun size => invalidLength ":" size ++ "\n"
    return (heading, none)
  | .unknown => do
    passOver (invalidLength " : ")
    return (heading, none)

/-- Takes bytes that only fill, and tells the last of them and the byte after them. There are fewer
    of them than of all bytes. -/
def afterFilling (before : Nat) : Nat → Nat → Reader (Nat × Nat)
  | 0, byte => return (before, byte)
  | fuel + 1, byte => do
    if byte = 0xFF ∨ byte = 0 then afterFilling byte fuel (← takenNumber 1)
    else return (before, byte)

/-- Reads segments up to that of a scan, and tells the tables and the scan. A marker follows a byte
    of ones. Each segment takes a byte at least. -/
def readHeading : Nat → Nat → Heading → Reader (Tables × Scan)
  | 0, _, _ => refuse (.ended 1 0)
  | fuel + 1, before, heading => do
    let first ← takenNumber 1
    let (before, byte) ← if before = 0xFF then afterFilling before ((← left) + 1) first
      else pure (before, first)
    if before = 0xFF then
      match ← readSegment heading (.ofByte byte) with
      | (heading, some scan) => return (heading.tables, scan)
      | (heading, none) => readHeading fuel byte heading
    else readHeading fuel byte heading

/-- Checks that the tables of divisors of components are there. -/
def checkDivisors (tables : Tables) (components : List Component) : Reader Unit := do
  for component in components do
    require (tables.quantization.contains component.quantization) (.within .quantization
      ("No quantization table for component " ++ component.name.text))

/-- Checks that both codes of components are there. -/
def checkCodes (tables : Tables) (components : List Component) : Reader Unit := do
  for component in components do
    let missing (kind : String) : Reason :=
      .code ("No Huffman " ++ kind ++ " table for component " ++ component.name.text ++ " ")
    require (tables.direct.contains component.codes.1) (missing "DC")
    require (tables.alternating.contains component.codes.2) (missing "AC")

/-- The reason that a code has not been told. There may be none at its place. -/
def unknownCode (place : Nat) : Reason :=
  if place < mostComponents then
    .other ("Huffman table at index  " ++ toString place ++ " not initialized")
  else .other ("No huffman table for component:" ++ toString place)

/-- Checks the codes of a scan with one component. -/
def checkSingle (tables : Tables) (scan : Scan) (component : Component) : Reader Unit := do
  if scan.first = 0 then
    require (scan.last == 0) (.other "Can't merge DC and AC corrupt jpeg")
    require (tables.direct.contains (component.codes.1 % mostComponents))
      (.other "Huffman table at index  \x7b\x7d not initialized")
  else
    require (tables.alternating.contains component.codes.2) (unknownCode component.codes.2)

/-- Checks the codes of a scan that tells some of the values. Only the first ones of each block can
    be told of several components at once. -/
def checkPart (tables : Tables) (scan : Scan) : Reader Unit := do
  let found := scan.numbers.filterMap fun number =>
    scan.frame.components.find? (·.number = number)
  match found with
  | [component] => checkSingle tables scan component
  | components =>
    require (scan.last == 0) (.code "Can't merge dc and AC corrupt jpeg")
    for component in components do
      require (tables.direct.contains component.codes.1) (unknownCode component.codes.1)

/-- Reads a picture. -/
def read : Reader Unit := do
  let found ← takenNumber 2
  require (found == 0xFFD8) (.mark found)
  let (tables, scan) ← readHeading ((← left) + 1) 0 ⟨none, .empty⟩
  let frame := scan.frame
  let samples := if frame.components.length = 1 then 1 else 3
  reserve (frame.width * frame.height * samples)
  checkDivisors tables frame.components
  if frame.progressive then checkPart tables scan else checkCodes tables frame.components

end FileQuery.Picture.Jpeg

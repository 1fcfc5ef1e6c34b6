import FileQuery.Archive.Entry

/-!
# Additional fields of an entry

An entry can have fields that are added to it: wider sizes and offsets, times, a name or a comment
in UTF-8, or how the content is encrypted. Each has a kind and a length. Some kinds are read by
rules of their own, and the others are left out. When the fields end too early, what has been
read remains. A field against the rules damages the entry.
-/

namespace FileQuery.Archive.Entry

/-- Why the reading of fields ends. -/
inductive FieldFlaw
  /-- The fields end too early. -/
  | truncated
  | damaged
  deriving DecidableEq, Repr

/-- An entry, and the bytes of fields that have not been read. -/
structure FieldState where
  entry : Entry
  bytes : List UInt8

/-- Readers of fields. What was read before a flaw remains. -/
abbrev FieldReader := ExceptT FieldFlaw (StateM FieldState)

namespace FieldReader

/-- Takes a number of bytes. -/
def take (count : Nat) : FieldReader (List UInt8) := fun state =>
  if state.bytes.length < count then (.error .truncated, { state with bytes := [] })
  else (.ok (state.bytes.take count), { state with bytes := state.bytes.drop count })

/-- Takes a number in a width of bytes. -/
def takeNumber (width : Nat) : FieldReader Nat := return Bytes.lowFirst (← take width)

/-- Changes the entry. -/
def change (update : Entry → Entry) : FieldReader Unit := fun state =>
  (.ok (), { state with entry := update state.entry })

/-- Refuses a field unless a rule is kept. -/
def require (kept : Bool) : FieldReader Unit := if kept then pure () else throw .damaged

/-- The value of a narrow field that leaves it to a wide one to tell more. -/
def unknown : Nat := 0xFFFFFFFF

/-- The length of wide sizes and a wide offset together. -/
def wideLength : Nat := 24

/-- Reads a wide number if a field of a length has one, and tells how many bytes it takes. -/
def wideNumber (length : Nat) (narrow : Nat) (update : Nat → Entry → Entry) :
    FieldReader Nat := do
  if wideLength ≤ length || narrow == unknown then
    let number ← takeNumber 8
    change (update number)
    return 8
  else return 0

/-- Reads wide sizes and a wide offset. Each is there only if the narrow one is unknown, unless
    the field is long enough for all. -/
def wideNumbers (length : Nat) : FieldReader Unit := do
  let entry := (← get).entry
  let first ← wideNumber length entry.size fun size entry => { entry with size := size }
  let second ← wideNumber length entry.storedSize
    fun size entry => { entry with storedSize := size }
  let third ← wideNumber length entry.header fun header entry => { entry with header := header }
  let read := first + second + third
  require (read ≤ length)
  let _ ← take (length - read)

/-- Reads the times of a file system. -/
def systemTimes (length : Nat) : FieldReader Unit := do
  require (length == 32)
  let _ ← take 4
  require ((← takeNumber 2) == 1)
  require ((← takeNumber 2) == 24)
  let _ ← take 24

/-- Reads times, of which flags tell which ones there are. A field with a single time is accepted
    whatever the flags. -/
def times (length : Nat) : FieldReader Unit := do
  let flags ← takeNumber 1
  let flagged := (List.range 8).countP flags.testBit
  require (length == 5 || length == 1 + 4 * flagged)
  let known :=
    if length = 5 then 1 else (List.range 3).countP flags.testBit
  let _ ← take (4 * known)

/-- Reads a text in UTF-8 that stands for bytes with a checksum. -/
def textFor (bytes : List UInt8) (length : Nat) : FieldReader (List UInt8 × String) := do
  let _ ← take 1
  let checksum ← takeNumber 4
  require (5 ≤ length)
  let content ← take (length - 5)
  require (checksum == Compression.checksum bytes)
  match Text.decode? content with
  | some text => return (content, text)
  | none => throw .damaged

/-- Reads how the content is encrypted. -/
def encryption (length : Nat) : FieldReader Unit := do
  require (length == 7)
  let version ← takeNumber 2
  let vendor ← takeNumber 2
  let strength ← takeNumber 1
  let method ← takeNumber 2
  require (vendor == 0x4541 && (version == 1 || version == 2) && 1 ≤ strength && strength ≤ 3)
  change fun entry => { entry with described := true, method := method }

/-- Reads a field. -/
def readField : FieldReader Unit := do
  let kind ← takeNumber 2
  let length ← takeNumber 2
  if kind = 0x0001 then wideNumbers length
  else if kind = 0x000A then systemTimes length
  else if kind = 0x9901 then encryption length
  else if kind = 0x5455 then times length
  else if kind = 0x6375 then
    let (content, _) ← textFor (← get).entry.comment length
    change fun entry => { entry with comment := content }
  else if kind = 0x7075 then
    let (content, text) ← textFor (← get).entry.nameBytes length
    change fun entry => { entry with nameBytes := content, name := text }
  else
    let _ ← take length

/-- Reads all fields. Each takes a byte at least. -/
def readFields : Nat → FieldReader Unit
  | 0 => pure ()
  | fuel + 1 => do
    if (← get).bytes.isEmpty then pure ()
    else
      readField
      readFields fuel

end FieldReader

/-- An entry with what additional fields say, unless they damage it. -/
def withFields? (entry : Entry) (bytes : List UInt8) : Option Entry :=
  match (FieldReader.readFields bytes.length).run ⟨entry, bytes⟩ with
  | (.error .damaged, _) => none
  | (.ok (), state) | (.error .truncated, state) => some state.entry

end FileQuery.Archive.Entry

import FileQuery.Archive.ExtraField
import FileQuery.Archive.Flaw
import FileQuery.Archive.Format

/-!
# Finding the entries of an archive

The record at the end of an archive leads to its directory, and the directory lists its entries.
-/

/-!
## The record at the end of an archive

The record at the end tells where the directory is and how many entries it has. A large archive
has a long record as well, with wider fields, and a locator between the two that tells where the
long record is.

Bytes before the archive and after it do no harm: what is found in the place of a mark tells how
far everything is moved.
-/

namespace FileQuery.Archive

/-- The offsets at which a mark stands in bytes that begin at an offset. -/
def offsetsOf (mark : List UInt8) (offset : Nat) : List UInt8 → List Nat
  | [] => []
  | byte :: rest =>
    if mark.isPrefixOf (byte :: rest) then offset :: offsetsOf mark (offset + 1) rest
    else offsetsOf mark (offset + 1) rest

/-- The offsets from a first one on, and below a limit, at which a mark stands in bytes. -/
def offsetsIn (mark bytes : List UInt8) (first limit : Nat) : List Nat :=
  offsetsOf mark first ((bytes.take limit).drop first)

/-- The record at the end of an archive. -/
structure EndRecord where
  disk : Nat
  directoryDisk : Nat
  /-- The number of entries. -/
  count : Nat
  /-- The number of entries on all disks. -/
  total : Nat
  /-- Where the directory begins, counted from the start of the archive. -/
  directory : Nat
  deriving DecidableEq, Repr

/-- The size of the record at the end, without the comment after it. -/
def endRecordSize : Nat := 22

/-- Reads the record at the end of an archive. The comment after it has to be complete. -/
def EndRecord.read (record : List UInt8) : Except ArchiveError EndRecord :=
  if record.length < endRecordSize then .error (.file .truncated)
  else if record.length < endRecordSize + field record 20 2 then .error (.flaw .commentLength)
  else
    .ok ⟨field record 4 2, field record 6 2, field record 8 2, field record 10 2,
      field record 16 4⟩

/-- Whether a record leaves it to a long record to tell more. -/
def EndRecord.leavesMore (record : EndRecord) : Bool :=
  record.total == 0xFFFF || record.directory == 0xFFFFFFFF

/-- What tells where a long record is. -/
structure Locator where
  directoryDisk : Nat
  /-- Where the long record begins, counted from the start of the archive. -/
  offset : Nat
  /-- The number of disks. -/
  disks : Nat
  deriving DecidableEq, Repr

/-- The mark at the start of a locator. -/
def locatorMark : List UInt8 := [0x50, 0x4B, 6, 7]

/-- The size of a locator. -/
def locatorSize : Nat := 20

/-- Reads the locator before a record at an offset, if there is one. -/
def Locator.before? (bytes : List UInt8) (position : Nat) : Option Locator :=
  if position < locatorSize then none
  else
    let record := bytes.drop (position - locatorSize)
    if locatorMark.isPrefixOf record then
      some ⟨field record 4 4, field record 8 8, field record 16 4⟩
    else none

/-- The mark at the start of a long record. -/
def longRecordMark : List UInt8 := [0x50, 0x4B, 6, 6]

/-- The size of a long record, without what can be added to it. -/
def longRecordSize : Nat := 56

/-- The number of bytes of a long record that come before those it counts. -/
def longRecordStart : Nat := 12

/-- Where the directory is, as a record tells. -/
structure Layout where
  /-- Where the directory begins. -/
  start : Nat
  /-- The number of bytes before the archive. -/
  moved : Nat
  /-- The number of entries. -/
  count : Nat
  /-- Whether the fields of the record go together. -/
  coherent : Bool
  deriving DecidableEq, Repr

/-- The size of a directory entry without what varies in length. -/
def directoryEntrySize : Nat := 46

/-- The layout that a record at an offset tells of. An archive without entries needs no
    directory. -/
def Layout.ofRecord (bytes : List UInt8) (record : EndRecord) (position : Nat) :
    Except ArchiveError Layout :=
  let layout (moved : Nat) : Layout :=
    ⟨record.directory + moved, moved, record.count, record.disk == record.directoryDisk⟩
  if record.total = 0 then .ok (layout (position - record.directory))
  else if position ≤ record.directory then .error (.flaw .directoryOffset)
  else
    match offsetsIn directoryMark bytes record.directory position with
    | [] => .error (.flaw .noDirectoryEntry)
    | first :: _ => .ok (layout (first - record.directory))

/-- The layout that a long record at an offset tells of, where there is some room for the
    record. -/
def Layout.ofLongRecord (bytes : List UInt8) (locator : Locator) (position room : Nat) :
    Except ArchiveError Layout :=
  let record := bytes.drop position
  let size := field record 4 8
  let directoryDisk := field record 20 4
  let count := field record 32 8
  let directory := field record 48 8
  if record.length < longRecordSize then .error (.file .truncated)
  else if size + longRecordStart < longRecordSize then .error (.flaw .longRecordSize)
  else if room < size + longRecordStart then .error (.flaw .longRecordEnd)
  else if directoryDisk ≠ locator.directoryDisk then .error (.flaw .longRecordDisk)
  else if size + longRecordStart ≠ room then .error (.flaw .longRecordLength)
  else if position < count * directoryEntrySize + directory then .error (.flaw .longRecordCount)
  else
    let moved := position - locator.offset
    .ok ⟨directory + moved, moved, count,
      field record 16 4 == directoryDisk && field record 24 8 ≤ count
        && field record 14 2 ≤ field record 12 2⟩

/-- The first layout that one of several long records tells of, or the flaw of the last one. -/
def Layout.firstOf (bytes : List UInt8) (locator : Locator) (position : Nat)
    (wrong : ArchiveError) : List Nat → Except ArchiveError Layout
  | [] => .error wrong
  | candidate :: rest =>
    match ofLongRecord bytes locator candidate (position - candidate) with
    | .ok layout => .ok layout
    | .error flaw => firstOf bytes locator position flaw rest

/-- The layout that a locator at an offset leads to. -/
def Layout.ofLocator (bytes : List UInt8) (locator : Locator) (position : Nat) :
    Except ArchiveError Layout :=
  if position ≤ locator.offset then .error (.flaw .locatorOffset)
  else if 1 < locator.disks then .error (.flaw .severalDisks)
  else
    firstOf bytes locator position (.flaw .noLongRecord)
      (offsetsIn longRecordMark bytes locator.offset position)

/-- The layout that the record at an offset tells of, or leaves to a long record to tell. -/
def Layout.at (bytes : List UInt8) (record : EndRecord) (position : Nat) :
    Except ArchiveError Layout :=
  match (if record.leavesMore then Locator.before? bytes position else none) with
  | some locator => ofLocator bytes locator (position - locatorSize)
  | none => ofRecord bytes record position

end FileQuery.Archive

/-!
## The directory of an archive

The record at the end of an archive is searched for from the end. When the directory turns out to
be damaged, the search begins anew before the record.
-/

namespace FileQuery.Archive

/-- The first offset that has no field of its own. -/
def offsetRange : Nat := 0x10000000000000000

/-- Reads the directory entry at an offset, and tells where the next one is. The archive begins
    after a number of bytes. -/
def entry? (bytes : List UInt8) (moved offset : Nat) : Option (Entry × Nat) :=
  let record := bytes.drop offset
  let nameLength := field record 28 2
  let extraLength := field record 30 2
  let commentLength := field record 32 2
  let size := directoryEntrySize + nameLength + extraLength + commentLength
  if record.length < size || !directoryMark.isPrefixOf record then none
  else
    let flags := field record 8 2
    let utf8 := flags.testBit 11
    let name := (record.drop directoryEntrySize).take nameLength
    let extra := (record.drop (directoryEntrySize + nameLength)).take extraLength
    let comment := (record.drop (directoryEntrySize + nameLength + extraLength)).take commentLength
    let entry : Entry :=
      { name := Entry.decodeName utf8 name
        nameBytes := name
        comment := Text.encode (Entry.decodeName utf8 comment)
        encrypted := flags.testBit 0
        described := false
        method := field record 10 2
        checksum := field record 16 4
        mode := Entry.modeOf (field record 5 1) (field record 38 4)
        size := field record 24 4
        storedSize := field record 20 4
        header := field record 42 4 }
    match entry.withFields? extra with
    | none => none
    | some entry =>
      let header := entry.header + moved
      if entry.method = sealedMethod && !entry.described then none
      else if offsetRange ≤ header then none
      else some ({ entry with header := header }, offset + size)

/-- Reads a number of directory entries. -/
def entriesFrom? (bytes : List UInt8) (moved : Nat) : Nat → Nat → Option (List Entry)
  | 0, _ => some []
  | count + 1, offset => do
    let (entry, next) ← entry? bytes moved offset
    return entry :: (← entriesFrom? bytes moved count next)

/-- Entries with another one: in the place of the entry of that name, or else after the others. -/
def putEntry (entry : Entry) : List Entry → List Entry
  | [] => [entry]
  | other :: rest =>
    if other.name = entry.name then entry :: rest else other :: putEntry entry rest

/-- Entries of which only the last of each name is kept, where the first one is. -/
def distinct (entries : List Entry) : List Entry :=
  entries.foldl (fun found entry => putEntry entry found) []

/-- The entries of an archive with a layout. -/
def Layout.entries? (bytes : List UInt8) (layout : Layout) : Option (List Entry) :=
  if layout.coherent then
    (entriesFrom? bytes layout.moved layout.count layout.start).map distinct
  else none

/-- The entries of the archive whose record at the end is at one of several offsets. When a
    directory is damaged, the search begins anew. When it fails, it tells the flaw of the layout
    that was found last, or else the first record that cannot be read. -/
def search (bytes : List UInt8) (wrong : Option ArchiveError) : List Nat →
    Except ArchiveError (List Entry)
  | [] => .error (wrong.getD (.flaw .noEndRecord))
  | position :: rest =>
    match EndRecord.read (bytes.drop position) with
    | .error error => search bytes (some (wrong.getD error)) rest
    | .ok record =>
      match Layout.at bytes record position with
      | .error error => search bytes (some error) rest
      | .ok layout =>
        match layout.entries? bytes with
        | some entries => .ok entries
        | none => search bytes none rest

/-- The entries of an archive. -/
def entries (bytes : List UInt8) : Except ArchiveError (List Entry) :=
  search bytes none (offsetsOf endMark 0 bytes).reverse

end FileQuery.Archive

import FileQuery.Bytes
import FileQuery.Compression.Checksum
import FileQuery.Compression.Deflate
import FileQuery.Text.Utf8

/-!
# The format of archives

An archive holds members: folders and files, under names in which slashes separate segments and
a slash at the end marks a folder. Its bytes are a record for each member with the content after
it, a directory with an entry for each member, and a record that tells where the directory is.
Numbers are written lowest byte first, and contents are compressed.

An archive holds less than 65536 members and less than 4 GiB.
-/

namespace FileQuery.Archive

/-- What an archive holds under a name. -/
structure Member where
  name : String
  /-- The content of a file. A folder has none. -/
  content : Option (List UInt8)
  deriving DecidableEq, Repr

/-- The number in a field of a record. -/
def field (record : List UInt8) (offset width : Nat) : Nat :=
  Bytes.lowFirst ((record.drop offset).take width)

/-- The mark at the start of a member's record. -/
def memberMark : List UInt8 := [0x50, 0x4B, 3, 4]

/-- The mark at the start of a directory entry. -/
def directoryMark : List UInt8 := [0x50, 0x4B, 1, 2]

/-- The mark at the start of the record at the end. -/
def endMark : List UInt8 := [0x50, 0x4B, 5, 6]

/-- The version of the format that is needed to read an archive. -/
def neededVersion : Nat := 20

/-- The version of the format that archives are made by. -/
def madeVersion : Nat := 45

/-- The method of contents that are not compressed. -/
def plainMethod : Nat := 0

/-- The method of compressed contents. -/
def deflateMethod : Nat := 8

/-- The method of contents that are encrypted in a way of their own, which an entry has to
    describe. -/
def sealedMethod : Nat := 99

/-- The system whose file modes directory entries have. -/
def unixSystem : Nat := 3

/-- The flag of a name that is written in UTF-8. -/
def utf8Flag : Nat := 0x800

/-- The day from which times in archives count. -/
def firstDay : Nat := 0x21

/-- The mode of a file that can be read and written. -/
def fileMode : Nat := 0o100644

/-- The mode of a folder that can be entered. -/
def folderMode : Nat := 0o040755

namespace Member

/-- The bytes of the name. -/
def nameBytes (member : Member) : List UInt8 := Text.encode member.name

/-- The bytes of the content. -/
def bytes (member : Member) : List UInt8 := member.content.getD []

/-- The method by which the content is written. -/
def method (member : Member) : Nat :=
  if member.content.isSome then deflateMethod else plainMethod

/-- The bytes that are written for the content. -/
def stored (member : Member) : List UInt8 :=
  match member.content with
  | some bytes => Compression.deflate bytes
  | none => []

/-- The flags of a member. -/
def flags (member : Member) : Nat :=
  if member.name.toList.all (·.toNat < 128) then 0 else utf8Flag

/-- The mode of a member. -/
def mode (member : Member) : Nat := if member.content.isSome then fileMode else folderMode

/-- The fields that the record and the directory entry of a member share. -/
def sharedFields (member : Member) : List UInt8 :=
  Bytes.ofNumber 2 neededVersion ++ Bytes.ofNumber 2 member.flags ++ Bytes.ofNumber 2 member.method
    ++ Bytes.ofNumber 2 0 ++ Bytes.ofNumber 2 firstDay
    ++ Bytes.ofNumber 4 (Compression.checksum member.bytes)
    ++ Bytes.ofNumber 4 member.stored.length ++ Bytes.ofNumber 4 member.bytes.length
    ++ Bytes.ofNumber 2 member.nameBytes.length ++ Bytes.ofNumber 2 0

/-- The record of a member with the content after it. -/
def record (member : Member) : List UInt8 :=
  memberMark ++ member.sharedFields ++ member.nameBytes ++ member.stored

/-- The directory entry of a member whose record begins at an offset. -/
def directoryEntry (member : Member) (offset : Nat) : List UInt8 :=
  directoryMark ++ Bytes.ofNumber 1 madeVersion ++ Bytes.ofNumber 1 unixSystem
    ++ member.sharedFields ++ Bytes.ofNumber 2 0 ++ Bytes.ofNumber 2 0 ++ Bytes.ofNumber 2 0
    ++ Bytes.ofNumber 4 (member.mode * 0x10000) ++ Bytes.ofNumber 4 offset ++ member.nameBytes

end Member

/-- The directory of members whose records begin at an offset. -/
def directory (offset : Nat) : List Member → List UInt8
  | [] => []
  | member :: rest =>
    member.directoryEntry offset ++ directory (offset + member.record.length) rest

/-- The record at the end, for a number of members and the size and offset of the directory. -/
def endRecord (count size offset : Nat) : List UInt8 :=
  endMark ++ Bytes.ofNumber 2 0 ++ Bytes.ofNumber 2 0 ++ Bytes.ofNumber 2 count
    ++ Bytes.ofNumber 2 count ++ Bytes.ofNumber 4 size ++ Bytes.ofNumber 4 offset
    ++ Bytes.ofNumber 2 0

/-- The bytes of an archive. -/
def encode (members : List Member) : List UInt8 :=
  let records := members.flatMap Member.record
  let listing := directory 0 members
  records ++ listing ++ endRecord members.length listing.length records.length

end FileQuery.Archive

import FileQuery.FileTree.Error

/-!
# Flaws of archives

Why an archive cannot be read, or not be extracted.
-/

namespace FileQuery

/-- Why an archive cannot be read or extracted. -/
inductive ArchiveFlaw
  /-- No record at the end of the bytes tells where the directory is. -/
  | noEndRecord
  /-- The bytes end before the comment after that record. -/
  | commentLength
  /-- The directory would begin after the record that tells where it is. -/
  | directoryOffset
  /-- No directory entry is found. -/
  | noDirectoryEntry
  /-- The long record at the end would begin after the locator that tells where it is. -/
  | locatorOffset
  | severalDisks
  /-- No long record at the end is found. -/
  | noLongRecord
  /-- The long record at the end is too short. -/
  | longRecordSize
  /-- The long record at the end would end after the locator begins. -/
  | longRecordEnd
  /-- The long record at the end and its locator tell of different disks. -/
  | longRecordDisk
  /-- The long record at the end does not end where the locator begins. -/
  | longRecordLength
  /-- The long record at the end tells of more entries than there is room for. -/
  | longRecordCount
  /-- The record of a member does not begin as such a record does. -/
  | memberRecord
  /-- A name leads out of the folder that an archive is extracted to. -/
  | invalidPath
  /-- A link on the way does not lead down. -/
  | linkTarget
  /-- A link on the way leads down. The folder that an archive is extracted to begins at the
      root, and no path that leads down does. -/
  | basePath
  /-- The target of a link is not UTF-8. -/
  | linkText
  | passwordRequired
  | wrongPassword
  | unknownMethod
  deriving DecidableEq, Repr

namespace ArchiveFlaw

/-- The description of a flaw of the format. -/
def ofFormat (words : String) : String := "invalid Zip archive: " ++ words

/-- The description of a flaw. -/
def message : ArchiveFlaw → String
  | noEndRecord => ofFormat "Could not find EOCD"
  | commentLength => ofFormat "EOCD comment exceeds file boundary"
  | directoryOffset => ofFormat "Invalid CDFH offset in EOCD"
  | noDirectoryEntry => ofFormat "No CDFH found"
  | locatorOffset => ofFormat "Invalid EOCD64 Locator CD offset"
  | severalDisks => ofFormat "Multi-disk ZIP files are not supported"
  | noLongRecord => ofFormat "Could not find EOCD64"
  | longRecordSize => ofFormat "Low EOCD64 record size"
  | longRecordEnd => ofFormat "EOCD64 extends beyond EOCD64 locator"
  | longRecordDisk => ofFormat "Invalid EOCD64: inconsistency with Locator data"
  | longRecordLength => ofFormat "Invalid EOCD64: inconsistent length"
  | longRecordCount => ofFormat "Invalid EOCD64: inconsistent number of files"
  | memberRecord => ofFormat "Invalid local file header"
  | invalidPath => ofFormat "Invalid file path"
  | linkTarget => ofFormat "Invalid symlink target path"
  | basePath => ofFormat "Invalid base path"
  | linkText => ofFormat "Invalid UTF-8 as symlink target"
  | passwordRequired => "unsupported Zip archive: Password required to decrypt file"
  | wrongPassword => "provided password is incorrect"
  | unknownMethod => "unsupported Zip archive: Compression method not supported"

end ArchiveFlaw

/-- Why an archive cannot be read or extracted, or a file cannot be read or written. -/
inductive ArchiveError
  | flaw (flaw : ArchiveFlaw)
  | file (error : FileError)
  deriving DecidableEq, Repr

end FileQuery

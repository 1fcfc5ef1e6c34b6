import FileQuery.Archive.Flaw
import FileQuery.Archive.Format
import FileQuery.Compression.Bzip
import FileQuery.Compression.Deflate
import FileQuery.Compression.Lzma
import FileQuery.Compression.Xz
import FileQuery.Compression.Zstandard
import FileQuery.Path

/-!
# Entries of an archive

What the directory of an archive says about a member. Names are in UTF-8 if a flag says so, and
otherwise in the character set of old personal computers. The methods by which contents can be
compressed, besides the common one, have numbers.
-/

namespace FileQuery.Compression

/-- What decompresses bytes by the method with a number. -/
def decoder? (method : Nat) : Option (List UInt8 → Decompressed) :=
  match method with
  | 9 => some inflateFar
  | 12 => some bunzip
  | 14 => some unlzma
  | 93 => some unframe
  | 95 => some unxz
  | _ => none

end FileQuery.Compression

namespace FileQuery

namespace Archive

/-- The characters of the old character set beyond ASCII, in order. -/
def oldCharacters : String :=
  "ÇüéâäàåçêëèïîìÄÅÉæÆôöòûùÿÖÜ¢£¥₧ƒáíóúñÑªº¿⌐¬½¼¡«»░▒▓│┤╡╢╖╕╣║╗╝╜╛┐" ++
  "└┴┬├─┼╞╟╚╔╩╦╠═╬╧╨╤╥╙╘╒╓╫╪┘┌█▄▌▐▀αßΓπΣσµτΦΘΩδ∞φε∩≡±≥≤⌠⌡÷≈°∙·√ⁿ²■\u00a0"

/-- The character of a byte in the old character set. -/
def oldCharacter (byte : UInt8) : Char :=
  if byte < 128 then Char.ofNat byte.toNat
  else (oldCharacters.toList[byte.toNat - 128]?).getD ' '

/-- A member as the directory of an archive describes it. -/
structure Entry where
  name : String
  /-- The bytes that the name is written in. -/
  nameBytes : List UInt8
  /-- The bytes of the comment in UTF-8. -/
  comment : List UInt8
  encrypted : Bool
  /-- Whether the content is encrypted in a way that the entry describes. -/
  described : Bool
  method : Nat
  checksum : Nat
  /-- The mode of the file, if the directory gives one. -/
  mode : Option Nat
  /-- The size of the content. -/
  size : Nat
  /-- The number of bytes that stand for the content. -/
  storedSize : Nat
  /-- Where the member's record begins, counted from the start of the archive. -/
  header : Nat
  deriving Repr

namespace Entry

/-- The name that bytes stand for. -/
def decodeName (utf8 : Bool) (bytes : List UInt8) : String :=
  if utf8 then Text.decodeLossy bytes else String.ofList (bytes.map oldCharacter)

/-- The mode that the attributes of a directory entry give. Attributes of the oldest system tell
    only folders from files, and whether they can be written. -/
def modeOf (system attributes : Nat) : Option Nat :=
  if attributes = 0 then none
  else if system = unixSystem then some (attributes / 0x10000)
  else if system = 0 then
    let mode := if attributes.testBit 4 then 0o040775 else 0o100664
    some (if attributes.testBit 0 then mode &&& 0o0555 else mode)
  else none

/-- Whether an entry is a folder: its name ends in a slash of either kind. -/
def isFolder (entry : Entry) : Bool :=
  match entry.name.toList.getLast? with
  | some last => last == '/' || last == '\\'
  | none => false

/-- Whether an entry is a link. -/
def isLink (entry : Entry) : Bool :=
  match entry.mode with
  | some mode => mode &&& 0o120000 == 0o120000
  | none => false

/-- Whether an entry can be executed. -/
def isExecutable (entry : Entry) : Bool :=
  match entry.mode with
  | some mode => mode &&& 0o111 != 0
  | none => false

/-- The size of a member's record without what varies in length. -/
def recordSize : Nat := 30

/-- The first offset that is too large for a file. -/
def offsetLimit : Nat := 0x8000000000000000

/-- The bytes that stand for the content of an entry in an archive. -/
def stored (archive : List UInt8) (entry : Entry) : Except ArchiveError (List UInt8) :=
  let record := archive.drop entry.header
  if offsetLimit ≤ entry.header then .error (.file .invalid)
  else if record.length < recordSize then .error (.file .truncated)
  else if !memberMark.isPrefixOf record then .error (.flaw .memberRecord)
  else
    .ok ((record.drop (recordSize + field record 26 2 + field record 28 2)).take entry.storedSize)

/-- What makes contents of the bytes that stand for them, by the method of an entry. -/
def decoder? (entry : Entry) : Option (List UInt8 → Decompressed) :=
  if entry.method = plainMethod then some fun bytes => (bytes, none)
  else if entry.method = deflateMethod then some Compression.inflate
  else Compression.decoder? entry.method

/-- The content of an entry in an archive, and the flaw that ends it, if one does: bytes without
    meaning, or in the end a wrong checksum. -/
def content (archive : List UInt8) (entry : Entry) : Except ArchiveError Decompressed :=
  if entry.encrypted then .error (.flaw .passwordRequired)
  else
    match entry.stored archive, entry.decoder? with
    | .error error, _ => .error error
    | .ok _, none =>
      .error (.flaw (if entry.method = sealedMethod then .wrongPassword else .unknownMethod))
    | .ok bytes, some decode =>
      if entry.described then .error (.flaw .wrongPassword)
      else
        let (output, flaw) := decode bytes
        .ok (output, flaw.or
          (if Compression.checksum output = entry.checksum then none else some .checksum))

/-- What remains of components when those that say nothing are dropped and two dots take back the
    name before them. Components that lead to the root, or above the start, have no such form. -/
def simplified : List Component → List String → Option (List String)
  | [], names => some names
  | .root :: _, _ => none
  | .here :: rest, names => simplified rest names
  | .parent :: rest, names => if names = [] then none else simplified rest names.dropLast
  | .name next :: rest, names => simplified rest (names ++ [next])

/-- The names on the way to an entry, if they lead to no place but one below the start. -/
def names? (entry : Entry) : Option (List String) :=
  if entry.name.toList.contains '\x00' then none
  else simplified (Path.mk entry.name).components []

end Entry

end Archive

end FileQuery

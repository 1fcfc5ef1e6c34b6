import FileQuery.Archive.Directory
import FileQuery.Proofs.Compression.FixedCode
import FileQuery.Proofs.Text.Utf8

/-!
# Archives are read back

An archive whose numbers fit their fields gives back what it is made of. The last record at the end
that is complete is the one that was written, it leads to the directory, and each entry of the
directory leads to the record of its member.
-/

namespace FileQuery.Archive

/-- An entry gives back what an archive holds for a member. -/
structure Entry.Gives (archive : List UInt8) (member : Member) (entry : Entry) : Prop where
  name : entry.name = member.name
  content : entry.content archive = .ok (member.bytes, none)
  notLink : entry.isLink = false

/-- An archive gives back what it is made of: an entry for each member, in order, under its name and
    with its content. -/
def ReadsBack (members : List Member) : Prop :=
  ∃ found, entries (encode members) = .ok found ∧
    List.Forall₂ (fun member entry => entry.Gives (encode members) member) members found

/-! ## Fields of records -/

/-- Numbers, each in a width of bytes. -/
def numbers (fields : List (Nat × Nat)) : List UInt8 :=
  fields.flatMap fun field => Bytes.ofNumber field.1 field.2

variable {fields : List (Nat × Nat)} {offset width value : Nat} {after : List UInt8}

theorem numbers_cons (width value : Nat) (fields : List (Nat × Nat)) :
    numbers ((width, value) :: fields) = Bytes.ofNumber width value ++ numbers fields :=
  List.flatMap_cons

theorem length_numbers (fields : List (Nat × Nat)) :
    (numbers fields).length = (fields.map (·.1)).sum := by
  simp [numbers, List.length_flatMap, Bytes.length_ofNumber]

/-- A number that fits is read at the start. -/
theorem field_numbers (fits : value < Nat.pow 256 width) :
    field (numbers ((width, value) :: fields) ++ after) 0 width = value := by
  rw [field, numbers_cons, List.append_assoc, List.drop_zero,
    List.take_append_of_le_length (by rw [Bytes.length_ofNumber]),
    List.take_of_length_le (by rw [Bytes.length_ofNumber]), Bytes.lowFirst_ofNumber fits]

/-- Beyond the first number the others are read. -/
theorem field_numbers_skip {width' : Nat} (beyond : width ≤ offset) :
    field (numbers ((width, value) :: fields) ++ after) offset width' =
      field (numbers fields ++ after) (offset - width) width' := by
  have far : (Bytes.ofNumber width value).length ≤ offset := by rwa [Bytes.length_ofNumber]
  rw [field, field, numbers_cons, List.append_assoc, List.drop_append,
    List.drop_of_length_le far, List.nil_append, Bytes.length_ofNumber]

/-! ## Records of members -/

/-- The numbers that the record and the directory entry of a member share. -/
def Member.sharedNumbers (member : Member) : List (Nat × Nat) :=
  [(2, neededVersion), (2, member.flags), (2, member.method), (2, 0), (2, firstDay),
    (4, Compression.checksum member.bytes), (4, member.stored.length), (4, member.bytes.length),
    (2, member.nameBytes.length), (2, 0)]

/-- The numbers before the name in the record of a member. -/
def Member.recordNumbers (member : Member) : List (Nat × Nat) :=
  (4, 0x04034B50) :: member.sharedNumbers

/-- The numbers before the name in the directory entry of a member whose record begins at an
    offset. -/
def Member.entryNumbers (member : Member) (offset : Nat) : List (Nat × Nat) :=
  [(4, 0x02014B50), (1, madeVersion), (1, unixSystem)] ++ member.sharedNumbers ++
    [(2, 0), (2, 0), (2, 0), (4, member.mode * 0x10000), (4, offset)]

variable {member : Member}

theorem Member.record_eq (member : Member) :
    member.record = numbers member.recordNumbers ++ (member.nameBytes ++ member.stored) := by
  have mark : memberMark = Bytes.ofNumber 4 0x04034B50 := rfl
  simp [record, recordNumbers, sharedFields, sharedNumbers, numbers, mark]

theorem Member.directoryEntry_eq (member : Member) (offset : Nat) :
    member.directoryEntry offset = numbers (member.entryNumbers offset) ++ member.nameBytes := by
  have mark : directoryMark = Bytes.ofNumber 4 0x02014B50 := rfl
  simp [directoryEntry, entryNumbers, sharedFields, sharedNumbers, numbers, mark]

theorem endRecord_eq (count size offset : Nat) : endRecord count size offset =
    numbers [(4, 0x06054B50), (2, 0), (2, 0), (2, count), (2, count), (4, size), (4, offset),
      (2, 0)] := by
  have mark : endMark = Bytes.ofNumber 4 0x06054B50 := rfl
  simp [endRecord, numbers, mark]

/-- What the directory says about a member whose record begins at an offset. -/
def Member.entry (member : Member) (offset : Nat) : Entry where
  name := member.name
  nameBytes := member.nameBytes
  comment := []
  encrypted := false
  described := false
  method := member.method
  checksum := Compression.checksum member.bytes
  mode := some member.mode
  size := member.bytes.length
  storedSize := member.stored.length
  header := offset

/-- The numbers of a member fit their fields. -/
structure Member.Fits (member : Member) : Prop where
  name : member.nameBytes.length < 0x10000
  bytes : member.bytes.length < 0x100000000
  stored : member.stored.length < 0x100000000

instance (member : Member) : Decidable member.Fits :=
  decidable_of_iff (member.nameBytes.length < 0x10000 ∧ member.bytes.length < 0x100000000 ∧
      member.stored.length < 0x100000000)
    ⟨fun ⟨name, bytes, stored⟩ => ⟨name, bytes, stored⟩,
      fun fits => ⟨fits.name, fits.bytes, fits.stored⟩⟩

theorem checksum_lt (bytes : List UInt8) : Compression.checksum bytes < 0x100000000 :=
  UInt32.toNat_lt _

theorem Member.flags_lt (member : Member) : member.flags < 0x10000 := by
  unfold flags
  split <;> decide

theorem Member.method_lt (member : Member) : member.method < 0x10000 := by
  unfold method
  split <;> decide

theorem Member.attributes_lt (member : Member) : member.mode * 0x10000 < 0x100000000 := by
  unfold mode
  split <;> decide

/-- Contents of members are not encrypted. -/
theorem Member.plain_flags (member : Member) : member.flags.testBit 0 = false := by
  unfold flags
  split <;> decide

theorem Member.method_ne_sealed (member : Member) : member.method ≠ sealedMethod := by
  unfold method
  split <;> decide

theorem Member.modeOf_attributes (member : Member) :
    Entry.modeOf unixSystem (member.mode * 0x10000) = some member.mode := by
  unfold mode
  split <;> rfl

/-- Members are no links. -/
theorem Member.notLink (member : Member) (offset : Nat) :
    (member.entry offset).isLink = false := by
  unfold Entry.isLink entry mode
  split
  · rename_i mode same
    obtain rfl := Option.some.inj same
    split <;> rfl
  · rfl

theorem encode_decodeName_nil (utf8 : Bool) : Text.encode (Entry.decodeName utf8 []) = [] := by
  have empty : Entry.decodeName utf8 [] = "" := by
    cases utf8 <;> rfl
  rw [empty, Text.encode_eq_flatMap]
  rfl

/-- A character of ASCII is the same in the old character set. -/
theorem map_oldCharacter {c : Char} (small : c.val.toNat < 128) :
    (String.utf8EncodeChar c).map oldCharacter = [c] := by
  have byte : (UInt8.ofNat c.val.toNat).toNat = c.val.toNat :=
    Nat.mod_eq_of_lt (Nat.lt_trans small (by decide))
  have low : UInt8.ofNat c.val.toNat < 128 := UInt8.lt_iff_toNat_lt.mpr (byte.trans_lt small)
  have whole : Char.ofNat c.val.toNat = c := Char.ofNat_toNat c
  unfold String.utf8EncodeChar
  dsimp only
  rw [if_pos (by omega), List.map_singleton, oldCharacter, if_pos low, byte, whole]

/-- The name of a member is read back from its bytes. -/
theorem Member.decodeName_nameBytes (member : Member) :
    Entry.decodeName (member.flags.testBit 11) member.nameBytes = member.name := by
  unfold flags
  split
  · rename_i ascii
    have unflagged : (0 : Nat).testBit 11 = false := rfl
    rw [unflagged, Entry.decodeName, if_neg Bool.false_ne_true, nameBytes, Text.encode_eq_flatMap,
      List.map_flatMap]
    have each : ∀ c ∈ member.name.toList,
        (String.utf8EncodeChar c).map oldCharacter = [c] := by
      intro c listed
      have small : c.val.toNat < 128 := of_decide_eq_true (List.all_eq_true.mp ascii c listed)
      exact map_oldCharacter small
    rw [List.flatMap_congr each, List.flatMap_singleton', String.ofList_toList]
  · have flagged : utf8Flag.testBit 11 = true := by decide
    rw [flagged, Entry.decodeName, if_pos rfl, nameBytes, Text.decodeLossy_encode]

/-- The fields of the directory entry of a member. -/
theorem Member.fields_entryNumbers (fits : member.Fits) (near : offset < 0x100000000)
    (after : List UInt8) :
    field (numbers (member.entryNumbers offset) ++ after) 5 1 = unixSystem ∧
    field (numbers (member.entryNumbers offset) ++ after) 8 2 = member.flags ∧
    field (numbers (member.entryNumbers offset) ++ after) 10 2 = member.method ∧
    field (numbers (member.entryNumbers offset) ++ after) 16 4 =
      Compression.checksum member.bytes ∧
    field (numbers (member.entryNumbers offset) ++ after) 20 4 = member.stored.length ∧
    field (numbers (member.entryNumbers offset) ++ after) 24 4 = member.bytes.length ∧
    field (numbers (member.entryNumbers offset) ++ after) 28 2 = member.nameBytes.length ∧
    field (numbers (member.entryNumbers offset) ++ after) 30 2 = 0 ∧
    field (numbers (member.entryNumbers offset) ++ after) 32 2 = 0 ∧
    field (numbers (member.entryNumbers offset) ++ after) 38 4 = member.mode * 0x10000 ∧
    field (numbers (member.entryNumbers offset) ++ after) 42 4 = offset := by
  simp only [entryNumbers, sharedNumbers, List.cons_append, List.nil_append, field_numbers_skip,
    Nat.reduceLeDiff, Nat.reduceSub]
  exact ⟨field_numbers (by decide), field_numbers member.flags_lt, field_numbers member.method_lt,
    field_numbers (checksum_lt _), field_numbers fits.stored, field_numbers fits.bytes,
    field_numbers fits.name, field_numbers (by decide), field_numbers (by decide),
    field_numbers member.attributes_lt, field_numbers near⟩

/-- The directory entry of a member is read as what the directory says about it. -/
theorem entry?_apply {bytes rest : List UInt8} {start : Nat} (fits : member.Fits)
    (near : offset < 0x100000000)
    (drops : bytes.drop start = member.directoryEntry offset ++ rest) :
    entry? bytes 0 start =
      some (member.entry offset, start + (member.directoryEntry offset).length) := by
  have parts : bytes.drop start = numbers (member.entryNumbers offset) ++
      (member.nameBytes ++ rest) := by
    rw [drops, member.directoryEntry_eq, List.append_assoc]
  obtain ⟨system, flags, method, checksum, storedSize, size, nameLength, extraLength,
    commentLength, attributes, header⟩ :=
      member.fields_entryNumbers fits near (member.nameBytes ++ rest)
  have width : (numbers (member.entryNumbers offset)).length = directoryEntrySize := by
    simp [length_numbers, Member.entryNumbers, Member.sharedNumbers, directoryEntrySize]
  have marked : directoryMark.isPrefixOf (bytes.drop start) = true := by
    rw [List.isPrefixOf_iff_prefix, drops]
    simp [Member.directoryEntry]
  unfold entry?
  dsimp only
  rw [marked, parts, system, flags, method, checksum, storedSize, size, nameLength, extraLength,
    commentLength, attributes, header, ← width, List.drop_left, List.take_left, List.take_zero,
    member.modeOf_attributes, member.decodeName_nameBytes, encode_decodeName_nil,
    member.plain_flags, if_neg (by simp)]
  have plain (entry : Entry) : entry.withFields? [] = some entry := rfl
  rw [List.take_zero, plain]
  dsimp only
  rw [if_neg (by simp [member.method_ne_sealed]),
    if_neg (by simp [offsetRange]; omega), member.directoryEntry_eq, List.length_append]
  rfl

/-- The fields of the record of a member that tell where the content is. -/
theorem Member.fields_recordNumbers (fits : member.Fits) (after : List UInt8) :
    field (numbers member.recordNumbers ++ after) 26 2 = member.nameBytes.length ∧
      field (numbers member.recordNumbers ++ after) 28 2 = 0 := by
  simp only [recordNumbers, sharedNumbers, field_numbers_skip, Nat.reduceLeDiff, Nat.reduceSub]
  exact ⟨field_numbers fits.name, field_numbers (by decide)⟩

variable {archive rest : List UInt8}

/-- What stands for the content of a member is in its record. -/
theorem stored_apply (fits : member.Fits) (near : offset < 0x100000000)
    (drops : archive.drop offset = member.record ++ rest) :
    (member.entry offset).stored archive = .ok member.stored := by
  have parts : archive.drop offset = numbers member.recordNumbers ++
      (member.nameBytes ++ (member.stored ++ rest)) := by
    rw [drops, member.record_eq]
    simp
  obtain ⟨nameLength, extraLength⟩ :=
    member.fields_recordNumbers fits (member.nameBytes ++ (member.stored ++ rest))
  have width : (numbers member.recordNumbers).length = Entry.recordSize := by
    simp [length_numbers, Member.recordNumbers, Member.sharedNumbers, Entry.recordSize]
  have marked : memberMark.isPrefixOf (archive.drop offset) = true := by
    rw [List.isPrefixOf_iff_prefix, drops]
    simp [Member.record]
  have inside : ¬ Entry.offsetLimit ≤ offset := by
    rw [Entry.offsetLimit]
    omega
  have header : (member.entry offset).header = offset := rfl
  have storedSize : (member.entry offset).storedSize = member.stored.length := rfl
  unfold Entry.stored
  dsimp only
  rw [header, storedSize, marked, parts, nameLength, extraLength, if_neg inside, ← width,
    if_neg (by simp), if_neg (by simp), Nat.add_zero, ← List.append_assoc, ← List.length_append,
    List.drop_left, List.take_left]

/-- The method of a member makes its content of what stands for it. -/
theorem exists_decoder (member : Member) (offset : Nat) : ∃ decode,
    (member.entry offset).decoder? = some decode ∧ decode member.stored = (member.bytes, none) := by
  obtain ⟨name, content⟩ := member
  cases content with
  | none => exact ⟨_, rfl, rfl⟩
  | some bytes => exact ⟨_, rfl, Compression.inflate_deflate bytes⟩

/-- An entry gives back the member whose record is at its offset. -/
theorem entry_gives (fits : member.Fits) (near : offset < 0x100000000)
    (drops : archive.drop offset = member.record ++ rest) :
    (member.entry offset).Gives archive member := by
  refine ⟨rfl, ?_, member.notLink offset⟩
  obtain ⟨decode, method, reads⟩ := exists_decoder member offset
  have plain : (member.entry offset).encrypted = false := rfl
  have undescribed : (member.entry offset).described = false := rfl
  have checksum : (member.entry offset).checksum = Compression.checksum member.bytes := rfl
  rw [Entry.content, plain, if_neg Bool.false_ne_true, stored_apply fits near drops, method]
  dsimp only
  rw [undescribed, if_neg Bool.false_ne_true, reads, checksum, if_pos rfl]
  rfl

/-! ## The directory -/

/-- What the directory says about members whose records begin at an offset. -/
def entriesOf (offset : Nat) : List Member → List Entry
  | [] => []
  | member :: rest => member.entry offset :: entriesOf (offset + member.record.length) rest

variable {members : List Member} {bytes : List UInt8}

/-- The entries of a directory are read one after another. -/
theorem entriesFrom?_apply (fits : ∀ member ∈ members, member.Fits) {start : Nat}
    (near : offset + (members.flatMap Member.record).length < 0x100000000)
    (drops : bytes.drop start = directory offset members ++ rest) :
    entriesFrom? bytes 0 members.length start = some (entriesOf offset members) := by
  induction members generalizing offset start with
  | nil => rfl
  | cons member members inductionHypothesis =>
    obtain ⟨fit, fits'⟩ := List.forall_mem_cons.mp fits
    rw [List.flatMap_cons, List.length_append] at near
    rw [directory, List.append_assoc] at drops
    have later : bytes.drop (start + (member.directoryEntry offset).length) =
        directory (offset + member.record.length) members ++ rest := by
      rw [← List.drop_drop, drops, List.drop_left]
    rw [List.length_cons, entriesFrom?, entry?_apply fit (by omega) drops]
    simp only [Option.bind_eq_bind, Option.bind_some]
    rw [inductionHypothesis fits' (by omega) later]
    rfl

/-- The entries give back the members whose records are there. -/
theorem entriesOf_gives (fits : ∀ member ∈ members, member.Fits)
    (near : offset + (members.flatMap Member.record).length < 0x100000000)
    (drops : bytes.drop offset = members.flatMap Member.record ++ rest) :
    List.Forall₂ (fun member entry => entry.Gives bytes member) members
      (entriesOf offset members) := by
  induction members generalizing offset with
  | nil => exact .nil
  | cons member members inductionHypothesis =>
    obtain ⟨fit, fits'⟩ := List.forall_mem_cons.mp fits
    rw [List.flatMap_cons, List.length_append] at near
    rw [List.flatMap_cons, List.append_assoc] at drops
    have later : bytes.drop (offset + member.record.length) =
        members.flatMap Member.record ++ rest := by
      rw [← List.drop_drop, drops, List.drop_left]
    exact .cons (entry_gives fit (by omega) drops) (inductionHypothesis fits' (by omega) later)

theorem map_entriesOf (offset : Nat) (members : List Member) :
    (entriesOf offset members).map (·.name) = members.map (·.name) := by
  induction members generalizing offset with
  | nil => rfl
  | cons member members inductionHypothesis =>
    rw [entriesOf, List.map_cons, inductionHypothesis]
    rfl

/-- An entry of a new name comes after the others. -/
theorem putEntry_of_new {entry : Entry} {found : List Entry}
    (new : entry.name ∉ found.map (·.name)) : putEntry entry found = found ++ [entry] := by
  induction found with
  | nil => rfl
  | cons other found inductionHypothesis =>
    obtain ⟨differs, new'⟩ := not_or.mp (mt List.mem_cons.mpr new)
    rw [putEntry, if_neg (Ne.symm differs), inductionHypothesis new']
    rfl

/-- Entries of new names come after the others. -/
theorem foldl_putEntry {found entries : List Entry}
    (once : ((found ++ entries).map (·.name)).Nodup) :
    entries.foldl (fun found entry => putEntry entry found) found = found ++ entries := by
  induction entries generalizing found with
  | nil => simp
  | cons entry entries inductionHypothesis =>
    have new : entry.name ∉ found.map (·.name) := by
      rw [List.map_append, List.nodup_append] at once
      exact fun among => once.2.2 _ among _ List.mem_cons_self rfl
    rw [List.foldl_cons, putEntry_of_new new, inductionHypothesis (by simpa using once)]
    simp

/-- Entries of different names are all kept. -/
theorem distinct_of_nodup {entries : List Entry} (once : (entries.map (·.name)).Nodup) :
    distinct entries = entries :=
  foldl_putEntry once

/-! ## The record at the end -/

/-- Where a mark is, counted from a place between others. -/
theorem offsetsOf_append (mark front rest : List UInt8) (offset : Nat) : ∃ early,
    offsetsOf mark offset (front ++ rest) =
      early ++ offsetsOf mark (offset + front.length) rest := by
  induction front generalizing offset with
  | nil => exact ⟨[], rfl⟩
  | cons byte front inductionHypothesis =>
    obtain ⟨early, same⟩ := inductionHypothesis (offset + 1)
    have onward : offset + 1 + front.length = offset + (byte :: front).length := by
      rw [List.length_cons]
      omega
    rw [List.cons_append, offsetsOf, same, onward]
    split
    · exact ⟨offset :: early, rfl⟩
    · exact ⟨early, rfl⟩

/-- A mark is found at the start. -/
theorem offsetsOf_mark (byte : UInt8) (more rest : List UInt8) (offset : Nat) :
    offsetsOf (byte :: more) offset (byte :: more ++ rest) =
      offset :: offsetsOf (byte :: more) (offset + 1) (more ++ rest) := by
  have starts : (byte :: more).isPrefixOf (byte :: (more ++ rest)) = true := by
    rw [List.isPrefixOf_iff_prefix]
    exact List.prefix_append _ _
  rw [List.cons_append, offsetsOf, if_pos starts]

/-- Marks are found from the offset on that is counted from. -/
theorem le_of_mem_offsetsOf {mark bytes : List UInt8} {offset found : Nat}
    (listed : found ∈ offsetsOf mark offset bytes) : offset ≤ found := by
  induction bytes generalizing offset with
  | nil => cases listed
  | cons byte bytes inductionHypothesis =>
    rw [offsetsOf] at listed
    split at listed
    · rcases List.mem_cons.mp listed with rfl | listed
      · exact Nat.le_refl _
      · exact Nat.le_of_succ_le (inductionHypothesis listed)
    · exact Nat.le_of_succ_le (inductionHypothesis listed)

/-- A record at the end that is not complete is passed over. -/
theorem search_append {bytes : List UInt8} {positions : List Nat}
    (short : ∀ position ∈ positions, (bytes.drop position).length < endRecordSize)
    (wrong : Option ArchiveError) (rest : List Nat) : ∃ wrong',
      search bytes wrong (positions ++ rest) = search bytes wrong' rest := by
  induction positions generalizing wrong with
  | nil => exact ⟨wrong, rfl⟩
  | cons position positions inductionHypothesis =>
    obtain ⟨short, short'⟩ := List.forall_mem_cons.mp short
    obtain ⟨wrong', same⟩ := inductionHypothesis short' (some (wrong.getD (.file .truncated)))
    have incomplete : EndRecord.read (bytes.drop position) = .error (.file .truncated) :=
      if_pos short
    exact ⟨wrong', by rw [List.cons_append, search, incomplete, ← same]⟩

theorem length_endRecord (count size offset : Nat) :
    (endRecord count size offset).length = endRecordSize := by
  simp [endRecord_eq, length_numbers, endRecordSize]

/-- The record at the end is read as it was written. -/
theorem endRecord_read {count size offset : Nat} (few : count < 0xFFFF)
    (near : offset < 0xFFFFFFFF) : EndRecord.read (endRecord count size offset) =
      .ok ⟨0, 0, count, count, offset⟩ := by
  have fields : field (endRecord count size offset) 4 2 = 0 ∧
      field (endRecord count size offset) 6 2 = 0 ∧
      field (endRecord count size offset) 8 2 = count ∧
      field (endRecord count size offset) 10 2 = count ∧
      field (endRecord count size offset) 16 4 = offset ∧
      field (endRecord count size offset) 20 2 = 0 := by
    rw [endRecord_eq, ← List.append_nil (numbers _)]
    simp only [field_numbers_skip, Nat.reduceLeDiff, Nat.reduceSub]
    exact ⟨field_numbers (by decide), field_numbers (by decide),
      field_numbers (Nat.lt_trans few (by decide)), field_numbers (Nat.lt_trans few (by decide)),
      field_numbers (Nat.lt_trans near (by decide)), field_numbers (by decide)⟩
  obtain ⟨disk, directoryDisk, count_, total, directory_, comment⟩ := fields
  rw [EndRecord.read, comment, length_endRecord, if_neg (by decide), if_neg (by decide), disk,
    directoryDisk, count_, total, directory_]

/-- The directory is found where it was written. -/
theorem layout_at {members : List Member} {records rest : List UInt8}
    (few : members.length < 0xFFFF)
    (near : records.length < 0xFFFFFFFF) :
    Layout.at (records ++ directory 0 members ++ rest)
        ⟨0, 0, members.length, members.length, records.length⟩
        (records ++ directory 0 members).length =
      .ok ⟨records.length, 0, members.length, true⟩ := by
  have leaves : EndRecord.leavesMore ⟨0, 0, members.length, members.length, records.length⟩ =
      false := by
    simp only [EndRecord.leavesMore, Bool.or_eq_false_iff, beq_eq_false_iff_ne]
    omega
  rw [Layout.at, leaves, if_neg Bool.false_ne_true]
  dsimp only
  unfold Layout.ofRecord
  dsimp only
  cases members with
  | nil => simp [directory]
  | cons member members =>
    have some_bytes : (directory 0 (member :: members)).length ≠ 0 := by
      simp [directory, Member.directoryEntry, directoryMark]
    rw [if_neg (by simp), if_neg (by rw [List.length_append]; omega), offsetsIn, List.take_left,
      List.drop_left]
    obtain ⟨more, begins⟩ : ∃ more, directory 0 (member :: members) = directoryMark ++ more := by
      simp only [directory, Member.directoryEntry, List.append_assoc]
      exact ⟨_, rfl⟩
    rw [begins, directoryMark, offsetsOf_mark]
    simp

/-- The members of an archive have different names, and all numbers fit their fields. -/
structure Fits (members : List Member) : Prop where
  distinct : (members.map (·.name)).Nodup
  few : members.length < 0xFFFF
  each : ∀ member ∈ members, member.Fits
  whole : (members.flatMap Member.record).length + (directory 0 members).length < 0xFFFFFFFF

instance (members : List Member) : Decidable (Fits members) :=
  decidable_of_iff ((members.map (·.name)).Nodup ∧ members.length < 0xFFFF ∧
      (∀ member ∈ members, member.Fits) ∧
        (members.flatMap Member.record).length + (directory 0 members).length < 0xFFFFFFFF)
    ⟨fun ⟨distinct, few, each, whole⟩ => ⟨distinct, few, each, whole⟩,
      fun fits => ⟨fits.distinct, fits.few, fits.each, fits.whole⟩⟩

/-- The record at the end begins with a mark, and other marks behind that are in the record. -/
theorem offsetsOf_endRecord (front : List UInt8) (count size offset : Nat) : ∃ early late,
    offsetsOf endMark 0 (front ++ endRecord count size offset) = early ++ front.length :: late ∧
      ∀ position ∈ late, front.length < position := by
  obtain ⟨early, listed⟩ := offsetsOf_append endMark front (endRecord count size offset) 0
  obtain ⟨fields, begins⟩ : ∃ fields, endRecord count size offset = endMark ++ fields := by
    simp only [endRecord, List.append_assoc]
    exact ⟨_, rfl⟩
  rw [listed, begins, Nat.zero_add, endMark, offsetsOf_mark]
  exact ⟨early, _, rfl, fun position => le_of_mem_offsetsOf⟩

/-- The search comes to the record at the end. The marks within that record, which it meets before,
    are too near to the end for a whole one. -/
theorem entries_endRecord (front : List UInt8) (count size offset : Nat) : ∃ wrong early,
    entries (front ++ endRecord count size offset) =
      search (front ++ endRecord count size offset) wrong (front.length :: early) := by
  obtain ⟨early, late, marks, behind⟩ := offsetsOf_endRecord front count size offset
  have short : ∀ position ∈ late.reverse,
      ((front ++ endRecord count size offset).drop position).length < endRecordSize := by
    intro position listed
    have beyond := behind position (List.mem_reverse.mp listed)
    rw [List.length_drop, List.length_append, length_endRecord, endRecordSize]
    omega
  obtain ⟨wrong, passed⟩ := search_append short none (front.length :: early.reverse)
  refine ⟨wrong, early.reverse, ?_⟩
  rw [entries, marks, List.reverse_append, List.reverse_cons, List.append_assoc,
    List.singleton_append, passed]

/-- The entries are those that were written. -/
theorem entries_encode (fits : Fits members) :
    entries (encode members) = .ok (entriesOf 0 members) := by
  have whole := fits.whole
  have few := fits.few
  have once : ((entriesOf 0 members).map (·.name)).Nodup := by
    rw [map_entriesOf]
    exact fits.distinct
  unfold encode
  dsimp only
  generalize records_eq : members.flatMap Member.record = records at whole ⊢
  obtain ⟨wrong, early, search_eq⟩ := entries_endRecord (records ++ directory 0 members)
    members.length (directory 0 members).length records.length
  have lists : (Layout.mk records.length 0 members.length true).entries?
      (records ++ directory 0 members ++ endRecord members.length (directory 0 members).length
        records.length) = some (entriesOf 0 members) := by
    rw [Layout.entries?, if_pos rfl, List.append_assoc,
      entriesFrom?_apply fits.each (by rw [records_eq]; omega) List.drop_left, Option.map_some,
      distinct_of_nodup once]
  rw [search_eq, search, List.drop_left, endRecord_read few (by omega)]
  dsimp only
  rw [layout_at few (by omega)]
  dsimp only
  rw [lists]

/-- An archive whose numbers fit their fields gives back what it is made of. -/
theorem readsBack_of_fits (fits : Fits members) : ReadsBack members := by
  have whole := fits.whole
  have drops : (encode members).drop 0 = members.flatMap Member.record ++
      (directory 0 members ++ endRecord members.length (directory 0 members).length
        (members.flatMap Member.record).length) := by
    rw [List.drop_zero, ← List.append_assoc]
    rfl
  exact ⟨_, entries_encode fits, entriesOf_gives fits.each (by omega) drops⟩

end FileQuery.Archive

import FileQuery.Text.Utf8
import Mathlib.Data.UInt

/-!
# Texts are read back from their bytes

Each character is written in one to four bytes, and these are read as the character, whatever
follows them. So a text is read back from its bytes, without a broken part.
-/

namespace FileQuery.Text

/-! ## The bytes of a text -/

/-- The bytes of an array from an index on, before which others were met. -/
theorem toList_loop (bytes : ByteArray) (index : Nat) (met : List UInt8) :
    ByteArray.toList.loop bytes index met = met.reverse ++ bytes.data.toList.drop index := by
  rw [ByteArray.toList.loop]
  split
  · rename_i inside
    have inside' : index < bytes.data.toList.length := by simpa using inside
    have here : bytes.get! index = bytes.data.toList[index] := by
      simp [ByteArray.get!, getElem!_pos, inside]
    rw [toList_loop bytes (index + 1), here, List.drop_eq_getElem_cons inside']
    simp
  · rename_i outside
    rw [List.drop_of_length_le (by simpa using outside), List.append_nil]
termination_by bytes.size - index

/-- A text is written character by character. -/
theorem encode_eq_flatMap (text : String) :
    encode text = text.toList.flatMap String.utf8EncodeChar := by
  rw [encode, ByteArray.toList, toList_loop, String.toUTF8, ← String.utf8Encode_toList,
    List.utf8Encode, List.data_toByteArray]
  rfl

/-! ## Characters -/

/-- The parts of bytes after a character. -/
theorem decodeParts_append (skipped rest : List UInt8) :
    decodeParts skipped.length (skipped ++ rest) = decodeParts 0 rest := by
  induction skipped with
  | nil => rfl
  | cons byte skipped inductionHypothesis => exact inductionHypothesis

section

variable {first second third fourth : UInt8} (rest : List UInt8)

theorem isContinuation_iff : isContinuation second = true ↔
    0x80 ≤ second.toNat ∧ second.toNat < 0xC0 := by
  rw [isContinuation, Bool.and_eq_true, decide_eq_true_eq, decide_eq_true_eq,
    UInt8.le_iff_toNat_le, UInt8.lt_iff_toNat_lt]
  rfl

/-- Whether a byte is between two others. -/
theorem between_iff {least most : UInt8} : (least ≤ first && first < most) = true ↔
    least.toNat ≤ first.toNat ∧ first.toNat < most.toNat := by
  rw [Bool.and_eq_true, decide_eq_true_eq, decide_eq_true_eq, UInt8.le_iff_toNat_le,
    UInt8.lt_iff_toNat_lt]

/-- The range of a second byte, as a range of numbers. -/
theorem secondAllowed_iff : secondAllowed first second = true ↔
    (first.toNat = 0xE0 → 0xA0 ≤ second.toNat) ∧ (first.toNat = 0xED → second.toNat < 0xA0) ∧
      (first.toNat = 0xF0 → 0x90 ≤ second.toNat) ∧ (first.toNat = 0xF4 → second.toNat < 0x90) ∧
        0x80 ≤ second.toNat ∧ second.toNat < 0xC0 := by
  have is (byte : UInt8) : first = byte ↔ first.toNat = byte.toNat := UInt8.toNat_inj.symm
  unfold secondAllowed
  simp only [is, UInt8.reduceToNat]
  split
  · rw [between_iff]
    simp only [UInt8.reduceToNat]
    omega
  split
  · rw [between_iff]
    simp only [UInt8.reduceToNat]
    omega
  split
  · rw [between_iff]
    simp only [UInt8.reduceToNat]
    omega
  split
  · rw [between_iff]
    simp only [UInt8.reduceToNat]
    omega
  · rw [isContinuation_iff]
    omega

theorem decodeFirst_one (small : first.toNat < 0x80) :
    decodeFirst first rest = .character (Char.ofNat first.toNat) 1 := by
  unfold decodeFirst
  exact if_pos (UInt8.lt_iff_toNat_lt.mpr small)

theorem decodeFirst_two (least : 0xC2 ≤ first.toNat) (most : first.toNat < 0xE0)
    (continues : isContinuation second = true) :
    decodeFirst first (second :: rest) =
      .character (Char.ofNat ((first.toNat - 0xC0) * 0x40 + payload second)) 2 := by
  have notOne : ¬ first < 0x80 := fun less => by
    have small : first.toNat < 0x80 := UInt8.lt_iff_toNat_lt.mp less
    omega
  have two : (0xC2 ≤ first && first < 0xE0) = true := between_iff.mpr ⟨least, most⟩
  unfold decodeFirst
  rw [if_neg notOne, if_pos two]
  dsimp only
  rw [if_pos continues]

theorem decodeFirst_three (least : 0xE0 ≤ first.toNat) (most : first.toNat < 0xF0)
    (allowed : secondAllowed first second = true) (continues : isContinuation third = true) :
    decodeFirst first (second :: third :: rest) =
      .character (Char.ofNat (((first.toNat - 0xE0) * 0x40 + payload second) * 0x40
        + payload third)) 3 := by
  have notOne : ¬ first < 0x80 := fun less => by
    have small : first.toNat < 0x80 := UInt8.lt_iff_toNat_lt.mp less
    omega
  have notTwo : ¬ (0xC2 ≤ first && first < 0xE0) = true := fun two => by
    have small : first.toNat < 0xE0 := (between_iff.mp two).2
    omega
  have three : (0xE0 ≤ first && first < 0xF0) = true := between_iff.mpr ⟨least, most⟩
  unfold decodeFirst
  rw [if_neg notOne, if_neg notTwo, if_pos three]
  dsimp only
  rw [if_pos allowed, if_pos continues]

theorem decodeFirst_four (least : 0xF0 ≤ first.toNat) (most : first.toNat < 0xF5)
    (allowed : secondAllowed first second = true) (continues : isContinuation third = true)
    (continues' : isContinuation fourth = true) :
    decodeFirst first (second :: third :: fourth :: rest) =
      .character (Char.ofNat ((((first.toNat - 0xF0) * 0x40 + payload second) * 0x40
        + payload third) * 0x40 + payload fourth)) 4 := by
  have notOne : ¬ first < 0x80 := fun less => by
    have small : first.toNat < 0x80 := UInt8.lt_iff_toNat_lt.mp less
    omega
  have notTwo : ¬ (0xC2 ≤ first && first < 0xE0) = true := fun two => by
    have small : first.toNat < 0xE0 := (between_iff.mp two).2
    omega
  have notThree : ¬ (0xE0 ≤ first && first < 0xF0) = true := fun three => by
    have small : first.toNat < 0xF0 := (between_iff.mp three).2
    omega
  have four : (0xF0 ≤ first && first < 0xF5) = true := between_iff.mpr ⟨least, most⟩
  unfold decodeFirst
  rw [if_neg notOne, if_neg notTwo, if_neg notThree, if_pos four]
  dsimp only
  rw [if_pos allowed, if_pos continues, if_pos continues']

end

/-- The bytes of a character are read as the character, whatever follows them. -/
theorem decodeFirst_encodeChar (c : Char) (rest : List UInt8) :
    ∃ first more, String.utf8EncodeChar c = first :: more ∧
      decodeFirst first (more ++ rest) = .character c (more.length + 1) := by
  have whole : Char.ofNat c.val.toNat = c := Char.ofNat_toNat c
  have valid : c.val.toNat < 0xD800 ∨ 0xDFFF < c.val.toNat ∧ c.val.toNat < 0x110000 := c.valid
  unfold String.utf8EncodeChar
  generalize c.val.toNat = value at whole valid
  dsimp only
  have byte {number : Nat} (small : number < 256) : (UInt8.ofNat number).toNat = number :=
    Nat.mod_eq_of_lt small
  split
  · refine ⟨_, [], rfl, ?_⟩
    have first : (UInt8.ofNat value).toNat = value := byte (by omega)
    rw [decodeFirst_one _ (by omega), first, whole]
    rfl
  split
  · have first := byte (show value / 64 % 32 + 192 < 256 by omega)
    have second := byte (show value % 64 + 128 < 256 by omega)
    refine ⟨_, _, rfl, ?_⟩
    rw [List.cons_append, decodeFirst_two _ (by omega) (by omega)
      (isContinuation_iff.mpr (by omega)), payload, first, second]
    have same : (value / 64 % 32 + 192 - 192) * 64 + (value % 64 + 128) % 64 = value := by omega
    rw [same, whole]
    rfl
  split
  · have first := byte (show value / 4096 % 16 + 224 < 256 by omega)
    have second := byte (show value / 64 % 64 + 128 < 256 by omega)
    have third := byte (show value % 64 + 128 < 256 by omega)
    refine ⟨_, _, rfl, ?_⟩
    rw [List.cons_append, List.cons_append, decodeFirst_three _ (by omega) (by omega)
      (secondAllowed_iff.mpr (by omega)) (isContinuation_iff.mpr (by omega)), payload, payload,
      first, second, third]
    have same : ((value / 4096 % 16 + 224 - 224) * 64 + (value / 64 % 64 + 128) % 64) * 64 +
        (value % 64 + 128) % 64 = value := by omega
    rw [same, whole]
    rfl
  · have first := byte (show value / 262144 % 8 + 240 < 256 by omega)
    have second := byte (show value / 4096 % 64 + 128 < 256 by omega)
    have third := byte (show value / 64 % 64 + 128 < 256 by omega)
    have fourth := byte (show value % 64 + 128 < 256 by omega)
    refine ⟨_, _, rfl, ?_⟩
    rw [List.cons_append, List.cons_append, List.cons_append, decodeFirst_four _ (by omega)
      (by omega) (secondAllowed_iff.mpr (by omega)) (isContinuation_iff.mpr (by omega))
      (isContinuation_iff.mpr (by omega)), payload, payload, payload, first, second, third, fourth]
    have same : (((value / 262144 % 8 + 240 - 240) * 64 + (value / 4096 % 64 + 128) % 64) * 64 +
        (value / 64 % 64 + 128) % 64) * 64 + (value % 64 + 128) % 64 = value := by omega
    rw [same, whole]
    rfl

/-- A text is read back from its bytes without a broken part. -/
theorem decodeParts_encode (text : String) :
    decodeParts 0 (encode text) = text.toList.map some := by
  rw [encode_eq_flatMap]
  induction text.toList with
  | nil => rfl
  | cons c rest inductionHypothesis =>
    obtain ⟨first, more, bytes, reads⟩ :=
      decodeFirst_encodeChar c (rest.flatMap String.utf8EncodeChar)
    rw [List.flatMap_cons, bytes, List.cons_append, decodeParts, reads]
    dsimp only
    rw [Nat.add_sub_cancel, decodeParts_append, inductionHypothesis]
    rfl

/-- A text is read back from its bytes. -/
theorem decodeLossy_encode (text : String) : decodeLossy (encode text) = text := by
  rw [decodeLossy, decodeParts_encode, List.map_map]
  have same : (fun part : Option Char => part.getD '\uFFFD') ∘ some = id := rfl
  rw [same, List.map_id, String.ofList_toList]

/-- The bytes of a text are those of a text. -/
theorem decode?_encode (text : String) : decode? (encode text) = some text := by
  have whole (characters : List Char) : (characters.map some).mapM id = some characters := by
    induction characters with
    | nil => rfl
    | cons c rest inductionHypothesis => simp [inductionHypothesis]
  rw [decode?, decodeParts_encode, whole, Option.map_some, String.ofList_toList]

end FileQuery.Text

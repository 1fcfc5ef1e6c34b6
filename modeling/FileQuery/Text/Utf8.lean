/-!
# Texts as bytes

Files hold bytes and statements speak of texts. A text is written in UTF-8. Bytes are read back
either strictly, or with a replacement character for each part that is not UTF-8.
-/

namespace FileQuery.Text

/-- The bytes of a text. -/
def encode (text : String) : List UInt8 := text.toUTF8.toList

/-- The number of bytes that the characters take. -/
def byteLength (text : List Char) : Nat :=
  text.foldr (fun c bytes => c.utf8Size + bytes) 0

@[simp] theorem byteLength_nil : byteLength [] = 0 := rfl

@[simp] theorem byteLength_cons (c : Char) (rest : List Char) :
    byteLength (c :: rest) = c.utf8Size + byteLength rest := rfl

@[simp] theorem byteLength_append (first second : List Char) :
    byteLength (first ++ second) = byteLength first + byteLength second := by
  induction first with
  | nil => simp
  | cons c rest inductionHypothesis => simp [inductionHypothesis, Nat.add_assoc]

/-- Some characters take some bytes. -/
theorem byteLength_pos {text : List Char} (some_text : text ≠ []) : 0 < byteLength text := by
  obtain ⟨c, rest, rfl⟩ := List.exists_cons_of_ne_nil some_text
  have size := c.utf8Size_pos
  rw [byteLength_cons]
  omega

/-- The bytes of the characters are the bytes of the text. -/
theorem utf8ByteSize_ofList (text : List Char) :
    (String.ofList text).utf8ByteSize = byteLength text := by
  induction text with
  | nil => rfl
  | cons c rest inductionHypothesis =>
    rw [String.ofList_cons, String.utf8ByteSize_append, String.utf8ByteSize_singleton,
      inductionHypothesis, byteLength_cons]

theorem byteLength_toList (text : String) : byteLength text.toList = text.utf8ByteSize := by
  rw [← utf8ByteSize_ofList, String.ofList_toList]

/-- How a list of bytes begins: with a character of the given number of bytes, or with as many
    bytes as belong to no character but could have begun one. -/
inductive Decoded
  | character (c : Char) (length : Nat)
  | broken (length : Nat)
  deriving DecidableEq

/-- Whether a byte continues a character. -/
def isContinuation (byte : UInt8) : Bool := 0x80 ≤ byte && byte < 0xC0

/-- The six bits that a continuation byte carries. -/
def payload (byte : UInt8) : Nat := byte.toNat % 0x40

/-- The range of the second byte of a character, which depends on the first: it excludes
    overlong forms, surrogates and values beyond the last code point. -/
def secondAllowed (first second : UInt8) : Bool :=
  if first = 0xE0 then 0xA0 ≤ second && second < 0xC0
  else if first = 0xED then 0x80 ≤ second && second < 0xA0
  else if first = 0xF0 then 0x90 ≤ second && second < 0xC0
  else if first = 0xF4 then 0x80 ≤ second && second < 0x90
  else isContinuation second

/-- The character or the broken part at the start of a nonempty list of bytes. A broken part is
    the longest beginning of a character, and one byte at least. -/
def decodeFirst (first : UInt8) (rest : List UInt8) : Decoded :=
  if first < 0x80 then .character (Char.ofNat first.toNat) 1
  else if 0xC2 ≤ first && first < 0xE0 then
    match rest with
    | second :: _ =>
      if isContinuation second then
        .character (Char.ofNat ((first.toNat - 0xC0) * 0x40 + payload second)) 2
      else .broken 1
    | [] => .broken 1
  else if 0xE0 ≤ first && first < 0xF0 then
    match rest with
    | second :: more =>
      if secondAllowed first second then
        match more with
        | third :: _ =>
          if isContinuation third then
            .character (Char.ofNat (((first.toNat - 0xE0) * 0x40 + payload second) * 0x40
              + payload third)) 3
          else .broken 2
        | [] => .broken 2
      else .broken 1
    | [] => .broken 1
  else if 0xF0 ≤ first && first < 0xF5 then
    match rest with
    | second :: more =>
      if secondAllowed first second then
        match more with
        | third :: last =>
          if isContinuation third then
            match last with
            | fourth :: _ =>
              if isContinuation fourth then
                .character (Char.ofNat ((((first.toNat - 0xF0) * 0x40 + payload second) * 0x40
                  + payload third) * 0x40 + payload fourth)) 4
              else .broken 3
            | [] => .broken 3
          else .broken 2
        | [] => .broken 2
      else .broken 1
    | [] => .broken 1
  else .broken 1

/-- The characters of a list of bytes, front first, with `none` for each broken part. The
    reader skips the bytes of a character that its first byte has already accounted for. -/
def decodeParts : Nat → List UInt8 → List (Option Char)
  | _, [] => []
  | skip + 1, _ :: rest => decodeParts skip rest
  | 0, first :: rest =>
    match decodeFirst first rest with
    | .character c length => some c :: decodeParts (length - 1) rest
    | .broken length => none :: decodeParts (length - 1) rest

/-- The text of a list of bytes, with a replacement character for each broken part. -/
def decodeLossy (bytes : List UInt8) : String :=
  String.ofList ((decodeParts 0 bytes).map fun part => part.getD '\uFFFD')

/-- The text of a list of bytes, if all of them belong to characters. -/
def decode? (bytes : List UInt8) : Option String :=
  ((decodeParts 0 bytes).mapM id).map String.ofList

end FileQuery.Text

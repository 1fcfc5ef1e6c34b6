import FileQuery.Compression.Deflate

/-!
# Compressed bytes are read back

Bytes that were compressed as a block in the fixed code come out of it as they were. A reader takes
the bits of a word and leaves what follows them, whatever it is, so the words of the fixed code can
be tried one by one.
-/

namespace FileQuery.Compression

namespace Inflation

/-! ## Bits of bytes -/

theorem testBit_number (bits : List Bool) (index : Nat) :
    (number bits).testBit index = bits[index]?.getD false := by
  induction bits generalizing index with
  | nil => simp [number]
  | cons bit rest inductionHypothesis =>
    cases index with
    | zero => cases bit <;> simp [number]
    | succ index =>
      have half : (number (bit :: rest)) / 2 = number rest := by
        cases bit <;> simp [number] <;> omega
      rw [Nat.testBit_succ, half, inductionHypothesis]
      rfl

theorem number_lt (bits : List Bool) : number bits < Nat.pow 2 bits.length := by
  induction bits with
  | nil => simp [number]
  | cons bit rest inductionHypothesis =>
    have doubled : Nat.pow 2 (rest.length + 1) = Nat.pow 2 rest.length * 2 := rfl
    have oneBit := bit.toNat_le
    rw [number, List.length_cons, doubled]
    omega

/-- A byte of up to eight bits has these bits, and is filled up with zeros. -/
theorem bitsOf_number {bits : List Bool} (few : bits.length ≤ 8) :
    bitsOf (UInt8.ofNat (number bits)) = bits ++ List.replicate (8 - bits.length) false := by
  have small : number bits < 256 :=
    Nat.lt_of_lt_of_le (number_lt bits) (Nat.pow_le_pow_right (by decide) few)
  refine List.ext_getElem? fun index => ?_
  rw [bitsOf, UInt8.toNat_ofNat', Nat.mod_eq_of_lt small, List.getElem?_map]
  by_cases inside : index < 8
  · rw [List.getElem?_range inside, Option.map_some, testBit_number]
    by_cases given : index < bits.length
    · rw [List.getElem?_append_left given, List.getElem?_eq_getElem given]
      rfl
    · rw [List.getElem?_append_right (by omega), List.getElem?_replicate,
        if_pos (by omega), List.getElem?_eq_none (by omega)]
      rfl
  · rw [List.getElem?_eq_none (by simp; omega), List.getElem?_eq_none (by simp; omega)]
    rfl

/-- The bits of packed bits are the bits, and some more to fill up the last byte. -/
theorem bitsOf_packBits (bits : List Bool) :
    ∃ more, (packBits bits).flatMap bitsOf = bits ++ more := by
  induction bits using packBits.induct with
  | case1 => exact ⟨[], rfl⟩
  | case2 b0 b1 b2 b3 b4 b5 b6 b7 rest inductionHypothesis =>
    obtain ⟨more, same⟩ := inductionHypothesis
    refine ⟨more, ?_⟩
    rw [packBits, List.flatMap_cons, same, bitsOf_number (by simp)]
    simp
  | case3 few some_bits notFull =>
    have short : few.length ≤ 8 := by
      refine Nat.le_of_not_lt fun long => ?_
      rcases few with
        _ | ⟨b0, _ | ⟨b1, _ | ⟨b2, _ | ⟨b3, _ | ⟨b4, _ | ⟨b5, _ | ⟨b6, _ | ⟨b7, rest⟩⟩⟩⟩⟩⟩⟩⟩
      case cons.cons.cons.cons.cons.cons.cons.cons => exact notFull _ _ _ _ _ _ _ _ _ rfl
      all_goals simp at long
    refine ⟨List.replicate (8 - few.length) false, ?_⟩
    rw [packBits, List.flatMap_singleton, bitsOf_number short]
    · exact some_bits
    · exact notFull

/-! ## Words -/

/-- A reader takes bits, whatever follows them, makes a value of them and leaves the result. -/
def Takes {α : Type} (reader : Reader α) (bits : List Bool) (value : α) : Prop :=
  ∀ rest output, reader ⟨bits ++ rest, output⟩ = (.ok value, ⟨rest, output⟩)

theorem split?_append (first rest : List Bool) :
    split? first.length (first ++ rest) = some (first, rest) := by
  induction first with
  | nil => rfl
  | cons bit first inductionHypothesis =>
    rw [List.length_cons, List.cons_append, split?, inductionHypothesis]
    rfl

theorem takes_takeBits (bits : List Bool) : Takes (takeBits bits.length) bits (number bits) := by
  intro rest output
  rw [takeBits, split?_append]

/-- A sequence of readers takes the bits of both. -/
theorem bind_apply {α β : Type} (first : Reader α) (second : α → Reader β) (state : Inflation) :
    (first >>= second) state =
      match first state with
      | (.ok value, later) => second value later
      | (.error flaw, later) => (.error flaw, later) := by
  change (ExceptT.bindCont second (first state).1) (first state).2 = _
  rcases first state with ⟨flaw | value, later⟩ <;> rfl

theorem Takes.bind {α β : Type} {first : Reader α} {second : α → Reader β} {bits bits' : List Bool}
    {value : α} {value' : β} (takes : Takes first bits value)
    (takes' : Takes (second value) bits' value') :
    Takes (first >>= second) (bits ++ bits') value' := by
  intro rest output
  rw [bind_apply, List.append_assoc, takes]
  exact takes' rest output

/-- What a reader of words makes of bits it makes of them whatever follows. -/
theorem symbolFrom_append {flaw : StreamFlaw} {space unit word first found : Nat}
    {byLength : List (List Nat)} {bits left : List Bool} {output output' : Array UInt8}
    (reads : symbolFrom flaw space byLength unit word first ⟨bits, output⟩ =
      (.ok found, ⟨left, output'⟩)) (rest : List Bool) (output'' : Array UInt8) :
    symbolFrom flaw space byLength unit word first ⟨bits ++ rest, output''⟩ =
      (.ok found, ⟨left ++ rest, output''⟩) := by
  induction byLength generalizing unit word first bits with
  | nil => cases reads
  | cons symbols longer inductionHypothesis =>
    rw [symbolFrom, bind_apply] at reads ⊢
    cases bits with
    | nil => cases reads
    | cons bit bits =>
      have one (later : List Bool) (made : Array UInt8) :
          takeBits 1 ⟨bit :: later, made⟩ = (.ok (number [bit]), ⟨later, made⟩) := rfl
      rw [one] at reads
      rw [List.cons_append, one]
      dsimp only at reads ⊢
      cases met : symbols[2 * word + number [bit] - 2 * first]? with
      | some symbol =>
        rw [met] at reads
        obtain ⟨same, state⟩ := Prod.mk.inj reads
        obtain ⟨rfl, -⟩ := Inflation.mk.inj state
        obtain rfl := Except.ok.inj same
        rfl
      | none =>
        rw [met] at reads
        dsimp only at reads ⊢
        split at reads
        · cases reads
        · rename_i inside
          rw [if_neg inside]
          exact inductionHypothesis reads

/-- The words of the fixed code. -/
abbrev fixedWords : Words := Code.words fixedLiterals

/-- Whether a word is read as a symbol. -/
def isWordOf (word : List Bool) (found : Nat) : Bool :=
  match symbol .literal fixedWords ⟨word, #[]⟩ with
  | (.ok value, ⟨[], _⟩) => value == found
  | _ => false

theorem takes_of_isWordOf {word : List Bool} {found : Nat} (isWord : isWordOf word found = true) :
    Takes (symbol .literal fixedWords) word found := by
  intro rest output
  unfold isWordOf at isWord
  split at isWord
  · rename_i value output' reads
    obtain rfl := eq_of_beq isWord
    exact symbolFrom_append reads rest output
  · cases isWord

/-- A byte is read from its word. -/
theorem takes_fixedWord (byte : UInt8) :
    Takes (symbol .literal fixedWords) (fixedWord byte) byte.toNat := by
  have words : ∀ byte : Fin 256,
      isWordOf (fixedWord (UInt8.ofNat byte.val)) byte.val = true := by
    decide +kernel
  have isWord := words ⟨byte.toNat, byte.toNat_lt⟩
  rw [UInt8.ofNat_toNat] at isWord
  exact takes_of_isWordOf isWord

/-- The end of the block is read from its word. -/
theorem takes_fixedBlockEnd : Takes (symbol .literal fixedWords) fixedBlockEnd 256 :=
  takes_of_isWordOf (by decide +kernel)

/-! ## Blocks -/

/-- The words of bytes up to the end of the block are read as the bytes. -/
theorem symbols_apply (dialect : Dialect) (distances : Words) (bytes : List UInt8) {fuel : Nat}
    (enough : bytes.length < fuel) (rest : List Bool) (output : Array UInt8) :
    symbols dialect fixedWords distances fuel
        ⟨bytes.flatMap fixedWord ++ fixedBlockEnd ++ rest, output⟩ =
      (.ok (), ⟨rest, output ++ bytes.toArray⟩) := by
  induction bytes generalizing fuel output with
  | nil =>
    obtain ⟨fuel, rfl⟩ := Nat.exists_eq_succ_of_ne_zero (Nat.ne_zero_of_lt enough)
    rw [symbols, bind_apply, List.flatMap_nil, List.nil_append, takes_fixedBlockEnd]
    dsimp only
    rw [if_neg (by decide), if_pos rfl]
    simp
    rfl
  | cons byte bytes inductionHypothesis =>
    obtain ⟨fuel, rfl⟩ := Nat.exists_eq_succ_of_ne_zero (Nat.ne_zero_of_lt enough)
    rw [symbols, bind_apply, List.flatMap_cons, List.append_assoc, List.append_assoc,
      takes_fixedWord]
    dsimp only
    rw [if_pos byte.toNat_lt, bind_apply, emit, ← List.append_assoc]
    dsimp only
    rw [inductionHypothesis (by simpa using enough)]
    simp

theorem length_wordBits (count word : Nat) : (wordBits count word).length = count := by
  induction count with
  | zero => rfl
  | succ count inductionHypothesis => rw [wordBits, List.length_cons, inductionHypothesis]

/-- Every byte takes a bit at least. -/
theorem length_le_fixedWords (bytes : List UInt8) :
    bytes.length ≤ (bytes.flatMap fixedWord).length := by
  induction bytes with
  | nil => exact Nat.le_refl 0
  | cons byte bytes inductionHypothesis =>
    have some_bits : 1 ≤ (fixedWord byte).length := by
      unfold fixedWord
      split <;> rw [length_wordBits] <;> decide
    rw [List.flatMap_cons, List.length_append, List.length_cons]
    omega

/-- A single block in the fixed code is read as its bytes. -/
theorem blocks_apply (dialect : Dialect) (bytes : List UInt8) (fuel : Nat) (rest : List Bool) :
    blocks dialect (fuel + 1)
        ⟨fixedBlockStart ++ bytes.flatMap fixedWord ++ fixedBlockEnd ++ rest, #[]⟩ =
      (.ok (), ⟨rest, bytes.toArray⟩) := by
  have last : Takes (takeBits 1) [true] 1 := takes_takeBits [true]
  have kind : Takes (takeBits 2) [true, false] 1 := takes_takeBits [true, false]
  have start : fixedBlockStart ++ bytes.flatMap fixedWord ++ fixedBlockEnd ++ rest =
      [true] ++ ([true, false] ++ (bytes.flatMap fixedWord ++ fixedBlockEnd ++ rest)) := by
    simp [fixedBlockStart]
  have enough : bytes.length <
      (bytes.flatMap fixedWord ++ fixedBlockEnd ++ rest).length + 1 := by
    have shorter := length_le_fixedWords bytes
    simp only [List.length_append]
    omega
  have reads := symbols_apply dialect (Code.words fixedDistances) bytes enough rest #[]
  have state (now : Inflation) : (get : Reader Inflation) now = (.ok now, now) := rfl
  rw [start, blocks, bind_apply, last]
  dsimp only
  rw [bind_apply, kind]
  dsimp only
  rw [bind_apply, state]
  dsimp only
  rw [if_neg (by decide), if_pos rfl, bind_apply, reads]
  dsimp only
  rw [if_pos rfl, Array.empty_append]
  rfl

end Inflation

/-- Compressed bytes are read back without a flaw. -/
theorem inflate_deflate (bytes : List UInt8) : inflate (deflate bytes) = (bytes, none) := by
  obtain ⟨more, bits⟩ := Inflation.bitsOf_packBits
    (Inflation.fixedBlockStart ++ bytes.flatMap Inflation.fixedWord ++ Inflation.fixedBlockEnd)
  rw [inflate, inflateWith, deflate, bits, ExceptT.run, Inflation.blocks_apply]

end FileQuery.Compression

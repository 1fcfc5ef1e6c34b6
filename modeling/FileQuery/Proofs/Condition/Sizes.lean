import FileQuery.Proofs.Condition.Operators
import FileQuery.Proofs.Instant.Reading
import FileQuery.Proofs.Number.Shortest
import Mathlib

/-!
# Conditions on sizes

A size and the whole number that it is compared with are both kept with 53 significant bits. So they
are compared as their roundings are, and a pattern is looked for in the numeral of the number that
a size is written as (`sizes_by_rounding`). Up to `2 ^ 53` nothing is lost.
-/

namespace FileQuery

/-! ## Whole numbers in a query -/

namespace Number

variable {digits : List Char} {text : String} {n value : Nat}

/-- A text that is a natural number in decimal. Blanks around it, a plus sign and zeros before it
    make no difference. -/
def Spells (text : String) (value : Nat) : Prop :=
  ∃ before sign digits after, text.toList = before ++ (sign ++ digits) ++ after ∧
    (∀ c ∈ before, Text.isBlank c = true) ∧ (∀ c ∈ after, Text.isBlank c = true) ∧
    (sign = [] ∨ sign = ['+']) ∧ digits ≠ [] ∧ (∀ c ∈ digits, c.isDigit = true) ∧
    Nat.ofDigitChars 10 digits 0 = value

/-- The numeral of a number is one of the texts that spell it. -/
theorem spells_toString (value : Nat) : Spells (toString value) value := by
  refine ⟨[], [], Nat.toDigits 10 value, [], by simp, nofun, nofun, .inl rfl,
    Nat.toDigits_ne_nil, fun c digit => ?_, ?_⟩
  · exact Nat.isDigit_of_mem_toDigits (by decide) (by decide) digit
  · exact Nat.ofDigitChars_toDigits (by decide) (by decide)

/-- A natural number is read as it is rounded. -/
theorem ofDecimal_ofNat (small : n < 2 ^ 64) : ofDecimal false n 0 = ofNat n := by
  have length : (toString n).length ≤ 20 := by
    rw [Nat.toString_eq_repr, Nat.repr, String.length_ofList,
      Nat.length_toDigits_le_iff (by decide) (by decide)]
    exact small.trans (by decide)
  rcases Nat.eq_zero_or_pos n with rfl | pos
  · rw [ofNat_zero]
    rfl
  · simp only [ofDecimal, pos.ne', if_false, Int.zero_add]
    rw [if_neg (by omega), if_neg (by omega)]
    simp [ofNat]

theorem unsigned?_digits (some_ : digits ≠ []) (all : ∀ c ∈ digits, c.isDigit = true) :
    unsigned? false digits = some (ofDecimal false (Nat.ofDigitChars 10 digits 0) 0) := by
  have taken : digits.takeWhile Char.isDigit = digits := List.takeWhile_eq_self_iff.mpr all
  have rest : digits.dropWhile Char.isDigit = [] := List.dropWhile_eq_nil_iff.mpr all
  have present : digits.isEmpty = false := by simpa using some_
  simp only [unsigned?, spanDigits, taken, rest, present, Bool.false_and, List.append_nil]
  rfl

/-- Neither digits nor digits after a plus sign have blanks around them. -/
theorem trim_signed {sign : List Char} (plus : sign = [] ∨ sign = ['+']) (some_ : digits ≠ [])
    (all : ∀ c ∈ digits, c.isDigit = true) : Text.trim (sign ++ digits) = sign ++ digits := by
  refine Text.trim_eq_self (fun c first => ?_) fun c last => ?_
  · rcases plus with rfl | rfl
    · exact Text.isBlank_of_isDigit (all c (List.mem_of_mem_head? first))
    · obtain rfl : '+' = c := by simpa using first
      decide
  · rw [List.getLast?_append_of_ne_nil _ some_] at last
    exact Text.isBlank_of_isDigit (all c (List.mem_of_mem_getLast? last))

/-- A text that spells a natural number is read as the number nearest to it. -/
theorem read?_of_spells (spells : Spells text value) (small : value < 2 ^ 64) :
    read? text = some (ofNat value) := by
  obtain ⟨before, sign, digits, after, is, blank, blank', plus, some_, all, rfl⟩ := spells
  rw [← ofDecimal_ofNat small, ← unsigned?_digits some_ all, read?, is,
    Text.trim_surrounded _ blank blank', trim_signed plus some_ all]
  rcases plus with rfl | rfl
  · obtain ⟨c, rest, rfl⟩ := List.exists_cons_of_ne_nil some_
    have digit := all c List.mem_cons_self
    rw [List.nil_append]
    split
    case h_1 minus => simp [(List.cons.inj minus).1] at digit
    case h_2 plus => simp [(List.cons.inj plus).1] at digit
    case h_3 => rfl
  · rfl

end Number

namespace Condition

open Number (nearest IsShortest Spells)

variable {path : String} {attributes : Attributes} {value : String} {n m : Nat}

/-! ## Comparing sizes -/

/-- The order of a size and a whole number is that of their roundings. -/
theorem size_ordered (small : attributes.size < 2 ^ 64) (small' : m < 2 ^ 64) :
    (attributes.value .size).compare? (.number (.ofNat m)) =
      some (Ord.compare (nearest attributes.size) (nearest m)) := by
  rw [Attributes.value, Value.compare?, Number.compare?_ofNat small small']

theorem coerce_size (spells : Spells value m) (small : m < 2 ^ 64) :
    coerce .size value = .ok (.number (.ofNat m)) := by
  simp [coerce, Value.ofLiteral?, Property.valueType, Number.read?_of_spells spells small]

/-- The four ordering operators tell the order of two natural numbers. -/
def TellsOrder (path : String) (attributes : Attributes) (value : String) (n m : Nat) : Prop :=
  answer path attributes .size .less value = .ok (decide (n < m)) ∧
    answer path attributes .size .greater value = .ok (decide (m < n)) ∧
    answer path attributes .size .lessOrEqual value = .ok (decide (n ≤ m)) ∧
    answer path attributes .size .greaterOrEqual value = .ok (decide (m ≤ n))

theorem tellsOrder_nearest (small : attributes.size < 2 ^ 64) (spells : Spells value m)
    (small' : m < 2 ^ 64) :
    TellsOrder path attributes value (nearest attributes.size) (nearest m) := by
  have read := coerce_size spells small'
  have ordered := size_ordered small small'
  refine ⟨?_, ?_, ?_, ?_⟩
  · rw [answer_eq_accepts rfl read ordered, accepts_less]
  · rw [answer_eq_accepts rfl read ordered, accepts_greater]
  · rw [answer_eq_accepts rfl read ordered, accepts_lessOrEqual]
  · rw [answer_eq_accepts rfl read ordered, accepts_greaterOrEqual]

/-- Two pairs of numbers have one order. -/
theorem TellsOrder.iff {n' m' : Nat} (tells : TellsOrder path attributes value n m) :
    TellsOrder path attributes value n' m' ↔ ((n < m ↔ n' < m') ∧ (m < n ↔ m' < n')) := by
  obtain ⟨less, greater, lessOrEqual, greaterOrEqual⟩ := tells
  rw [TellsOrder, less, greater, lessOrEqual, greaterOrEqual]
  simp only [Except.ok.injEq, decide_eq_decide]
  omega

/-- Rounding keeps an order where it keeps two numbers apart, and between equal ones. -/
theorem nearest_order_iff : ((nearest n < nearest m ↔ n < m) ∧ (nearest m < nearest n ↔ m < n)) ↔
    (n = m ∨ nearest n ≠ nearest m) := by
  rcases lt_trichotomy n m with less | same | greater
  · have := Number.nearest_mono less.le
    omega
  · rw [same]
    omega
  · have := Number.nearest_mono greater.le
    omega

/-- A size and a whole number below `2 ^ 64` are compared as their roundings to 53 significant bits
    are, which is their own order just if they are equal or their roundings are not. Patterns are
    looked for in the numeral of the number that a size is written as. Sizes and whole numbers up
    to `2 ^ 53` are compared and written as they are. -/
theorem sizes_by_rounding (path : String) (attributes : Attributes)
    (small : attributes.size < 2 ^ 64) :
    (∀ value m, Spells value m → m < 2 ^ 64 →
      TellsOrder path attributes value (nearest attributes.size) (nearest m) ∧
      (TellsOrder path attributes value attributes.size m ↔
        attributes.size = m ∨ nearest attributes.size ≠ nearest m) ∧
      (attributes.size ≤ 2 ^ 53 → m ≤ 2 ^ 53 →
        TellsOrder path attributes value attributes.size m)) ∧
    ∃ shown, IsShortest attributes.size shown ∧
      (attributes.size ≤ 2 ^ 53 → shown = attributes.size) ∧
      ∀ operator value, operator ∈ [Operator.like, .equal, .notEqual] →
        answer path attributes .size operator value = (pattern value).map fun regular =>
          let found := Pattern.matchesText regular (toString shown)
          if operator = .notEqual then !found else found := by
  constructor
  · intro value m spells small'
    have tells : TellsOrder path attributes value (nearest attributes.size) (nearest m) :=
      tellsOrder_nearest small spells small'
    have exact_ := tells.iff.trans nearest_order_iff
    refine ⟨tells, exact_, fun le le' => ?_⟩
    rwa [Number.nearest_of_le le, Number.nearest_of_le le'] at tells
  · obtain ⟨shown, shortest, written⟩ := Number.text_ofNat small
    refine ⟨shown, shortest, shortest.eq_of_le, fun operator value finds => ?_⟩
    have matches_ : operator.isLogical = false ∧ operator.isOrdering = false := by
      revert operator
      decide
    rw [answer_eq_pattern matches_.1 matches_.2, ← written]
    rfl

/-- The first size that is not kept is compared with the first whole number after it that is not. -/
theorem sizes_by_rounding_first :
    let attributes : Attributes := ⟨"a", "", 2 ^ 53 + 1, none, .epoch, .epoch, .epoch⟩
    attributes.size < 2 ^ 64 ∧ Spells " +09007199254740995" (2 ^ 53 + 3) ∧
      2 ^ 53 + 3 < 2 ^ 64 ∧
      TellsOrder "in/a" attributes " +09007199254740995" (2 ^ 53 + 1) (2 ^ 53 + 3) ∧
      ∃ shown, IsShortest (2 ^ 53 + 1) shown := by
  have blank : Text.isBlank ' ' = true := by decide
  have spells : Spells " +09007199254740995" (2 ^ 53 + 3) :=
    ⟨[' '], ['+'], "09007199254740995".toList, [], by decide +kernel, by simp [blank], nofun,
      .inr rfl, by decide +kernel, by simp, by decide +kernel⟩
  obtain ⟨compared, shown, shortest, -⟩ := sizes_by_rounding "in/a"
    ⟨"a", "", 2 ^ 53 + 1, none, .epoch, .epoch, .epoch⟩ (by decide)
  exact ⟨by decide, spells, by decide,
    (compared _ _ spells (by decide)).2.1.mpr (.inr (by decide +kernel)), shown, shortest⟩

/-- The first size that is not kept is not greater than the number before it. -/
theorem not_sizes_exact : ¬ ∀ path attributes value m, attributes.size < 2 ^ 64 → m < 2 ^ 64 →
    Spells value m → TellsOrder path attributes value attributes.size m := by
  intro exact_
  have spells : Spells "9007199254740992" (2 ^ 53) :=
    ⟨[], [], "9007199254740992".toList, [], by decide +kernel, nofun, nofun, .inl rfl,
      by decide +kernel, by simp, by decide +kernel⟩
  have greater := (exact_ "in/a" ⟨"a", "", 2 ^ 53 + 1, none, .epoch, .epoch, .epoch⟩
    "9007199254740992" (2 ^ 53) (by decide) (by decide) spells).2.1
  have answered : answer "in/a" ⟨"a", "", 2 ^ 53 + 1, none, .epoch, .epoch, .epoch⟩ .size .greater
      "9007199254740992" = .ok false := by decide +kernel
  rw [answered] at greater
  exact absurd greater (by decide)

end Condition

end FileQuery

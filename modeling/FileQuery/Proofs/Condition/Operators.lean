import FileQuery.Proofs.Condition.Chains
import Mathlib

/-!
# The operators of a comparison

Texts, instants, and numbers that are numbers have a linear order each: by characters, by time, and
by value with the infinite numbers at the ends (`Value.exists_rank`). What a property is, and what it
is compared with, have places in that order, and an operator asks how the two places lie
(`answer_eq_accepts`). So the four ordering operators tell one order of the property and the
literals. The pattern operators have one pattern and one fault.
-/

namespace FileQuery

/-! ## The order of values -/

/-- The place of a number among all numbers: the infinite ones are at the ends, and a finite one is
    where its units are. -/
def Number.rank : Number → Int ×ₗ Int
  | notANumber => toLex (0, 0)
  | infinite negative => toLex (if negative then -1 else 1, 0)
  | finite negative significand exponent => toLex (0, units negative significand exponent)

/-- Numbers have the order of their places. -/
theorem Number.compare?_eq_rank {first second : Number} (defined : first ≠ notANumber)
    (defined' : second ≠ notANumber) :
    first.compare? second = some (compare first.rank second.rank) := by
  cases first with
  | notANumber => contradiction
  | infinite negative =>
    cases second with
    | notANumber => contradiction
    | infinite negative' => cases negative <;> cases negative' <;> rfl
    | finite => cases negative <;> rfl
  | finite negative significand exponent =>
    cases second with
    | notANumber => contradiction
    | infinite negative' => cases negative' <;> rfl
    | finite => rfl

namespace Value

/-- The order of texts is that of their characters. -/
theorem compares_texts (first second : List Char) :
    (compareTexts first second).Compares first second := by
  induction first generalizing second with
  | nil =>
    cases second with
    | nil => exact rfl
    | cons d second => exact List.nil_lt_cons d second
  | cons c first inductionHypothesis =>
    cases second with
    | nil => exact List.nil_lt_cons c first
    | cons d second =>
      rw [compareTexts]
      rcases lt_trichotomy c d with less | rfl | greater
      · rw [compare_lt_iff_lt.mpr (show c.toNat < d.toNat from less)]
        exact List.cons_lt_cons_iff.mpr (.inl less)
      · have later := inductionHypothesis second
        rw [compare_eq_iff_eq.mpr rfl, Ordering.eq_then]
        revert later
        cases compareTexts first second with
        | eq => exact congrArg (c :: ·)
        | lt | gt => exact fun later => List.cons_lt_cons_iff.mpr (.inr ⟨rfl, later⟩)
      · rw [compare_gt_iff_gt.mpr (show d.toNat < c.toNat from greater)]
        exact List.cons_lt_cons_iff.mpr (.inl greater)

/-- The values of a type, except for what is not a number, have a linear order. -/
theorem exists_rank (type : ValueType) :
    ∃ (α : Type) (_ : LinearOrder α) (rank : Value → α), ∀ first second,
      first.type = type → second.type = type → first ≠ .number .notANumber →
      second ≠ .number .notANumber →
      first.compare? second = some (compare (rank first) (rank second)) := by
  cases type with
  | text =>
    refine ⟨List Char, inferInstance, fun value => value.asText.toList, ?_⟩
    rintro (first | _ | _) (second | _ | _) ⟨⟩ ⟨⟩ - -
    exact congrArg some ((compare_iff _ _).mpr (compares_texts _ _)).symm
  | number =>
    refine ⟨Int ×ₗ Int, inferInstance, fun value =>
      match value with
      | number quantity => quantity.rank
      | text _ | timestamp _ => toLex (0, 0), ?_⟩
    rintro (_ | first | _) (_ | second | _) ⟨⟩ ⟨⟩ defined defined'
    exact Number.compare?_eq_rank (fun same => defined (congrArg number same))
      fun same => defined' (congrArg number same)
  | timestamp =>
    refine ⟨Int ×ₗ Nat, inferInstance, fun value =>
      match value with
      | timestamp instant => toLex (instant.seconds, instant.nanoseconds)
      | text _ | number _ => toLex (0, 0), ?_⟩
    rintro (_ | _ | first) (_ | _ | second) ⟨⟩ ⟨⟩ - -
    rfl

end Value

/-- No property is what is not a number. -/
theorem Attributes.value_ne_notANumber (attributes : Attributes) (property : Property) :
    attributes.value property ≠ .number .notANumber := by
  cases property <;> simp [value, Number.ofNat_ne_notANumber]

namespace Condition

/-! ## What an operator asks -/

section

variable {α : Type} [LinearOrder α] (first second : α)

theorem accepts_less : accepts .less (Ord.compare first second) = decide (first < second) := by
  rw [Bool.eq_iff_iff, decide_eq_true_iff, ← compare_lt_iff_lt]
  exact beq_iff_eq

theorem accepts_greater :
    accepts .greater (Ord.compare first second) = decide (second < first) := by
  rw [Bool.eq_iff_iff, decide_eq_true_iff, ← compare_gt_iff_gt]
  exact beq_iff_eq

theorem accepts_lessOrEqual :
    accepts .lessOrEqual (Ord.compare first second) = decide (first ≤ second) := by
  rw [Bool.eq_iff_iff, decide_eq_true_iff, ← compare_le_iff_le]
  exact bne_iff_ne

theorem accepts_greaterOrEqual :
    accepts .greaterOrEqual (Ord.compare first second) = decide (second ≤ first) := by
  rw [Bool.eq_iff_iff, decide_eq_true_iff, ← compare_ge_iff_ge]
  exact bne_iff_ne

end

variable {path : String} {attributes : Attributes} {property : Property} {operator : Operator}
  {value : String} {expected : Value} {order : Ordering}

/-- What a comparison of a property with a literal comes to. -/
def answer (path : String) (attributes : Attributes) (property : Property) (operator : Operator)
    (value : String) : Except ConditionError Bool :=
  (binary operator (literal property.text) (literal value)).evaluate path attributes

theorem answer_eq_compare (compares : operator.isLogical = false) :
    answer path attributes property operator value =
      compare operator property value attributes :=
  Chain.alone_text property value compares

/-- An operator that compares by order asks whether the order is one that it accepts. -/
theorem answer_eq_accepts (orders : operator.isOrdering = true)
    (read : coerce property value = .ok expected)
    (ordered : (attributes.value property).compare? expected = some order) :
    answer path attributes property operator value = .ok (accepts operator order) := by
  have compares : operator.isLogical = false := by
    revert orders
    cases operator <;> decide
  rw [answer_eq_compare compares, compare, if_pos orders, read]
  simp [bind, Except.bind, pure, Except.pure, ordered]

/-- An operator that tests a pattern asks whether the pattern is found in the text of a value. -/
theorem answer_eq_pattern (compares : operator.isLogical = false)
    (matches_ : operator.isOrdering = false) :
    answer path attributes property operator value =
      (pattern value).map fun regular =>
        let found := Pattern.matchesText regular (attributes.value property).asText
        if operator = .notEqual then !found else found := by
  rw [answer_eq_compare compares, compare, matches_]
  cases pattern value <;> rfl

/-- What is read as a value of a property has the type of the property. -/
theorem type_of_coerce (read : coerce property value = .ok expected) :
    expected.type = property.valueType := by
  unfold coerce at read
  split at read
  · rename_i found
    obtain rfl := Except.ok.inj read
    exact Value.type_ofLiteral? found
  · contradiction

/-! ## All operators together -/

/-- For a literal that has a value the ordering operators tell one order: `<` is what `>=` is not,
    `>` is what `<=` is not, and just one of less, greater and neither holds. They tell it alike for
    two literals of which one has a lesser value than the other. The pattern operators find the same
    fault in a literal, and if there is none, `!=` holds where `=` and LIKE do not. -/
theorem operators_coherent (path : String) (attributes : Attributes) (property : Property) :
    let answer := answer path attributes property
    (∀ value value' expected expected', coerce property value = .ok expected →
      coerce property value' = .ok expected' → expected ≠ .number .notANumber →
      expected' ≠ .number .notANumber →
      ∃ less greater lessOrEqual greaterOrEqual,
        answer .less value = .ok less ∧ answer .greater value = .ok greater ∧
        answer .lessOrEqual value = .ok lessOrEqual ∧
        answer .greaterOrEqual value = .ok greaterOrEqual ∧
        less = !greaterOrEqual ∧ greater = !lessOrEqual ∧
        [less, greater, lessOrEqual && greaterOrEqual].count true = 1 ∧
        (expected.compare? expected' = some .lt →
          (lessOrEqual = true → answer .less value' = .ok true) ∧
          (answer .greaterOrEqual value' = .ok true → greater = true))) ∧
    ∀ value, answer .like value = answer .equal value ∧
      answer .notEqual value = (answer .equal value).map (!·) := by
  dsimp only
  constructor
  · intro value value' expected expected' read read' defined defined'
    obtain ⟨α, _, rank, ordered⟩ := Value.exists_rank property.valueType
    have typed := attributes.type_value property
    have actual := attributes.value_ne_notANumber property
    have order := ordered _ _ typed (type_of_coerce read) actual defined
    have order' := ordered _ _ typed (type_of_coerce read') actual defined'
    rw [ordered _ _ (type_of_coerce read) (type_of_coerce read') defined defined']
    -- From here on an operator is a question about the places of three values.
    generalize rank (attributes.value property) = place at order order'
    refine ⟨_, _, _, _, answer_eq_accepts rfl read order, answer_eq_accepts rfl read order,
      answer_eq_accepts rfl read order, answer_eq_accepts rfl read order, ?_⟩
    rw [answer_eq_accepts rfl read' order', answer_eq_accepts rfl read' order']
    simp only [accepts_less, accepts_greater, accepts_lessOrEqual, accepts_greaterOrEqual,
      Except.ok.injEq, decide_eq_true_eq, Option.some.injEq, compare_lt_iff_lt, ← not_lt,
      decide_not, Bool.not_not, Bool.not_eq_true', decide_eq_false_iff_not, true_and]
    refine ⟨?_, fun before => ⟨fun most => (not_lt.mp most).trans_lt before,
      fun least => before.trans_le (not_lt.mp least)⟩⟩
    rcases lt_trichotomy place (rank expected) with less | same | greater
    · simp [less, less.not_gt]
    · simp [same]
    · simp [greater, greater.not_gt]
  · intro value
    rw [answer_eq_pattern rfl rfl, answer_eq_pattern rfl rfl, answer_eq_pattern rfl rfl]
    cases pattern value <;> exact ⟨rfl, rfl⟩

/-- A size that is at most 5 is below infinity. -/
theorem operators_coherent_infinite :
    let answer := answer "in/a" ⟨"a", "", 5, none, .epoch, .epoch, .epoch⟩ .size
    coerce .size " 5.0" = .ok (.number (.ofNat 5)) ∧
      coerce .size "inf" = .ok (.number (.infinite false)) ∧
      answer .lessOrEqual " 5.0" = .ok true ∧ answer .greater " 5.0" = .ok false ∧
      answer .less "inf" = .ok true := by
  have five : coerce .size " 5.0" = .ok (.number (.ofNat 5)) := by decide +kernel
  have infinite : coerce .size "inf" = .ok (.number (.infinite false)) := by decide +kernel
  have holds : answer "in/a" ⟨"a", "", 5, none, .epoch, .epoch, .epoch⟩ .size .lessOrEqual " 5.0" =
      .ok true := by decide +kernel
  obtain ⟨less, greater, lessOrEqual, greaterOrEqual, -, isGreater, atMost, -, -, opposite, -,
    later⟩ := (operators_coherent "in/a" ⟨"a", "", 5, none, .epoch, .epoch, .epoch⟩ .size).1
      _ _ _ _ five infinite (by decide +kernel) nofun
  obtain rfl : lessOrEqual = true := Except.ok.inj (atMost.symm.trans holds)
  exact ⟨five, infinite, holds, isGreater.trans (congrArg _ opposite),
    (later (by decide +kernel)).1 rfl⟩

end Condition

end FileQuery

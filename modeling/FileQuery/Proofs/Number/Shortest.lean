import FileQuery.Proofs.Number.Nearest
import FileQuery.Number.Text
import Mathlib

/-!
# Natural numbers as sizes are written

A number is written with the fewest digits that round to it, and of those with the nearest ones
(`text_ofNat`). So a natural number up to `2 ^ 53` is written as it is (`IsShortest.eq_of_le`).
Beyond that it is written as the number its rounding shares with the most zeros at the end.
-/

namespace FileQuery.Number

variable {n m k : Nat} {significand exponent places : Nat}

/-- The text of a natural number that ends in zeros. -/
theorem toString_mul_pow (pos : 0 < n) (places : Nat) :
    toString (n * 10 ^ places) = toString n ++ String.ofList (List.replicate places '0') := by
  induction places with
  | zero => simp
  | succ places inductionHypothesis =>
    have last : toString (10 * (n * 10 ^ places) + 0) = toString (n * 10 ^ places) ++ "0" := by
      have positive : 0 < n * 10 ^ places := Nat.mul_pos pos (Nat.pow_pos (by decide))
      have digits := Nat.toDigits_append_toDigits (by decide : 1 < 10) positive
        (by decide : 0 < 10)
      rw [Nat.toString_eq_repr, Nat.toString_eq_repr, Nat.repr, Nat.repr, ← digits]
      rw [String.ofList_append]
      rfl
    rw [show n * 10 ^ (places + 1) = 10 * (n * 10 ^ places) + 0 by ring, last,
      inductionHypothesis, List.replicate_succ', String.ofList_append, String.append_assoc]

/-! ## What rounds to a number -/

theorem nearest_eq_iff (low : 2 ^ (52 + exponent) ≤ n) (high : n < 2 ^ (53 + exponent)) :
    nearest n = k * 2 ^ exponent ↔ roundedQuotient n (2 ^ exponent) = k := by
  rw [nearest, excess_eq low high, Nat.mul_left_inj (Nat.two_pow_pos exponent).ne']

/-- How far below a number the values that round to it begin, in quarter units. -/
def reach (significand exponent : Nat) : Nat :=
  if significand = 2 ^ 52 then 2 ^ exponent else 2 * 2 ^ exponent

theorem holds_iff_bounds (some : 0 < significand) (pos : 0 < exponent) (value : Nat) :
    (interval significand exponent).holds (4 * value) 1 = true ↔
      4 * (significand * 2 ^ exponent) ≤ 4 * value + reach significand exponent ∧
        4 * value ≤ 4 * (significand * 2 ^ exponent) + 2 * 2 ^ exponent ∧
        (4 * (significand * 2 ^ exponent) = 4 * value + reach significand exponent ∨
          4 * value = 4 * (significand * 2 ^ exponent) + 2 * 2 ^ exponent →
            significand % 2 = 0) := by
  have low : (interval significand exponent).low =
      4 * (significand * 2 ^ exponent) - reach significand exponent := by
    simp only [interval, reach, Nat.pow_eq, pos, and_true, Nat.mul_assoc]
  have high : (interval significand exponent).high =
      4 * (significand * 2 ^ exponent) + 2 * 2 ^ exponent := by
    simp only [interval, Nat.pow_eq, Nat.mul_assoc]
  have closed : (interval significand exponent).closed = decide (significand % 2 = 0) := rfl
  have within : reach significand exponent ≤ 4 * (significand * 2 ^ exponent) := by
    have := Nat.le_mul_of_pos_left (2 ^ exponent) some
    rw [reach]
    split <;> omega
  rw [Interval.holds, low, high, closed]
  by_cases even : significand % 2 = 0
  · simp only [even, decide_true, if_true, Bool.and_eq_true, decide_eq_true_eq, implies_true,
      and_true]
    omega
  · simp only [even, decide_false, Bool.false_eq_true, if_false, Bool.and_eq_true,
      decide_eq_true_eq, imp_false]
    omega

/-- The interval of a number holds the values that round to it. -/
theorem holds_iff (low : 2 ^ 52 ≤ significand) (high : significand < 2 ^ 53)
    (pos : 0 < exponent) (value : Nat) :
    (interval significand exponent).holds (4 * value) 1 = true ↔
      nearest value = significand * 2 ^ exponent := by
  have unit := Nat.two_pow_pos exponent
  have least : 2 ^ 52 * 2 ^ exponent ≤ significand * 2 ^ exponent := Nat.mul_le_mul_right _ low
  have most : significand * 2 ^ exponent + 2 ^ exponent ≤ 2 ^ 53 * 2 ^ exponent := by
    rw [← Nat.succ_mul]
    exact Nat.mul_le_mul_right _ high
  rw [holds_iff_bounds (by omega) pos]
  rcases Nat.lt_or_ge value (2 ^ (53 + exponent)) with below | above
  case inr =>
    have beyond := pow_le_nearest above
    rw [Nat.pow_add] at above beyond
    omega
  rcases low.lt_or_eq with greater | rfl
  case inl =>
    rw [reach, if_neg greater.ne']
    rcases Nat.lt_or_ge value (2 ^ (52 + exponent)) with shorter | asLong
    · have within := nearest_le_pow shorter.le
      have next : 2 ^ 52 * 2 ^ exponent + 2 ^ exponent ≤ significand * 2 ^ exponent := by
        rw [← Nat.succ_mul]
        exact Nat.mul_le_mul_right _ greater
      rw [Nat.pow_add] at shorter within
      omega
    · rw [nearest_eq_iff asLong below, roundedQuotient_eq_iff unit]
      omega
  -- Below a power of two the places are half as large.
  obtain ⟨finer, rfl⟩ : ∃ finer, exponent = finer + 1 := ⟨exponent - 1, by omega⟩
  have half : 2 ^ (finer + 1) = 2 * 2 ^ finer := Nat.pow_succ'
  have split : 2 ^ 52 * 2 ^ (finer + 1) = 2 ^ 53 * 2 ^ finer := by rw [half]; ring
  rw [reach, if_pos rfl]
  rcases Nat.lt_or_ge value (2 ^ (52 + (finer + 1))) with shorter | asLong
  case inr =>
    rw [nearest_eq_iff asLong below, roundedQuotient_eq_iff unit]
    rw [Nat.pow_add] at asLong
    omega
  rcases Nat.lt_or_ge value (2 ^ (52 + finer)) with far | near
  · have under := nearest_le_pow far.le
    rw [Nat.pow_add] at far under
    omega
  · rw [Nat.pow_add, split, ← Nat.pow_add] at shorter
    rw [split, nearest_eq_iff near shorter, roundedQuotient_eq_iff (Nat.two_pow_pos finer)]
    rw [Nat.pow_add] at shorter
    omega

/-- A multiple of a number is rounded up from above and down from below, so what lies between it
and its rounding rounds to the same. -/
theorem nearest_eq_of_between {outer : Nat} (same : nearest outer = nearest n)
    (between : outer ≤ m ∧ m ≤ nearest n ∨ nearest n ≤ m ∧ m ≤ outer) :
    nearest m = nearest n := by
  rcases between with ⟨above, below⟩ | ⟨above, below⟩
  · have first := nearest_mono above
    have second := nearest_mono below
    rw [nearest_nearest] at second
    omega
  · have first := nearest_mono above
    have second := nearest_mono below
    rw [nearest_nearest] at first
    omega

/-! ## Grids -/

/-- The multiples of a power of ten at which a number is looked for. -/
theorem onGrid?_eq (low : 2 ^ 52 ≤ significand) (high : significand < 2 ^ 53)
    (pos : 0 < exponent) (value : significand * 2 ^ exponent = nearest n * unitsOfOne)
    (places : Nat) :
    onGrid? significand exponent (400 + places) =
      let below := nearest n / 10 ^ places
      if nearest (below * 10 ^ places) = nearest n ∧
          ((2 * nearest n < (2 * below + 1) * 10 ^ places ∨
            2 * nearest n = (2 * below + 1) * 10 ^ places ∧ below % 2 = 0) ∨
          nearest ((below + 1) * 10 ^ places) ≠ nearest n) then some below
      else if nearest ((below + 1) * 10 ^ places) = nearest n then some (below + 1)
      else none := by
  have holds (multiple : Nat) :
      (interval significand exponent).holds (multiple * (4 * unitsOfOne * 10 ^ places)) 1 = true ↔
        nearest (multiple * 10 ^ places) = nearest n := by
    rw [show multiple * (4 * unitsOfOne * 10 ^ places) =
      4 * (multiple * 10 ^ places * unitsOfOne) by ring, holds_iff low high pos, value,
      nearest_mul_units, Nat.mul_left_inj unitsOfOne_pos.ne']
  have misses (multiple : Nat) :
      (interval significand exponent).holds (multiple * (4 * unitsOfOne * 10 ^ places)) 1 = false ↔
        nearest (multiple * 10 ^ places) ≠ nearest n := by
    rw [← Bool.not_eq_true, holds]
  have unit : 0 < 4 * unitsOfOne := Nat.mul_pos (by decide) unitsOfOne_pos
  have quarters : 4 * significand * 2 ^ exponent = 4 * unitsOfOne * nearest n := by
    rw [Nat.mul_assoc, value]
    ring
  have quotient (grid : Nat) :
      4 * unitsOfOne * nearest n * 1 / (4 * unitsOfOne * grid) = nearest n / grid := by
    rw [Nat.mul_one, Nat.mul_div_mul_left _ _ unit]
  have less (twice odd grid : Nat) :
      2 * (4 * unitsOfOne * twice * 1) < odd * (4 * unitsOfOne * grid) ↔ 2 * twice < odd * grid := by
    rw [show 2 * (4 * unitsOfOne * twice * 1) = 4 * unitsOfOne * (2 * twice) by ring,
      show odd * (4 * unitsOfOne * grid) = 4 * unitsOfOne * (odd * grid) by ring,
      Nat.mul_lt_mul_left unit]
  have same (twice odd grid : Nat) :
      2 * (4 * unitsOfOne * twice * 1) = odd * (4 * unitsOfOne * grid) ↔ 2 * twice = odd * grid := by
    rw [show 2 * (4 * unitsOfOne * twice * 1) = 4 * unitsOfOne * (2 * twice) by ring,
      show odd * (4 * unitsOfOne * grid) = 4 * unitsOfOne * (odd * grid) by ring,
      Nat.mul_right_inj unit.ne']
  simp only [onGrid?, Nat.pow_eq, Nat.add_sub_cancel_left, Nat.sub_eq_zero_of_le (Nat.le_add_right ..),
    Nat.pow_zero, quarters, quotient, less, same, Bool.and_eq_true, Bool.or_eq_true,
    decide_eq_true_eq, holds, Bool.not_eq_true', misses]

/-- Of the multiples up to a number the greatest is nearest. -/
theorem dist_below_le (pos : 0 < m) (le : k ≤ n / m) :
    Nat.dist (n / m * m) n ≤ Nat.dist (k * m) n ∧
      (Nat.dist (n / m * m) n = Nat.dist (k * m) n → k = n / m) := by
  have whole := Nat.div_add_mod' n m
  have most := Nat.mul_le_mul_right m le
  refine ⟨by unfold Nat.dist; omega, fun same => Nat.eq_of_mul_eq_mul_right pos ?_⟩
  unfold Nat.dist at same
  omega

/-- Of the multiples beyond a number the least is nearest. -/
theorem dist_above_le (pos : 0 < m) (lt : n / m < k) :
    Nat.dist ((n / m + 1) * m) n ≤ Nat.dist (k * m) n ∧
      (Nat.dist ((n / m + 1) * m) n = Nat.dist (k * m) n → k = n / m + 1) := by
  have whole := Nat.div_add_mod' n m
  have rest := Nat.mod_lt n pos
  have next : (n / m + 1) * m = n / m * m + m := Nat.succ_mul ..
  have least : (n / m + 1) * m ≤ k * m := Nat.mul_le_mul_right m lt
  refine ⟨by unfold Nat.dist; omega, fun same => Nat.eq_of_mul_eq_mul_right pos ?_⟩
  unfold Nat.dist at same
  omega

/-- The multiple below a number is nearer than the one above if the number is below their middle. -/
theorem dist_below_lt_iff (pos : 0 < m) :
    (Nat.dist (n / m * m) n < Nat.dist ((n / m + 1) * m) n ↔ 2 * n < (2 * (n / m) + 1) * m) ∧
      (Nat.dist (n / m * m) n = Nat.dist ((n / m + 1) * m) n ↔ 2 * n = (2 * (n / m) + 1) * m) := by
  have whole := Nat.div_add_mod' n m
  have rest := Nat.mod_lt n pos
  have next : (n / m + 1) * m = n / m * m + m := Nat.succ_mul ..
  have middle : (2 * (n / m) + 1) * m = 2 * (n / m * m) + m := by ring
  unfold Nat.dist
  omega

/-- A number found on a grid rounds to the same, no other on the grid that does is nearer, and of
two that are as near the even one is found. -/
theorem onGrid?_eq_some (low : 2 ^ 52 ≤ significand) (high : significand < 2 ^ 53)
    (pos : 0 < exponent) (value : significand * 2 ^ exponent = nearest n * unitsOfOne)
    (found : onGrid? significand exponent (400 + places) = some k) :
    nearest (k * 10 ^ places) = nearest n ∧ ∀ other, nearest (other * 10 ^ places) = nearest n →
      Nat.dist (k * 10 ^ places) (nearest n) ≤ Nat.dist (other * 10 ^ places) (nearest n) ∧
      (Nat.dist (k * 10 ^ places) (nearest n) = Nat.dist (other * 10 ^ places) (nearest n) →
        other = k ∨ k % 2 = 0) := by
  rw [onGrid?_eq low high pos value] at found
  have grid : 0 < 10 ^ places := Nat.pow_pos (by decide)
  have reached (other : Nat) (same : nearest (other * 10 ^ places) = nearest n)
      (above : nearest n / 10 ^ places < other) :
      nearest ((nearest n / 10 ^ places + 1) * 10 ^ places) = nearest n := by
    refine nearest_eq_of_between same (.inr ⟨?_, Nat.mul_le_mul_right _ above⟩)
    exact (Nat.lt_mul_of_div_lt (Nat.lt_succ_self _) grid).le
  have reachedBelow (other : Nat) (same : nearest (other * 10 ^ places) = nearest n)
      (below : other ≤ nearest n / 10 ^ places) :
      nearest (nearest n / 10 ^ places * 10 ^ places) = nearest n :=
    nearest_eq_of_between same (.inl ⟨Nat.mul_le_mul_right _ below, Nat.div_mul_le_self ..⟩)
  obtain ⟨nearer, asNear⟩ := dist_below_lt_iff (n := nearest n) grid
  simp only [← nearer, ← asNear] at found
  split at found
  case isTrue chosen =>
    obtain rfl := Option.some.inj found
    refine ⟨chosen.1, fun other same => ?_⟩
    rcases Nat.lt_or_ge (nearest n / 10 ^ places) other with above | below
    · have least := dist_above_le grid above
      have := reached other same above
      grind
    · have most := dist_below_le grid below
      exact ⟨most.1, fun same => .inl (most.2 same)⟩
  case isFalse refused =>
    split at found
    case isFalse missing => contradiction
    case isTrue chosen =>
      obtain rfl := Option.some.inj found
      refine ⟨chosen, fun other same => ?_⟩
      rcases Nat.lt_or_ge (nearest n / 10 ^ places) other with above | below
      · have least := dist_above_le grid above
        exact ⟨least.1, fun same => .inl (least.2 same)⟩
      · have most := dist_below_le grid below
        have := reachedBelow other same below
        grind

/-- Where no number is found on a grid, none on it rounds to the same. -/
theorem nearest_ne_of_onGrid? (low : 2 ^ 52 ≤ significand) (high : significand < 2 ^ 53)
    (pos : 0 < exponent) (value : significand * 2 ^ exponent = nearest n * unitsOfOne)
    (missing : onGrid? significand exponent (400 + places) = none) :
    nearest (k * 10 ^ places) ≠ nearest n := by
  rw [onGrid?_eq low high pos value] at missing
  intro same
  have floor := Nat.div_add_mod' (nearest n) (10 ^ places)
  have rest := Nat.mod_lt (nearest n) (Nat.pow_pos (by decide) : 0 < 10 ^ places)
  have next := Nat.succ_mul (nearest n / 10 ^ places) (10 ^ places)
  rcases Nat.lt_or_ge (nearest n / 10 ^ places) k with above | below
  · have reached := nearest_eq_of_between same
      (.inr ⟨by omega, Nat.mul_le_mul_right (10 ^ places) above⟩)
    grind
  · have reached := nearest_eq_of_between same
      (.inl ⟨Nat.mul_le_mul_right (10 ^ places) below, by omega⟩)
    grind

/-- The search ends at the coarsest grid that has a number, since the finest has one. -/
theorem shortest_eq (low : 2 ^ 52 ≤ significand) (high : significand < 2 ^ 53)
    (pos : 0 < exponent) (value : significand * 2 ^ exponent = nearest n * unitsOfOne)
    (top : Nat) : ∃ digits places, shortest significand exponent (400 + top + 1) =
        (digits, 400 + places) ∧
      onGrid? significand exponent (400 + places) = some digits ∧
      ∀ coarser, places < coarser → coarser ≤ top →
        onGrid? significand exponent (400 + coarser) = none := by
  induction top with
  | zero =>
    have found : onGrid? significand exponent (400 + 0) = some (nearest n) := by
      rw [onGrid?_eq low high pos value]
      simp [nearest_nearest]
    exact ⟨nearest n, 0, by rw [shortest, found], found, by omega⟩
  | succ top inductionHypothesis =>
    cases found : onGrid? significand exponent (400 + (top + 1)) with
    | some digits => exact ⟨digits, top + 1, by rw [shortest, found], found, by omega⟩
    | none =>
      obtain ⟨digits, places, ends, reached, missing⟩ := inductionHypothesis
      refine ⟨digits, places, by rw [shortest, found, ← ends]; rfl, reached, ?_⟩
      intro coarser above le
      rcases le.lt_or_eq with less | rfl
      · exact missing coarser above (Nat.lt_succ_iff.mp less)
      · exact found

/-! ## The written form -/

/-- A number is written as the one that shares its rounding, has the most zeros at the end, and of
those is nearest to the rounding, the even one if there are two. -/
structure IsShortest (value shown : Nat) : Prop where
  same : nearest shown = nearest value
  fewest {other places : Nat} (same : nearest other = nearest value)
    (zeros : 10 ^ places ∣ other) : 10 ^ places ∣ shown
  closest {other places : Nat} (same : nearest other = nearest value)
    (zeros : 10 ^ places ∣ other) (noMore : ¬ 10 ^ (places + 1) ∣ shown) :
    Nat.dist shown (nearest value) ≤ Nat.dist other (nearest value) ∧
      (Nat.dist shown (nearest value) = Nat.dist other (nearest value) →
        other = shown ∨ 2 * 10 ^ places ∣ shown)

theorem eq_zero_of_nearest (zero : nearest n = 0) : n = 0 := by
  by_contra some
  have := pow_le_nearest (k := 0) (Nat.pos_of_ne_zero some)
  omega

theorem isShortest_zero : IsShortest 0 0 where
  same := rfl
  fewest _ _ := Nat.dvd_zero _
  closest _ _ noMore := absurd (Nat.dvd_zero _) noMore

/-- No number of so many zeros is that small. -/
theorem nearest_ne_of_dvd (pos : 0 < n) (small : n < 2 ^ 64) {other : Nat}
    (zeros : 10 ^ 20 ∣ other) : nearest other ≠ nearest n := by
  have bound := nearest_le_pow small.le
  intro same
  have some : 0 < other := by
    rcases Nat.eq_zero_or_pos other with rfl | some
    · exact absurd (eq_zero_of_nearest (n := n) (same ▸ rfl)) pos.ne'
    · exact some
  have large := pow_le_nearest ((by decide : 2 ^ 65 ≤ 10 ^ 20).trans (Nat.le_of_dvd some zeros))
  omega

/-- The text of a natural number is the numeral of the one it is written as. -/
theorem text_ofNat (small : n < 2 ^ 64) :
    ∃ shown, IsShortest n shown ∧ text (ofNat n) = toString shown := by
  rcases Nat.eq_zero_or_pos n with rfl | pos
  · exact ⟨0, isShortest_zero, by rw [ofNat_zero]; rfl⟩
  obtain ⟨significand, exponent, kept, value, low, high, positive⟩ := exists_parts pos small
  obtain ⟨digits, places, ends, found, missing⟩ := shortest_eq low high positive value 310
  obtain ⟨same, closest⟩ := onGrid?_eq_some low high positive value found
  -- Nothing that rounds to the same ends in more zeros.
  have coarser {other more : Nat} (same : nearest other = nearest n) (zeros : 10 ^ more ∣ other) :
      more ≤ places := by
    by_contra above
    rcases Nat.lt_or_ge 19 more with beyond | within
    · exact nearest_ne_of_dvd pos small ((Nat.pow_dvd_pow 10 beyond).trans zeros) same
    · obtain ⟨multiple, rfl⟩ := zeros
      rw [Nat.mul_comm] at same
      exact nearest_ne_of_onGrid? low high positive value
        (missing more (Nat.not_le.mp above) (within.trans (by decide))) same
  refine ⟨digits * 10 ^ places, ⟨same, ?_, ?_⟩, ?_⟩
  · intro other more same zeros
    exact (Nat.pow_dvd_pow 10 (coarser same zeros)).mul_left digits
  · intro other more same' zeros noMore
    obtain rfl : more = places := by
      refine Nat.le_antisymm (coarser same' zeros) (Nat.lt_succ_iff.mp ?_)
      by_contra fewer
      exact noMore ((Nat.pow_dvd_pow 10 (Nat.not_lt.mp fewer)).mul_left digits)
    obtain ⟨multiple, rfl⟩ := zeros
    rw [Nat.mul_comm (10 ^ more)] at same' ⊢
    obtain ⟨nearer, tie⟩ := closest multiple same'
    refine ⟨nearer, fun asNear => (tie asNear).imp (congrArg (· * 10 ^ more)) fun even => ?_⟩
    exact Nat.mul_dvd_mul (Nat.dvd_of_mod_eq_zero even) (Nat.dvd_refl _)
  · have some : 0 < digits := by
      refine Nat.pos_of_ne_zero fun zero => pos.ne' (eq_zero_of_nearest ?_)
      rw [← same, zero, Nat.zero_mul]
      rfl
    have used : significand ≠ 0 := (Nat.two_pow_pos 52).trans_le low |>.ne'
    rw [kept, text, if_neg used, toString_mul_pow some, topPosition, ends]
    simp

theorem IsShortest.le {shown shown' : Nat} (first : IsShortest n shown)
    (second : IsShortest n shown') : shown' ≤ shown := by
  by_contra reversed
  have some : shown' ≠ 0 := by omega
  obtain ⟨places, digits, ends, is⟩ :=
    Nat.exists_eq_pow_mul_and_not_dvd some 10 (by decide)
  have zeros' : 10 ^ places ∣ shown' := ⟨digits, is⟩
  have noMore' : ¬ 10 ^ (places + 1) ∣ shown' := by
    rw [is, Nat.pow_succ]
    exact fun more => ends (Nat.dvd_of_mul_dvd_mul_left (Nat.pow_pos (by decide)) more)
  have zeros : 10 ^ places ∣ shown := first.fewest second.same zeros'
  have noMore : ¬ 10 ^ (places + 1) ∣ shown := fun more => noMore' (second.fewest first.same more)
  obtain ⟨near, tie⟩ := first.closest second.same zeros' noMore
  obtain ⟨near', tie'⟩ := second.closest first.same zeros noMore'
  have even := (tie (near.antisymm near')).resolve_left (by omega)
  have even' := (tie' (near'.antisymm near)).resolve_left (by omega)
  -- Between two even ones there is another, and it is nearer than both.
  have step : 2 * 10 ^ places ≤ shown' - shown :=
    Nat.le_of_dvd (by omega) (Nat.dvd_sub even' even)
  have unit : 0 < 10 ^ places := Nat.pow_pos (by decide)
  have middle : nearest (shown + 10 ^ places) = nearest n := by
    rcases Nat.le_total (shown + 10 ^ places) (nearest n) with below | above
    · exact nearest_eq_of_between first.same (.inl ⟨Nat.le_add_right .., below⟩)
    · exact nearest_eq_of_between second.same (.inr ⟨above, by omega⟩)
  have nearer := (first.closest middle (Nat.dvd_add zeros (Nat.dvd_refl _)) noMore).1
  unfold Nat.dist at near near' nearer
  omega

/-- What is written is determined by the number. -/
theorem IsShortest.unique {shown shown' : Nat} (first : IsShortest n shown)
    (second : IsShortest n shown') : shown = shown' :=
  (second.le first).antisymm (first.le second)

/-- Natural numbers up to `2 ^ 53` are written as they are. -/
theorem IsShortest.eq_of_le {shown : Nat} (shortest : IsShortest n shown) (le : n ≤ 2 ^ 53) :
    shown = n := by
  have same := shortest.same
  rw [nearest_of_le le] at same
  rcases Nat.lt_or_ge shown (2 ^ 53) with small | large
  · rwa [nearest_of_lt small] at same
  · have power : n = 2 ^ 53 := le.antisymm (same ▸ pow_le_nearest large)
    subst power
    rcases large.eq_or_lt with is | greater
    · exact is.symm
    have next : shown < 2 ^ 53 + 2 := by
      by_contra beyond
      have kept : nearest (2 ^ 53 + 2) = 2 ^ 53 + 2 :=
        nearest_of_isKept ⟨2 ^ 52 + 1, 1, by decide, by decide⟩
      have := nearest_mono (Nat.not_lt.mp beyond)
      omega
    have whole : 10 ^ 0 ∣ nearest (2 ^ 53) := Nat.one_dvd _
    have nearer := (shortest.closest (nearest_nearest _) whole (by omega)).1
    rw [nearest_of_le le] at nearer
    unfold Nat.dist at nearer
    omega

end FileQuery.Number

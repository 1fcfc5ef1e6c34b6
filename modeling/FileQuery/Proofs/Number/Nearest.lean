import FileQuery.Number
import Mathlib

/-!
# Natural numbers as sizes are kept

A number is kept with 53 significant bits. A natural number that needs more is rounded to the
nearest one that does not (`dist_nearest_le`), and on a tie to the one whose last bit is zero.
Rounding never reverses an order (`nearest_mono`), leaves every number up to `2 ^ 53` as it is
(`nearest_of_le`), and does not depend on the unit (`nearest_mul_pow`). So numbers below `2 ^ 64`
are compared as their roundings are (`compare?_ofNat`).
-/

namespace FileQuery.Number

variable {n m d c k : Nat}

/-! ## Rounded quotients -/

/-- A rounded quotient is the one that is off by a half at most, and if by a half it is even. -/
theorem roundedQuotient_eq_iff (pos : 0 < d) : roundedQuotient n d = k ↔
    2 * (k * d) ≤ 2 * n + d ∧ 2 * n ≤ 2 * (k * d) + d ∧
      (2 * (k * d) = 2 * n + d ∨ 2 * n = 2 * (k * d) + d → k % 2 = 0) := by
  have whole := Nat.div_add_mod' n d
  have rest := Nat.mod_lt n pos
  rw [roundedQuotient]
  -- Only the quotient and the one after it are near enough.
  rcases Nat.lt_or_ge k (n / d) with below | above
  · have far : k * d + d ≤ n / d * d := by simpa [Nat.succ_mul] using Nat.mul_le_mul_right d below
    grind
  rcases Nat.lt_or_ge (n / d + 1) k with beyond | near
  · have far : n / d * d + 2 * d ≤ k * d := by
      have := Nat.mul_le_mul_right d beyond
      grind
    grind
  obtain rfl | rfl : k = n / d ∨ k = n / d + 1 := by omega
  · grind
  · grind

theorem roundedQuotient_exact (pos : 0 < d) (k : Nat) : roundedQuotient (k * d) d = k :=
  (roundedQuotient_eq_iff pos).mpr (by omega)

/-- Rounding does not depend on the unit that both numbers are counted in. -/
theorem roundedQuotient_mul (pos : 0 < d) (pos' : 0 < c) :
    roundedQuotient (n * c) (d * c) = roundedQuotient n d := by
  obtain ⟨low, high, tie⟩ := (roundedQuotient_eq_iff pos).mp (rfl : roundedQuotient n d = _)
  rw [roundedQuotient_eq_iff (Nat.mul_pos pos pos')]
  generalize roundedQuotient n d = q at *
  have scaled : q * (d * c) = q * d * c := (Nat.mul_assoc ..).symm
  have left : 2 * (q * d) * c ≤ (2 * n + d) * c := Nat.mul_le_mul_right c low
  have right : 2 * n * c ≤ (2 * (q * d) + d) * c := Nat.mul_le_mul_right c high
  refine ⟨by grind, by grind, fun ties => tie ?_⟩
  refine ties.imp (fun same => ?_) fun same => ?_
  · exact Nat.eq_of_mul_eq_mul_right pos' (by grind)
  · exact Nat.eq_of_mul_eq_mul_right pos' (by grind)

theorem roundedQuotient_mono (pos : 0 < d) (le : n ≤ m) :
    roundedQuotient n d ≤ roundedQuotient m d := by
  obtain ⟨low, -, tie⟩ := (roundedQuotient_eq_iff pos).mp (rfl : roundedQuotient n d = _)
  obtain ⟨-, high, tie'⟩ := (roundedQuotient_eq_iff pos).mp (rfl : roundedQuotient m d = _)
  generalize roundedQuotient n d = q at *
  generalize roundedQuotient m d = q' at *
  by_contra reversed
  have far : q' * d + d ≤ q * d := by
    simpa [Nat.succ_mul] using Nat.mul_le_mul_right d (Nat.not_le.mp reversed)
  -- Both lie at the same half, so both are even and next to each other.
  have adjacent : q * d = (q' + 1) * d := by grind
  have next : q = q' + 1 := Nat.eq_of_mul_eq_mul_right pos adjacent
  grind

/-! ## The nearest number of 53 bits -/

/-- The natural numbers that 53 bits and a power of two make. -/
def IsKept (n : Nat) : Prop :=
  ∃ significand exponent, significand ≤ 2 ^ 53 ∧ n = significand * 2 ^ exponent

/-- The number of binary places of a natural number beyond 53. -/
def excess (n : Nat) : Nat := n.log2 - 52

/-- The natural number of 53 bits that is nearest to another. -/
def nearest (n : Nat) : Nat := roundedQuotient n (2 ^ excess n) * 2 ^ excess n

theorem excess_of_lt (small : n < 2 ^ 53) : excess n = 0 := by
  rcases Nat.eq_zero_or_pos n with rfl | pos
  · rfl
  · have := (Nat.log2_lt pos.ne').mpr small
    rw [excess]
    omega

theorem excess_eq (low : 2 ^ (52 + k) ≤ n) (high : n < 2 ^ (53 + k)) : excess n = k := by
  have pos : n ≠ 0 := by
    have := Nat.two_pow_pos (52 + k)
    omega
  have log : n.log2 = 52 + k :=
    (Nat.log2_eq_iff pos).mpr ⟨low, by rwa [show 52 + k + 1 = 53 + k by omega]⟩
  rw [excess, log]
  omega

/-- The first of the 53 places of a number that has as many. -/
theorem excess_bounds (large : 2 ^ 52 ≤ n) :
    2 ^ (52 + excess n) ≤ n ∧ n < 2 ^ (53 + excess n) := by
  have pos : n ≠ 0 := by
    have := Nat.two_pow_pos 52
    omega
  have log : 52 ≤ n.log2 := (Nat.le_log2 pos).mpr large
  obtain ⟨low, high⟩ := (Nat.log2_eq_iff pos).mp (rfl : n.log2 = _)
  rw [excess]
  exact ⟨by rwa [show 52 + (n.log2 - 52) = n.log2 by omega],
    by rwa [show 53 + (n.log2 - 52) = n.log2 + 1 by omega]⟩

theorem lt_pow_excess (n : Nat) : n < 2 ^ (53 + excess n) := by
  rcases Nat.lt_or_ge n (2 ^ 52) with small | large
  · exact small.trans (Nat.pow_lt_pow_right (by decide) (by omega))
  · exact (excess_bounds large).2

theorem nearest_of_lt (small : n < 2 ^ 53) : nearest n = n := by
  rw [nearest, excess_of_lt small]
  simpa using roundedQuotient_exact Nat.one_pos n

/-- The rounded quotient has 53 places, or one more if it is a power of two. -/
theorem quotient_le (n : Nat) : roundedQuotient n (2 ^ excess n) ≤ 2 ^ 53 := by
  have bound := roundedQuotient_mono (Nat.two_pow_pos (excess n)) (lt_pow_excess n).le
  rwa [Nat.pow_add, roundedQuotient_exact (Nat.two_pow_pos _)] at bound

theorem le_quotient (large : 2 ^ 52 ≤ n) : 2 ^ 52 ≤ roundedQuotient n (2 ^ excess n) := by
  have bound := roundedQuotient_mono (Nat.two_pow_pos (excess n)) (excess_bounds large).1
  rwa [Nat.pow_add, roundedQuotient_exact (Nat.two_pow_pos _)] at bound

/-- Rounding does not depend on the power of two that numbers are counted in. -/
theorem nearest_mul_pow (n k : Nat) : nearest (n * 2 ^ k) = nearest n * 2 ^ k := by
  rcases Nat.lt_or_ge n (2 ^ 53) with small | large
  · -- What has no more than 53 places is a multiple of the last one that is kept.
    have fits : excess (n * 2 ^ k) ≤ k := by
      rcases Nat.lt_or_ge (n * 2 ^ k) (2 ^ 52) with few | many
      · rw [excess_of_lt (few.trans (by decide))]
        exact Nat.zero_le k
      · have bound : n * 2 ^ k < 2 ^ (53 + k) := by
          rw [Nat.pow_add]
          exact Nat.mul_lt_mul_of_pos_right small (Nat.two_pow_pos k)
        have := (Nat.pow_lt_pow_iff_right (by decide)).mp ((excess_bounds many).1.trans_lt bound)
        omega
    rw [nearest_of_lt small, nearest]
    generalize excess (n * 2 ^ k) = e at *
    have split : n * 2 ^ k = n * 2 ^ (k - e) * 2 ^ e := by
      rw [Nat.mul_assoc, ← Nat.pow_add, Nat.sub_add_cancel fits]
    rw [split, roundedQuotient_exact (Nat.two_pow_pos e)]
  · obtain ⟨low, high⟩ := excess_bounds (Nat.le_trans (by decide) large)
    have shifted : excess (n * 2 ^ k) = excess n + k := by
      apply excess_eq
      · rw [← Nat.add_assoc, Nat.pow_add]
        exact Nat.mul_le_mul_right _ low
      · rw [← Nat.add_assoc, Nat.pow_add _ _ k]
        exact Nat.mul_lt_mul_of_pos_right high (Nat.two_pow_pos k)
    rw [nearest, nearest, shifted, Nat.pow_add,
      roundedQuotient_mul (Nat.two_pow_pos _) (Nat.two_pow_pos k), Nat.mul_assoc]

/-- What 53 bits make is not rounded. -/
theorem nearest_of_isKept (kept : IsKept n) : nearest n = n := by
  obtain ⟨significand, exponent, bound, rfl⟩ := kept
  rw [nearest_mul_pow]
  rcases bound.lt_or_eq with small | rfl
  · rw [nearest_of_lt small]
  · have one : nearest (1 * 2 ^ 53) = 1 * 2 ^ 53 := by
      rw [nearest_mul_pow, nearest_of_lt (by decide)]
    rw [← Nat.one_mul (2 ^ 53), one]

theorem nearest_of_le (le : n ≤ 2 ^ 53) : nearest n = n :=
  nearest_of_isKept ⟨n, 0, le, (Nat.mul_one n).symm⟩

theorem nearest_pow (k : Nat) : nearest (2 ^ k) = 2 ^ k :=
  nearest_of_isKept ⟨1, k, by decide, (Nat.one_mul _).symm⟩

theorem isKept_nearest (n : Nat) : IsKept (nearest n) := ⟨_, _, quotient_le n, rfl⟩

theorem nearest_nearest (n : Nat) : nearest (nearest n) = nearest n :=
  nearest_of_isKept (isKept_nearest n)

theorem pow_le_nearest (le : 2 ^ k ≤ n) : 2 ^ k ≤ nearest n := by
  rcases Nat.lt_or_ge n (2 ^ 53) with small | large
  · rwa [nearest_of_lt small]
  · have low : 2 ^ (52 + excess n) ≤ nearest n := by
      rw [nearest, Nat.pow_add]
      exact Nat.mul_le_mul_right _ (le_quotient (Nat.le_trans (by decide) large))
    have first := (Nat.pow_lt_pow_iff_right (by decide)).mp (le.trans_lt (lt_pow_excess n))
    exact (Nat.pow_le_pow_right (by decide) (by omega)).trans low

theorem nearest_le_pow (le : n ≤ 2 ^ k) : nearest n ≤ 2 ^ k := by
  rcases le.lt_or_eq with less | rfl
  · rcases Nat.lt_or_ge n (2 ^ 52) with small | large
    · rwa [nearest_of_lt (small.trans (by decide))]
    · have high : nearest n ≤ 2 ^ (53 + excess n) := by
        rw [nearest, Nat.pow_add]
        exact Nat.mul_le_mul_right _ (quotient_le n)
      have first := (Nat.pow_lt_pow_iff_right (by decide)).mp
        ((excess_bounds large).1.trans_lt less)
      exact high.trans (Nat.pow_le_pow_right (by decide) (by omega))
  · rw [nearest_pow]

/-- Rounding never reverses an order. -/
theorem nearest_mono (le : n ≤ m) : nearest n ≤ nearest m := by
  rcases Nat.lt_or_ge m (2 ^ 53) with small | large
  · rwa [nearest_of_lt small, nearest_of_lt (le.trans_lt small)]
  rcases Nat.lt_or_ge n (2 ^ (52 + excess m)) with shorter | asLong
  · -- A power of two lies between the two.
    obtain ⟨low, -⟩ := excess_bounds (Nat.le_trans (by decide) large)
    exact (nearest_le_pow shorter.le).trans (pow_le_nearest low)
  · have same : excess n = excess m := excess_eq asLong (le.trans_lt (lt_pow_excess m))
    rw [nearest, nearest, same]
    exact Nat.mul_le_mul_right _ (roundedQuotient_mono (Nat.two_pow_pos _) le)

/-- A multiple of the last place that is kept is not nearer than the rounding. -/
theorem dist_nearest_le_mul (n k : Nat) :
    Nat.dist n (nearest n) ≤ Nat.dist n (k * 2 ^ excess n) := by
  obtain ⟨low, high, -⟩ := (roundedQuotient_eq_iff (Nat.two_pow_pos (excess n))).mp rfl
  rw [nearest]
  generalize roundedQuotient n (2 ^ excess n) = q at *
  generalize 2 ^ excess n = d at *
  rcases lt_trichotomy k q with below | rfl | above
  · have far : k * d + d ≤ q * d := by simpa [Nat.succ_mul] using Nat.mul_le_mul_right d below
    unfold Nat.dist
    omega
  · exact Nat.le_refl _
  · have far : q * d + d ≤ k * d := by simpa [Nat.succ_mul] using Nat.mul_le_mul_right d above
    unfold Nat.dist
    omega

/-- No number of 53 bits is nearer than the rounding. -/
theorem dist_nearest_le {other : Nat} (kept : IsKept other) :
    Nat.dist n (nearest n) ≤ Nat.dist n other := by
  obtain ⟨significand, exponent, bound, rfl⟩ := kept
  rcases Nat.lt_or_ge exponent (excess n) with finer | coarser
  · -- Numbers with finer places end at the power of two below.
    have large : 2 ^ 52 ≤ n := by
      by_contra small
      rw [excess_of_lt ((Nat.not_le.mp small).trans (by decide))] at finer
      contradiction
    have below : significand * 2 ^ exponent ≤ 2 ^ 52 * 2 ^ excess n := by
      calc significand * 2 ^ exponent ≤ 2 ^ 53 * 2 ^ exponent := Nat.mul_le_mul_right _ bound
        _ = 2 ^ 52 * 2 ^ (exponent + 1) := by rw [Nat.pow_succ']; ring
        _ ≤ 2 ^ 52 * 2 ^ excess n := Nat.mul_le_mul_left _ (Nat.pow_le_pow_right (by decide) finer)
    have reached : 2 ^ 52 * 2 ^ excess n ≤ n := by
      rw [← Nat.pow_add]
      exact (excess_bounds large).1
    refine (dist_nearest_le_mul n (2 ^ 52)).trans ?_
    unfold Nat.dist
    omega
  · have split : significand * 2 ^ exponent =
        significand * 2 ^ (exponent - excess n) * 2 ^ excess n := by
      rw [Nat.mul_assoc, ← Nat.pow_add, Nat.sub_add_cancel coarser]
    rw [split]
    exact dist_nearest_le_mul n _

/-- On a tie the last bit of the rounding is zero. -/
theorem dvd_nearest_of_tie (tie : 2 * Nat.dist n (nearest n) = 2 ^ excess n) :
    2 ^ (excess n + 1) ∣ nearest n := by
  obtain ⟨low, high, even⟩ := (roundedQuotient_eq_iff (Nat.two_pow_pos (excess n))).mp rfl
  rw [nearest] at tie ⊢
  rw [Nat.pow_succ']
  refine Nat.mul_dvd_mul (Nat.dvd_of_mod_eq_zero (even ?_)) (Nat.dvd_refl _)
  unfold Nat.dist at tie
  omega

/-! ## Numbers -/

/-- A unit is this many binary places after the point. -/
def unitPlaces : Nat := 1074

theorem unitsOfOne_eq : unitsOfOne = 2 ^ unitPlaces := by
  unfold unitsOfOne unitPlaces
  generalize 1074 = places
  rfl

theorem unitsOfOne_pos : 0 < unitsOfOne := by
  rw [unitsOfOne_eq]
  exact Nat.two_pow_pos _

theorem nearest_mul_units (n : Nat) : nearest (n * unitsOfOne) = nearest n * unitsOfOne := by
  rw [unitsOfOne_eq, nearest_mul_pow]

/-- A natural number is kept as its rounding, with a significand that uses all of its bits. -/
theorem exists_parts (pos : 0 < n) (small : n < 2 ^ 64) : ∃ significand exponent,
    ofNat n = finite false significand exponent ∧
      significand * 2 ^ exponent = nearest n * unitsOfOne ∧
      2 ^ 52 ≤ significand ∧ significand < 2 ^ 53 ∧ 0 < exponent := by
  rw [← nearest_mul_units, ofNat, ofQuotient, rounded]
  obtain ⟨places, isUnit, is⟩ : ∃ places, unitsOfOne = 2 ^ places ∧ places = unitPlaces :=
    ⟨unitPlaces, unitsOfOne_eq, rfl⟩
  simp only [isUnit, Nat.div_one, Nat.one_mul, Nat.pow_eq]
  have low : 2 ^ places ≤ n * 2 ^ places := Nat.le_mul_of_pos_left _ pos
  have high : n * 2 ^ places < 2 ^ (64 + places) := by
    rw [Nat.pow_add]
    exact Nat.mul_lt_mul_of_pos_right small (Nat.two_pow_pos _)
  generalize n * 2 ^ places = value at *
  have limit : places = 1074 ∧ largestExponent = 2045 := ⟨is, rfl⟩
  clear is isUnit
  have large : 2 ^ 52 ≤ value :=
    Nat.le_trans (Nat.pow_le_pow_right (by decide) (by omega)) low
  have most := quotient_le value
  have least := le_quotient large
  have first := (Nat.pow_lt_pow_iff_right (by decide)).mp ((excess_bounds large).1.trans_lt high)
  have last := (Nat.pow_lt_pow_iff_right (by decide)).mp (low.trans_lt (lt_pow_excess _))
  change ∃ significand exponent, ofParts false (if roundedQuotient value (2 ^ excess value) = 2 ^ 53
    then (2 ^ 52, excess value + 1) else (roundedQuotient value (2 ^ excess value), excess value)) =
      finite false significand exponent ∧ _
  rw [nearest]
  generalize roundedQuotient value (2 ^ excess value) = q at *
  generalize excess value = e at *
  split
  case isTrue full =>
    refine ⟨2 ^ 52, e + 1, if_neg (by dsimp only; omega), ?_, Nat.le_refl _, by decide, by omega⟩
    rw [full]
    ring
  case isFalse smaller =>
    exact ⟨q, e, if_neg (by dsimp only; omega), rfl, least, by omega, by omega⟩

theorem ofNat_zero : ofNat 0 = finite false 0 0 := by
  rw [ofNat, ofQuotient, rounded]
  simp only [Nat.zero_mul, Nat.zero_div]
  rfl

/-- A natural number is as many units as its rounding. -/
theorem exists_units (small : n < 2 ^ 64) : ∃ significand exponent,
    ofNat n = finite false significand exponent ∧
      units false significand exponent = (nearest n * unitsOfOne : Nat) := by
  rcases Nat.eq_zero_or_pos n with rfl | pos
  · exact ⟨0, 0, ofNat_zero, by rw [nearest_of_lt (by decide), Nat.zero_mul]; rfl⟩
  · obtain ⟨significand, exponent, kept, value, -⟩ := exists_parts pos small
    exact ⟨significand, exponent, kept, congrArg Int.ofNat value⟩

/-- Natural numbers are compared as their roundings are. -/
theorem compare?_ofNat (small : n < 2 ^ 64) (small' : m < 2 ^ 64) :
    (ofNat n).compare? (ofNat m) = some (compare (nearest n) (nearest m)) := by
  obtain ⟨significand, exponent, kept, value⟩ := exists_units small
  obtain ⟨significand', exponent', kept', value'⟩ := exists_units small'
  rw [kept, kept', compare?, value, value', Option.some.injEq]
  rcases lt_trichotomy (nearest n) (nearest m) with less | same | greater
  · rw [compare_lt_iff_lt.mpr less, compare_lt_iff_lt, Int.ofNat_lt]
    exact Nat.mul_lt_mul_of_pos_right less unitsOfOne_pos
  · rw [same, compare_eq_iff_eq.mpr rfl, compare_eq_iff_eq.mpr rfl]
  · rw [compare_gt_iff_gt.mpr greater, compare_gt_iff_gt, Int.ofNat_lt]
    exact Nat.mul_lt_mul_of_pos_right greater unitsOfOne_pos

end FileQuery.Number

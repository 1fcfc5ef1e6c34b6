/-!
# Numbers in bytes

A number is written in a width of bytes: as digits to the base 256, lowest first or highest first.
A number that fits its width is read back.
-/

namespace FileQuery.Bytes

/-- A number in a width of bytes, lowest byte first. -/
def ofNumber : Nat → Nat → List UInt8
  | 0, _ => []
  | width + 1, value => UInt8.ofNat (value % 256) :: ofNumber width (value / 256)

/-- The number that bytes denote, lowest byte first. -/
def lowFirst : List UInt8 → Nat
  | [] => 0
  | byte :: rest => byte.toNat + 256 * lowFirst rest

/-- The number that bytes denote, highest byte first. -/
def highFirst (bytes : List UInt8) : Nat := lowFirst bytes.reverse

/-- A number is written in as many bytes as are given for it. -/
theorem length_ofNumber (width value : Nat) : (ofNumber width value).length = width := by
  induction width generalizing value with
  | zero => rfl
  | succ width inductionHypothesis => simp [ofNumber, inductionHypothesis]

/-- A number that fits is read back. -/
theorem lowFirst_ofNumber {width value : Nat} (fits : value < Nat.pow 256 width) :
    lowFirst (ofNumber width value) = value := by
  induction width generalizing value with
  | zero =>
    change value < 1 at fits
    simp only [ofNumber, lowFirst]
    omega
  | succ width inductionHypothesis =>
    have smaller : value / 256 < Nat.pow 256 width := by
      rw [Nat.div_lt_iff_lt_mul (by decide)]
      exact fits
    have byte : (UInt8.ofNat (value % 256)).toNat = value % 256 := by
      simp [UInt8.toNat_ofNat']
    simp only [ofNumber, lowFirst, inductionHypothesis smaller, byte]
    omega

end FileQuery.Bytes

/-!
# Numbers

Sizes and the values they are compared with are binary floating-point numbers with 53 significant
bits. Such a number is kept exactly, as a multiple of the least positive one, so rounding, order
and written form are questions about natural numbers.
-/

namespace FileQuery

/-- A floating-point number. -/
inductive Number
  | notANumber
  | infinite (negative : Bool)
  /-- The value is `significand * 2 ^ exponent`, counted in units of `2 ^ -1074`. -/
  | finite (negative : Bool) (significand exponent : Nat)
  deriving DecidableEq, Repr

namespace Number

/-- The number of units in 1. -/
def unitsOfOne : Nat := Nat.pow 2 1074

/-- The largest exponent of a finite number. -/
def largestExponent : Nat := 2045

/-- The quotient of two natural numbers, rounded to the nearest and on a tie to the even one. -/
def roundedQuotient (numerator denominator : Nat) : Nat :=
  let quotient := numerator / denominator
  let rest := numerator % denominator
  if denominator < 2 * rest then quotient + 1
  else if denominator = 2 * rest then quotient + quotient % 2
  else quotient

/-- The significand and the exponent of a quotient. The exponent is the least at which 53 bits hold
    the whole units, and rounding up may need one more. -/
def rounded (numerator denominator : Nat) : Nat × Nat :=
  let units := numerator * unitsOfOne / denominator
  let exponent := units.log2 - 52
  let significand := roundedQuotient (numerator * unitsOfOne) (denominator * Nat.pow 2 exponent)
  if significand = Nat.pow 2 53 then (Nat.pow 2 52, exponent + 1) else (significand, exponent)

/-- The number with a significand and an exponent, or an infinite one if the exponent is too
    large. -/
def ofParts (negative : Bool) (parts : Nat × Nat) : Number :=
  if largestExponent < parts.2 then infinite negative else finite negative parts.1 parts.2

/-- The number nearest to a quotient. -/
def ofQuotient (negative : Bool) (numerator denominator : Nat) : Number :=
  ofParts negative (rounded numerator denominator)

/-- The number nearest to a natural number. -/
def ofNat (value : Nat) : Number := ofQuotient false value 1

theorem ofParts_ne_notANumber (negative : Bool) (parts : Nat × Nat) :
    ofParts negative parts ≠ notANumber := by
  unfold ofParts
  split <;> simp

/-- There is a number near to every natural number. -/
theorem ofNat_ne_notANumber (value : Nat) : ofNat value ≠ notANumber :=
  ofParts_ne_notANumber false (rounded value 1)

/-- A finite number in units, with its sign. -/
def units (negative : Bool) (significand exponent : Nat) : Int :=
  let magnitude := significand * Nat.pow 2 exponent
  if negative then -(magnitude : Int) else magnitude

/-- The order of numbers. What is not a number has no place in it. -/
def compare? : Number → Number → Option Ordering
  | notANumber, _ => none
  | _, notANumber => none
  | infinite negative, infinite negative' => some (Ord.compare (!negative) (!negative'))
  | infinite negative, finite .. => some (if negative then .lt else .gt)
  | finite .., infinite negative => some (if negative then .gt else .lt)
  | finite s m e, finite s' m' e' => some (Ord.compare (units s m e) (units s' m' e'))

/-- Numbers have an order unless one of them is not a number. -/
theorem compare?_eq_none_iff (first second : Number) :
    first.compare? second = none ↔ first = notANumber ∨ second = notANumber := by
  cases first <;> cases second <;> simp [compare?]

end Number

end FileQuery

/-!
## Scaling numbers

A number is multiplied or divided by a power of ten in steps, each rounded. So what comes out can
be beside the number nearest to the exact value. Only powers of ten that are finite numbers are
used.
-/

namespace FileQuery.Number

/-- Whether a number is zero. -/
def isZero : Number → Bool
  | finite _ significand _ => significand == 0
  | notANumber | infinite _ => false

/-- The product of two numbers, rounded, if both are finite. -/
def times? : Number → Number → Option Number
  | finite s m e, finite s' m' e' =>
    some (ofQuotient (s != s') (m * m' * Nat.pow 2 (e + e')) (unitsOfOne * unitsOfOne))
  | _, _ => none

/-- The quotient of two numbers, rounded, if both are finite and the second is not zero. -/
def over? : Number → Number → Option Number
  | finite s m e, finite s' m' e' =>
    if m' = 0 then none
    else some (ofQuotient (s != s') (m * Nat.pow 2 e) (m' * Nat.pow 2 e'))
  | _, _ => none

/-- The largest power of ten that is a finite number. -/
def largestPower : Nat := 308

/-- The number nearest to a power of ten. -/
def powerOfTen (exponent : Nat) : Number := ofNat (Nat.pow 10 exponent)

/-- A number divided by a power of ten, by the largest one first, at most so many times. -/
def reduce (value : Number) (exponent : Nat) : Nat → Option Number
  | 0 => value.over? (powerOfTen (min exponent largestPower))
  | steps + 1 =>
    if exponent ≤ largestPower ∨ value.isZero then
      value.over? (powerOfTen (min exponent largestPower))
    else
      match value.over? (powerOfTen largestPower) with
      | some reduced => reduce reduced (exponent - largestPower) steps
      | none => none

/-- A natural number times a power of ten, unless that is no finite number. Three steps reduce any
    number of sixty-four bits to zero. -/
def scaled? (significand : Nat) (exponent : Int) : Option Number :=
  let value := ofNat significand
  let found :=
    if exponent < 0 then value.reduce exponent.natAbs 3
    else if exponent.natAbs ≤ largestPower then value.times? (powerOfTen exponent.natAbs)
    else if value.isZero then some value
    else none
  match found with
  | some (finite negative significand exponent) => some (finite negative significand exponent)
  | _ => none

/-- The opposite of a number. -/
def opposite : Number → Number
  | notANumber => notANumber
  | infinite negative => infinite (!negative)
  | finite negative significand exponent => finite (!negative) significand exponent

end FileQuery.Number

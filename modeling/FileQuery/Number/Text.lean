import FileQuery.Number
import FileQuery.Text.Blank

/-!
# Writing and reading numbers

A number is written so that it is read back as it was.
-/

/-!
## Written form of numbers

A number is written with the fewest digits that read back as the same number, and of those with
the digits nearest to it. The form is positional whatever the size, and whole numbers have no
point.
-/

namespace FileQuery.Number

/-- The range of values that round to a number, in quarter units, and whether its ends do. -/
structure Interval where
  low : Nat
  high : Nat
  closed : Bool
  deriving DecidableEq, Repr

/-- The interval of a number that is not zero. Below a power of two the neighbours are twice as
    near as above. -/
def interval (significand exponent : Nat) : Interval :=
  let step := Nat.pow 2 exponent
  let narrow := significand = Nat.pow 2 52 ∧ 0 < exponent
  ⟨4 * significand * step - (if narrow then step else 2 * step),
    4 * significand * step + 2 * step, significand % 2 = 0⟩

/-- Whether the value `numerator / denominator`, in quarter units, lies in an interval. -/
def Interval.holds (range : Interval) (numerator denominator : Nat) : Bool :=
  if range.closed then
    range.low * denominator ≤ numerator && numerator ≤ range.high * denominator
  else range.low * denominator < numerator && numerator < range.high * denominator

/-- The multiple of a power of ten that lies in the interval of a number and is nearest to it, if
    there is one. The power is `10 ^ (position - 400)`. -/
def onGrid? (significand exponent position : Nat) : Option Nat :=
  let value := 4 * significand * Nat.pow 2 exponent
  -- A multiple `k` of the power has `k * up / down` quarter units.
  let up := 4 * unitsOfOne * Nat.pow 10 (position - 400)
  let down := Nat.pow 10 (400 - position)
  let below := value * down / up
  let range := interval significand exponent
  let belowHolds := range.holds (below * up) down
  let aboveHolds := range.holds ((below + 1) * up) down
  let nearBelow := 2 * (value * down) < (2 * below + 1) * up ∨
    (2 * (value * down) = (2 * below + 1) * up ∧ below % 2 = 0)
  if belowHolds && (nearBelow || !aboveHolds) then some below
  else if aboveHolds then some (below + 1)
  else none

/-- The digits of a number on the coarsest grid that has a point in its interval, and the position
    of that grid. -/
def shortest (significand exponent : Nat) : Nat → Nat × Nat
  | 0 => (significand, 0)
  | position + 1 =>
    match onGrid? significand exponent position with
    | some digits => (digits, position)
    | none => shortest significand exponent position

/-- Digits with a point before the last `places` of them. -/
def withPoint (digits : String) (places : Nat) : String :=
  let filled := List.replicate (places + 1 - digits.length) '0' ++ digits.toList
  String.ofList (filled.take (filled.length - places)) ++ "." ++
    String.ofList (filled.drop (filled.length - places))

/-- A position above the grids of all finite numbers. -/
def topPosition : Nat := 711

/-- The written form of a number. -/
def text : Number → String
  | notANumber => "NaN"
  | infinite negative => if negative then "-inf" else "inf"
  | finite negative significand exponent =>
    (if negative then "-" else "") ++
      if significand = 0 then "0"
      else
        let (digits, position) := shortest significand exponent topPosition
        if 400 ≤ position then
          toString digits ++ String.ofList (List.replicate (position - 400) '0')
        else withPoint (toString digits) (400 - position)

/-!
## Mixed form of numbers

The same digits as in the written form of a number, with a point in every case, or with an exponent
where the number is far from one.
-/

/-- The mixed form of digits whose last one counts `10 ^ position`. The first one then counts
    `10 ^ (magnitude - 1)`. -/
def mixedDigits (digits : String) (position : Int) : String :=
  let magnitude := digits.length + position
  if 0 ≤ position ∧ magnitude ≤ 16 then
    digits ++ String.ofList (List.replicate position.toNat '0') ++ ".0"
  else if -5 < magnitude ∧ magnitude ≤ 16 then withPoint digits (-position).toNat
  else
    let places := String.ofList (digits.toList.drop 1)
    String.ofList (digits.toList.take 1) ++ (if places.isEmpty then "" else "." ++ places) ++
      (if 0 < magnitude then "e+" else "e") ++ toString (magnitude - 1)

/-- The mixed form of a number. -/
def mixedText : Number → String
  | notANumber => "NaN"
  | infinite negative => if negative then "-inf" else "inf"
  | finite negative significand exponent =>
    (if negative then "-" else "") ++
      if significand = 0 then "0.0"
      else
        let (digits, position) := shortest significand exponent topPosition
        mixedDigits (toString digits) ((position : Int) - 400)

end FileQuery.Number

/-!
## Reading numbers

A number is written in decimal, with a point and an exponent if wanted, or as `inf`, `infinity`
or `nan` in any case. It is read as the floating-point number nearest to what is written.
-/

namespace FileQuery.Number

/-- The value of ASCII digits. -/
def digitsValue (digits : List Char) : Nat :=
  digits.foldl (fun value c => 10 * value + (c.toNat - '0'.toNat)) 0

/-- The digits at the start of a text, and the rest. -/
def spanDigits (text : List Char) : List Char × List Char :=
  (text.takeWhile Char.isDigit, text.dropWhile Char.isDigit)

/-- The number nearest to `digits * 10 ^ exponent`. Where the exponent is beyond all finite
    numbers, or below all positive ones, the power is not computed. -/
def ofDecimal (negative : Bool) (digits : Nat) (exponent : Int) : Number :=
  let magnitude := exponent + (toString digits).length
  if digits = 0 then finite negative 0 0
  else if 400 < magnitude then infinite negative
  else if magnitude < -400 then finite negative 0 0
  else ofQuotient negative (digits * Nat.pow 10 exponent.toNat)
    (Nat.pow 10 (-exponent).toNat)

/-- The exponent at the end of a decimal number. -/
def exponent? : List Char → Option Int
  | [] => some 0
  | mark :: rest =>
    if mark ≠ 'e' ∧ mark ≠ 'E' then none
    else
      let (negative, digits) := match rest with
        | '-' :: digits => (true, digits)
        | '+' :: digits => (false, digits)
        | digits => (false, digits)
      if digits.isEmpty || !digits.all Char.isDigit then none
      else some (if negative then -(digitsValue digits : Int) else digitsValue digits)

/-- The number that a text without sign and blanks denotes. -/
def unsigned? (negative : Bool) (text : List Char) : Option Number :=
  let (whole, rest) := spanDigits text
  let (places, rest) := match rest with
    | '.' :: rest => spanDigits rest
    | rest => ([], rest)
  if whole.isEmpty && places.isEmpty then
    match String.ofList (text.map Char.toLower) with
    | "nan" => some notANumber
    | "inf" => some (infinite negative)
    | "infinity" => some (infinite negative)
    | _ => none
  else do
    let exponent ← exponent? rest
    some (ofDecimal negative (digitsValue (whole ++ places)) (exponent - places.length))

/-- The number that a text denotes. Blanks around it do not count. -/
def read? (text : String) : Option Number :=
  match Text.trim text.toList with
  | '-' :: rest => unsigned? true rest
  | '+' :: rest => unsigned? false rest
  | text => unsigned? false text

end FileQuery.Number

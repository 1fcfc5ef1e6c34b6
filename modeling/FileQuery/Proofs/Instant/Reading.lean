import FileQuery.Instant.Reader
import Mathlib

/-!
# Reading written instants

What the reader makes of numbers that are written with leading zeros, in the form of RFC 3339
(`ofRfc3339?_numerals`) and in the plain forms, which are followed piece by piece (`follow_cons`). A
form refuses a text at the first number or mark that is not the one it asks for, so a date in one
order of its parts is refused in the other (`ofLayout?_monthFirst_of_year`,
`ofLayout?_yearFirst_of_month`). Blanks around a text do not matter (`read?_surrounded`).
-/

/-!
## Numbers with leading zeros

A number that is padded to a width is written as that many digits (`toList_padded`), and they are
read as the number where no more digits are wanted, or no more follow (`number_numeral`).
-/

namespace FileQuery.Instant

variable {width value least most : Nat} {rest : List Char}

/-- The last digits of a number, so many of them. -/
def numeral : Nat → Nat → List Char
  | 0, _ => []
  | width + 1, value => numeral width (value / 10) ++ [(value % 10).digitChar]

@[simp] theorem length_numeral (width value : Nat) : (numeral width value).length = width := by
  induction width generalizing value with
  | zero => rfl
  | succ width inductionHypothesis => simp [numeral, inductionHypothesis]

theorem getLast?_numeral (width value : Nat) :
    (numeral (width + 1) value).getLast? = some (value % 10).digitChar := by simp [numeral]

theorem head?_numeral (width value : Nat) :
    (numeral (width + 1) value).head? = some (value / 10 ^ width % 10).digitChar := by
  induction width generalizing value with
  | zero => simp [numeral]
  | succ width inductionHypothesis =>
    rw [numeral, List.head?_append, inductionHypothesis, Option.some_or, Nat.div_div_eq_div_mul,
      Nat.pow_succ']

theorem numeral_zero (width : Nat) : numeral width 0 = List.replicate width '0' := by
  induction width with
  | zero => rfl
  | succ width inductionHypothesis =>
    rw [numeral, inductionHypothesis, List.replicate_succ']
    rfl

/-- A number that is padded to a width is so many digits, if it has no more. -/
theorem toList_padded (fits : value < 10 ^ (width + 1)) :
    (padded (width + 1) value).toList = numeral (width + 1) value := by
  have whole (width : Nat) : (padded width value).toList =
      List.replicate (width - (Nat.toDigits 10 value).length) '0' ++ Nat.toDigits 10 value := by
    simp [padded, ← String.length_toList]
  have single {value : Nat} (small : value < 10) (width : Nat) :
      List.replicate width '0' ++ [value.digitChar] = numeral (width + 1) value := by
    rw [numeral, Nat.div_eq_of_lt small, numeral_zero, Nat.mod_eq_of_lt small]
  rw [whole]
  clear whole
  induction width generalizing value with
  | zero =>
    have small : value < 10 := by simpa using fits
    rw [Nat.toDigits_of_lt_base small, ← single small]
    rfl
  | succ width inductionHypothesis =>
    by_cases small : value < 10
    · rw [Nat.toDigits_of_lt_base small, ← single small]
      rfl
    · have shorter : value / 10 < 10 ^ (width + 1) := by
        rw [Nat.pow_succ] at fits
        omega
      rw [Nat.toDigits_of_base_le (by decide) (by omega), numeral, ← inductionHypothesis shorter]
      simp

/-! ### Reading digits -/

theorem isDigit_digitChar {digit : Nat} (small : digit < 10) :
    digit.digitChar.isDigit = true ∧ digit.digitChar.toNat - '0'.toNat = digit := by
  decide +revert

theorem isDigit_of_mem_numeral {c : Char} (member : c ∈ numeral width value) :
    c.isDigit = true := by
  induction width generalizing value with
  | zero => simp [numeral] at member
  | succ width inductionHypothesis =>
    rcases List.mem_append.mp member with earlier | last
    · exact inductionHypothesis earlier
    · rw [List.mem_singleton.mp last]
      exact (isDigit_digitChar (Nat.mod_lt _ (by decide))).1

theorem digitsValue_concat (digits : List Char) (c : Char) :
    digitsValue (digits ++ [c]) = 10 * digitsValue digits + (c.toNat - '0'.toNat) := by
  simp [digitsValue]

/-- The value of the last digits of a number is the number, if it has no more. -/
theorem digitsValue_numeral (fits : value < 10 ^ width) :
    digitsValue (numeral width value) = value := by
  induction width generalizing value with
  | zero =>
    obtain rfl : value = 0 := by simpa using fits
    rfl
  | succ width inductionHypothesis =>
    have shorter : value / 10 < 10 ^ width := by
      rw [Nat.pow_succ] at fits
      omega
    rw [numeral, digitsValue_concat, inductionHypothesis shorter,
      (isDigit_digitChar (Nat.mod_lt _ (by decide))).2]
    omega

/-- Digits are taken as far as they go, and no further than is wanted. -/
theorem takeWhile_digits {digits : List Char} (areDigits : ∀ c ∈ digits, c.isDigit = true)
    (fit : digits.length ≤ most)
    (ends : digits.length = most ∨ ∀ c ∈ rest.head?, c.isDigit = false) :
    ((digits ++ rest).take most).takeWhile Char.isDigit = digits := by
  rw [List.take_append, List.take_of_length_le fit, List.takeWhile_append_of_pos areDigits]
  rcases ends with full | stops
  · simp [full]
  · cases rest with
    | nil => simp
    | cons c more => cases most - digits.length <;> simp [stops c rfl]

theorem takeWhile_numeral (fit : width ≤ most)
    (ends : width = most ∨ ∀ c ∈ rest.head?, c.isDigit = false) :
    ((numeral width value ++ rest).take most).takeWhile Char.isDigit = numeral width value :=
  takeWhile_digits (fun _ => isDigit_of_mem_numeral) (by simpa) (by simpa using ends)

/-- A padded number is read as the number. -/
theorem number_numeral (fits : value < 10 ^ width) (enough : least ≤ width) (fit : width ≤ most)
    (ends : width = most ∨ ∀ c ∈ rest.head?, c.isDigit = false) :
    number least most (numeral width value ++ rest) = some (value, rest) := by
  simp [number, takeWhile_numeral fit ends, Nat.not_lt.mpr enough, digitsValue_numeral fits]

theorem number_exact (fits : value < 10 ^ width) (rest : List Char) :
    number width width (numeral width value ++ rest) = some (value, rest) :=
  number_numeral fits (Nat.le_refl width) (Nat.le_refl width) (.inl rfl)

/-- Too few digits are not read. -/
theorem number_of_few (few : width < least) (fit : width ≤ most)
    (ends : ∀ c ∈ rest.head?, c.isDigit = false) :
    number least most (numeral width value ++ rest) = none := by
  simp [number, takeWhile_numeral fit (.inr ends), few]

end FileQuery.Instant

namespace FileQuery

namespace Text

variable {text before after : List Char}

/-- A digit is no blank. -/
theorem isBlank_of_isDigit {c : Char} (digit : c.isDigit = true) : isBlank c = false := by
  have bounds : 48 ≤ c.toNat ∧ c.toNat ≤ 57 := by
    simpa [Char.isDigit, UInt32.le_iff_toNat_le] using digit
  simp [isBlank, blankRanges, Unicode.Ranges.contains]
  omega

@[simp] theorem isBlank_digitChar (number : Nat) : isBlank (number % 10).digitChar = false :=
  isBlank_of_isDigit (Instant.isDigit_digitChar (Nat.mod_lt _ (by decide))).1

/-- A text that starts with no blank is not trimmed at its start. -/
theorem trimStart_eq_self (starts : ∀ c ∈ text.head?, isBlank c = false) :
    trimStart text = text := by
  cases text with
  | nil => rfl
  | cons c rest => simp [trimStart, starts c rfl]

/-- A text that starts and ends with no blank is not trimmed. -/
theorem trim_eq_self (starts : ∀ c ∈ text.head?, isBlank c = false)
    (ends : ∀ c ∈ text.getLast?, isBlank c = false) : trim text = text := by
  have backwards : trimStart text.reverse = text.reverse := trimStart_eq_self (by simpa using ends)
  rw [trim, trimStart_eq_self starts, trimEnd, ← trimStart, backwards, List.reverse_reverse]

/-- Blanks around a text are trimmed. -/
theorem trim_surrounded (text : List Char) (blank : ∀ c ∈ before, isBlank c = true)
    (blank' : ∀ c ∈ after, isBlank c = true) : trim (before ++ text ++ after) = trim text := by
  have start : trimStart (before ++ text ++ after) = trimStart (text ++ after) := by
    rw [trimStart, List.append_assoc, List.dropWhile_append_of_pos blank, trimStart]
  have ending (text : List Char) : trimEnd (text ++ after) = trimEnd text := by
    rw [trimEnd, List.reverse_append, List.dropWhile_append_of_pos (by simpa using blank'), trimEnd]
  rw [trim, trim, start, trimStart, List.dropWhile_append]
  split
  · rename_i nothing
    rw [trimStart, List.isEmpty_iff.mp nothing, List.dropWhile_eq_nil_iff.mpr blank']
  · rw [ending, trimStart]

end Text

namespace Instant

variable {year month day hour minute second width value : Nat} {c : Char} {rest : List Char}

/-- With a time of day that no leap second is in, only the date can fail to exist. -/
theorem Fields.instant?_eq {fields : Fields} (hour : fields.hour < 24) (minute : fields.minute < 60)
    (second : fields.second < 60) : fields.instant? =
      if Calendar.exists? ⟨fields.year, fields.month, fields.day⟩ then
        some (ofDate ⟨fields.year, fields.month, fields.day⟩ fields.hour fields.minute fields.second
          fields.nanoseconds)
      else none := by
  simp [Fields.instant?, hour, minute, second.le, second.ne]

theorem sign_self (c : Char) (rest : List Char) : sign c (c :: rest) = some rest := by simp [sign]

/-- Blanks around a text do not matter. -/
theorem read?_surrounded {before after : List Char} (blank : ∀ c ∈ before, Text.isBlank c = true)
    (blank' : ∀ c ∈ after, Text.isBlank c = true) (text : String) :
    read? (.ofList (before ++ text.toList ++ after)) = read? text := by
  rw [read?, String.toList_ofList, Text.trim_surrounded text.toList blank blank', read?]

/-! ## The form of RFC 3339 -/

/-- A `T` or a blank may stand before the time of day. -/
theorem sign_separator (separates : c = 'T' ∨ c = ' ') (text : List Char) :
    ((sign 'T' (c :: text)).orElse fun _ =>
      (sign 't' (c :: text)).orElse fun _ => sign ' ' (c :: text)) = some text := by
  rcases separates with rfl | rfl <;> simp [sign]

/-- A reader goes on with what it has read. -/
theorem bind_of_eq_some {α β : Type} {read : Option α} {a : α} (same : read = some a)
    (later : α → Option β) : (read >>= later) = later a := by
  rw [same]
  rfl

/-- What is read of an instant in full up to its day. -/
theorem ofRfc3339?_date (year_fits : year < 10 ^ 4) (month_fits : month < 10 ^ 2)
    (day_fits : day < 10 ^ 2) (rest : List Char) :
    ofRfc3339? (numeral 4 year ++ '-' :: (numeral 2 month ++ '-' :: (numeral 2 day ++ rest))) =
      (do
        let text ← (sign 'T' rest).orElse fun _ => (sign 't' rest).orElse fun _ => sign ' ' rest
        let (hour, text) ← number 2 2 text
        let text ← sign ':' text
        let (minute, text) ← number 2 2 text
        let text ← sign ':' text
        let (second, text) ← number 2 2 text
        let (nanoseconds, text) ← fraction text
        let (offset, text) ← offset text
        if !text.isEmpty then none
        let reading ← Fields.instant?
          { year := year, month, day, hour, minute, second, nanoseconds }
        some { reading with seconds := reading.seconds - offset }) := by
  refine (bind_of_eq_some (number_exact year_fits _) _).trans ?_
  refine (bind_of_eq_some (sign_self '-' _) _).trans ?_
  refine (bind_of_eq_some (number_exact month_fits _) _).trans ?_
  refine (bind_of_eq_some (sign_self '-' _) _).trans ?_
  exact bind_of_eq_some (number_exact day_fits _) _

/-- What is read of an instant in full up to its seconds. -/
theorem ofRfc3339?_numerals (year_fits : year < 10 ^ 4) (month_fits : month < 10 ^ 2)
    (day_fits : day < 10 ^ 2) (hour_fits : hour < 10 ^ 2) (minute_fits : minute < 10 ^ 2)
    (second_fits : second < 10 ^ 2) (separates : c = 'T' ∨ c = ' ') (rest : List Char) :
    ofRfc3339? (numeral 4 year ++ '-' :: (numeral 2 month ++ '-' :: (numeral 2 day ++ c ::
      (numeral 2 hour ++ ':' :: (numeral 2 minute ++ ':' :: (numeral 2 second ++ rest)))))) =
      (do
        let (nanoseconds, text) ← fraction rest
        let (offset, text) ← offset text
        if !text.isEmpty then none
        let reading ← Fields.instant?
          { year := year, month, day, hour, minute, second, nanoseconds }
        some { reading with seconds := reading.seconds - offset }) := by
  rw [ofRfc3339?_date year_fits month_fits day_fits]
  refine (bind_of_eq_some (sign_separator separates _) _).trans ?_
  refine (bind_of_eq_some (number_exact hour_fits _) _).trans ?_
  refine (bind_of_eq_some (sign_self ':' _) _).trans ?_
  refine (bind_of_eq_some (number_exact minute_fits _) _).trans ?_
  refine (bind_of_eq_some (sign_self ':' _) _).trans ?_
  exact bind_of_eq_some (number_exact second_fits _) _

/-- An instant in full has seconds. -/
theorem ofRfc3339?_minute (year_fits : year < 10 ^ 4) (month_fits : month < 10 ^ 2)
    (day_fits : day < 10 ^ 2) (hour_fits : hour < 10 ^ 2) (minute_fits : minute < 10 ^ 2)
    (separates : c = 'T' ∨ c = ' ') :
    ofRfc3339? (numeral 4 year ++ '-' :: (numeral 2 month ++ '-' :: (numeral 2 day ++ c ::
      (numeral 2 hour ++ ':' :: (numeral 2 minute ++ []))))) = none := by
  rw [ofRfc3339?_date year_fits month_fits day_fits]
  refine (bind_of_eq_some (sign_separator separates _) _).trans ?_
  refine (bind_of_eq_some (number_exact hour_fits _) _).trans ?_
  refine (bind_of_eq_some (sign_self ':' _) _).trans ?_
  exact bind_of_eq_some (number_exact minute_fits _) _

/-- A month in front is no year. -/
theorem ofRfc3339?_month (mark : c.isDigit = false) (month : Nat) (rest : List Char) :
    ofRfc3339? (numeral 2 month ++ c :: rest) = none := by
  have few : number 4 4 (numeral 2 month ++ c :: rest) = none :=
    number_of_few (by decide) (by decide) (by simp [mark])
  rw [ofRfc3339?, few]
  rfl

/-! ## Pieces of plain forms -/

theorem trimStart_numeral (width value : Nat) (rest : List Char) :
    Text.trimStart (numeral (width + 1) value ++ rest) = numeral (width + 1) value ++ rest :=
  Text.trimStart_eq_self (by simp [head?_numeral])

/-- A character that is no digit is not read from a number. -/
theorem sign_numeral (mark : c.isDigit = false) (width value : Nat) (rest : List Char) :
    sign c (numeral (width + 1) value ++ rest) = none := by
  obtain ⟨digits, first⟩ := List.head?_eq_some_iff.mp (head?_numeral width value)
  have isDigit := (isDigit_digitChar (Nat.mod_lt (value / 10 ^ width) (by decide : 0 < 10))).1
  have differ : (value / 10 ^ width % 10).digitChar ≠ c := by
    rintro rfl
    rw [mark] at isDigit
    contradiction
  rw [first]
  simp [sign, differ]

theorem shortNumber_numeral (fits : value < 10 ^ 2) (rest : List Char) :
    shortNumber (numeral 2 value ++ rest) = some (value, rest) := by
  rw [shortNumber, trimStart_numeral,
    number_numeral fits (by decide) (Nat.le_refl 2) (.inl rfl)]

/-- Two digits are read of a year. -/
theorem shortNumber_year (fits : year < 10 ^ 4) (rest : List Char) :
    shortNumber (numeral 4 year ++ rest) = some (year / 100, numeral 2 year ++ rest) := by
  have halves : numeral 4 year = numeral 2 (year / 100) ++ numeral 2 year := by
    simp [numeral, Nat.div_div_eq_div_mul]
  rw [halves, List.append_assoc, shortNumber_numeral (by omega)]

/-- A number of up to four digits is read as a year. -/
theorem yearNumber_numeral (fits : value < 10 ^ (width + 1)) (fit : width + 1 ≤ 4)
    (ends : width + 1 = 4 ∨ ∀ c ∈ rest.head?, c.isDigit = false) :
    yearNumber (numeral (width + 1) value ++ rest) = some ((value : Int), rest) := by
  have read : number 1 4 (numeral (width + 1) value ++ rest) = some (value, rest) :=
    number_numeral fits (Nat.le_add_left 1 width) fit ends
  have unsigned {c : Char} (mark : c.isDigit = false) (rest' : List Char) :
      numeral (width + 1) value ++ rest ≠ c :: rest' := by
    intro same
    have first := sign_numeral mark width value rest
    rw [same, sign_self] at first
    exact absurd first (by simp)
  rw [yearNumber, trimStart_numeral]
  split
  · exact absurd ‹_› (unsigned (by decide) _)
  · exact absurd ‹_› (unsigned (by decide) _)
  · rw [read]
    rfl

/-! ## Plain forms -/

/-- Reads the pieces of a plain form that remain, when some parts have been read. -/
def follow (fields : Fields) (later : List Piece) (text : List Char) : Option Instant := do
  let (fields, rest) ← later.foldlM (fun (fields, rest) piece => piece.read fields rest)
    (fields, text)
  if rest.isEmpty then fields.instant? else none

theorem follow_nil (fields : Fields) (text : List Char) :
    follow fields [] text = if text.isEmpty then fields.instant? else none := rfl

theorem follow_cons (fields : Fields) (piece : Piece) (later : List Piece) (text : List Char) :
    follow fields (piece :: later) text =
      (piece.read fields text).bind fun (fields, rest) => follow fields later rest := by
  cases read : piece.read fields text <;> simp [follow, read]

theorem ofLayout?_eq (layout : List Piece) (text : List Char) :
    ofLayout? layout text = follow {} layout text := rfl

/-- A date with the year first is read, and its parts are kept. -/
theorem ofLayout?_yearFirst (year_fits : year < 10 ^ 4) (month_fits : month < 10 ^ 2)
    (day_fits : day < 10 ^ 2) (later : List Piece) (rest : List Char) :
    ofLayout? (yearFirst ++ later) (numeral 4 year ++ '-' :: (numeral 2 month ++ '-' ::
      (numeral 2 day ++ rest))) = follow { year := year, month, day } later rest := by
  simp only [ofLayout?_eq, yearFirst, List.cons_append, List.nil_append, follow_cons, Piece.read,
    yearNumber_numeral year_fits (Nat.le_refl 4) (.inl rfl), shortNumber_numeral month_fits,
    shortNumber_numeral day_fits, sign_self, Option.map_some, Option.bind_some]

/-- A year in front is no month. -/
theorem ofLayout?_monthFirst_of_year (year_fits : year < 10 ^ 4) (mark : c.isDigit = false)
    (rest : List Char) : ofLayout? (monthFirst c) (numeral 4 year ++ rest) = none := by
  simp only [ofLayout?_eq, monthFirst, follow_cons, Piece.read, shortNumber_year year_fits,
    sign_numeral mark, Option.map_some, Option.map_none, Option.bind_some, Option.bind_none]

/-- A date with the month first is read where the marks are the right ones. -/
theorem ofLayout?_monthFirst (year_fits : year < 10 ^ 4) (month_fits : month < 10 ^ 2)
    (day_fits : day < 10 ^ 2) (c mark : Char) :
    ofLayout? (monthFirst c) (numeral 2 month ++ mark :: (numeral 2 day ++ mark ::
      (numeral 4 year ++ []))) =
      if mark = c then Fields.instant? { year := year, month, day } else none := by
  split
  case isTrue same =>
    subst same
    simp only [ofLayout?_eq, monthFirst, follow_cons, follow_nil, Piece.read,
      shortNumber_numeral month_fits, shortNumber_numeral day_fits, yearNumber_numeral year_fits (Nat.le_refl 4) (.inl rfl),
      sign_self, Option.map_some, Option.bind_some, List.isEmpty_nil, if_true]
  case isFalse differ =>
    simp [ofLayout?_eq, monthFirst, follow_cons, Piece.read, shortNumber_numeral month_fits, sign,
      differ]

/-- A month in front is a year, but the mark after it is a different one. -/
theorem ofLayout?_yearFirst_of_month (month_fits : month < 10 ^ 2) (mark : c.isDigit = false)
    (differ : c ≠ '-') (later : List Piece) (rest : List Char) :
    ofLayout? (yearFirst ++ later) (numeral 2 month ++ c :: rest) = none := by
  have year : yearNumber (numeral 2 month ++ c :: rest) = some ((month : Int), c :: rest) :=
    yearNumber_numeral month_fits (by decide) (.inr (by simp [mark]))
  simp [ofLayout?_eq, yearFirst, follow_cons, Piece.read, year, sign, differ]

/-- An hour and a minute are read. -/
theorem follow_clock (hour_fits : hour < 10 ^ 2) (minute_fits : minute < 10 ^ 2) (fields : Fields)
    (later : List Piece) (rest : List Char) :
    follow fields (.hour :: .mark ':' :: .minute :: later)
      (numeral 2 hour ++ ':' :: (numeral 2 minute ++ rest)) =
      follow { fields with hour, minute } later rest := by
  simp only [follow_cons, Piece.read, shortNumber_numeral hour_fits,
    shortNumber_numeral minute_fits, sign_self, Option.map_some, Option.bind_some]

end Instant

end FileQuery

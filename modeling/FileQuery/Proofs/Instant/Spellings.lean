import FileQuery.Condition.Check
import FileQuery.Proofs.Instant.Calendar
import FileQuery.Proofs.Instant.Reading

/-!
# Spellings of dates and times

A date can be written with the year or with the month first, and with a time of day in a plain form
or in the form of RFC 3339. All spellings of one date and time of day are read as one instant, and
none is if the date is on no calendar (`spellings_agree`).

The forms are tried one after the other, so a spelling has to be refused in every form but its own,
or be read as the same instant there. Those that start with the year differ in what follows the date
(`laters`), and are compared by what they read of that.
-/

/-!
## Written instants read back

An instant is written by its date and time of day in UTC, which determine it (`eq_ofDate`), and by
as many digits of its nanoseconds as are not zero, in threes (`fraction_fractionText`). A condition
that compares a time of a file with the written form of an instant compares it with that instant
(`coerce_asText`), before 1970 and on leap days as well.
-/

namespace FileQuery

namespace Instant

variable {instant : Instant} {width value nanoseconds : Nat}

/-- The date of an instant in UTC. -/
def day (instant : Instant) : Date := Calendar.date (instant.seconds / 86400 + epochDay)

theorem isDay_day (instant : Instant) : Calendar.IsDay instant.day := (Calendar.date_spec _).1

/-- The second of the day of an instant in UTC. -/
def inDay (instant : Instant) : Nat := (instant.seconds % 86400).toNat

theorem inDay_lt (instant : Instant) : instant.inDay < 86400 := by
  rw [inDay]
  omega

/-- An instant is the one of its date and its time of day. -/
theorem eq_ofDate (instant : Instant) : ofDate instant.day (instant.inDay / 3600)
    (instant.inDay / 60 % 60) (instant.inDay % 60) instant.nanoseconds = instant := by
  obtain ⟨-, number⟩ := Calendar.date_spec (instant.seconds / 86400 + epochDay)
  have seconds : (instant.inDay : Int) = instant.seconds % 86400 := by
    rw [inDay]
    omega
  rw [ofDate, day, number]
  congr 1
  omega

/-- The written form of an instant of the first ten thousand years. -/
theorem toList_text (least : 0 ≤ instant.day.year) (most : instant.day.year ≤ 9999)
    (small : instant.nanoseconds < 10 ^ 9) :
    instant.text.toList = numeral 4 instant.day.year.toNat ++ '-' :: (numeral 2 instant.day.month ++
      '-' :: (numeral 2 instant.day.day ++ 'T' :: (numeral 2 (instant.inDay / 3600) ++ ':' ::
        (numeral 2 (instant.inDay / 60 % 60) ++ ':' :: (numeral 2 (instant.inDay % 60) ++
          ((fractionText instant.nanoseconds).toList ++ "+00:00".toList)))))) := by
  obtain ⟨month, day⟩ := instant.isDay_day.bounds
  have inDay := instant.inDay_lt
  have plain : ¬1000000000 ≤ instant.nanoseconds := Nat.not_le.mpr small
  have year : yearText instant.day.year = padded 4 instant.day.year.toNat := if_pos ⟨least, most⟩
  change (yearText instant.day.year ++ "-" ++ padded 2 instant.day.month ++ "-" ++
    padded 2 instant.day.day ++ "T" ++ padded 2 (instant.inDay / 3600) ++ ":" ++
    padded 2 (instant.inDay / 60 % 60) ++ ":" ++ padded 2 (instant.inDay % 60 + _) ++ _ ++ _).toList
    = _
  rw [year, if_neg plain, if_neg plain, Nat.add_zero, Nat.sub_zero]
  simp only [String.toList_append]
  rw [toList_padded (by omega), toList_padded (by omega),
    toList_padded (by omega), toList_padded (by omega), toList_padded (by omega),
    toList_padded (by omega)]
  simp

/-! ### Fractions of a second -/

/-- The digits of a fraction count from the first one after the point. -/
theorem fraction_padded (fits : value < 10 ^ (width + 1)) (fit : width + 1 ≤ 9)
    (rest : List Char) :
    fraction (("." ++ padded (width + 1) value).toList ++ '+' :: rest) =
      some (value * 10 ^ (9 - (width + 1)), '+' :: rest) := by
  have read : number 1 9 (numeral (width + 1) value ++ '+' :: rest) = some (value, '+' :: rest) :=
    number_numeral fits (Nat.le_add_left 1 width) fit (.inr (by simp))
  rw [String.toList_append, toList_padded fits]
  simp [fraction, read, digitsValue_numeral fits]

/-- The written form of nanoseconds is read back. -/
theorem fraction_fractionText (small : nanoseconds < 10 ^ 9) (rest : List Char) :
    fraction ((fractionText nanoseconds).toList ++ '+' :: rest) =
      some (nanoseconds, '+' :: rest) := by
  unfold fractionText
  split
  case isTrue none => rw [none]; rfl
  split
  case isTrue millis =>
    rw [fraction_padded (by omega) (by decide)]
    congr 2
    omega
  split
  case isTrue micros =>
    rw [fraction_padded (by omega) (by decide)]
    congr 2
    omega
  case isFalse =>
    rw [fraction_padded small (by decide), Nat.sub_self, Nat.pow_zero, Nat.mul_one]

/-! ### Instants -/

/-- The written form of an instant of the first ten thousand years is read as that instant. -/
theorem read?_text (least : 0 ≤ instant.day.year) (most : instant.day.year ≤ 9999)
    (small : instant.nanoseconds < 10 ^ 9) : read? instant.text = some instant := by
  obtain ⟨month, day⟩ := instant.isDay_day.bounds
  have inDay := instant.inDay_lt
  have exists_ : Calendar.exists? instant.day = true :=
    Calendar.exists?_iff.mpr ⟨by simp [Calendar.supportedYear]; omega, instant.isDay_day⟩
  have untrimmed : Text.trim instant.text.toList = instant.text.toList := by
    rw [toList_text least most small]
    apply Text.trim_eq_self
    · simp [head?_numeral]
    · have solid : Text.isBlank '0' = false := by decide
      simpa [List.getLast?_cons, List.getLast?_append] using solid
  have read : ofRfc3339? instant.text.toList = some instant := by
    rw [toList_text least most small, ofRfc3339?_numerals (by omega) (by omega)
      (by omega) (by omega) (by omega) (by omega) (.inl rfl)]
    rw [show "+00:00".toList = '+' :: "00:00".toList from rfl, fraction_fractionText small]
    have zone : offset ('+' :: "00:00".toList) = some (0, []) := by decide
    simp only [Option.bind_eq_bind, Option.bind_some, zone, List.isEmpty_nil, Bool.not_true,
      Bool.false_eq_true, if_false]
    rw [Fields.instant?_eq (by simp; omega) (by simp; omega) (by simp; omega)]
    simp only [Int.toNat_of_nonneg least]
    rw [if_pos exists_]
    simp only [Option.bind_some, Int.sub_zero, Option.some.injEq]
    exact instant.eq_ofDate
  rw [read?, untrimmed, read]
  rfl

end Instant

namespace Condition

/-- A condition on a time of a file that is given the written form of an instant is one on that
    very instant. -/
theorem coerce_asText {property : Property} {instant : Instant}
    (isTime : property ∈ [Property.created, .modified, .accessed])
    (least : 0 ≤ instant.day.year) (most : instant.day.year ≤ 9999)
    (small : instant.nanoseconds < 10 ^ 9) :
    coerce property (Value.timestamp instant).asText = .ok (.timestamp instant) ∧
      (Value.timestamp instant).compare? (.timestamp instant) = some .eq := by
  have type : property.valueType = .timestamp := by
    revert isTime
    cases property <;> decide
  have literal : Value.ofLiteral? property instant.text = some (.timestamp instant) := by
    rw [Value.ofLiteral?, type]
    exact congrArg (Option.map Value.timestamp) (Instant.read?_text least most small)
  constructor
  · rw [coerce, Value.asText, literal]
  · simp [Value.compare?, Instant.compare, Std.ReflCmp.compare_self]

/-- A leap day before 1970, with microseconds. -/
theorem coerce_asText_leap_day :
    (Value.timestamp ⟨-58015504, 789012000⟩).asText = "1968-02-29T12:34:56.789012+00:00" ∧
      coerce .modified "1968-02-29T12:34:56.789012+00:00" =
        .ok (.timestamp ⟨-58015504, 789012000⟩) := by
  have written : (Value.timestamp ⟨-58015504, 789012000⟩).asText =
    "1968-02-29T12:34:56.789012+00:00" := by decide +kernel
  refine ⟨written, ?_⟩
  rw [← written]
  exact (coerce_asText (by decide) (by decide +kernel) (by decide +kernel) (by decide)).1

end Condition

end FileQuery

namespace FileQuery

/-- A date as it is written: a year of four digits, and a month and a day of two. -/
structure WrittenDate where
  year : Fin 10000
  month : Fin 100
  day : Fin 100
  deriving DecidableEq, Repr

/-- A time of day, without leap seconds. -/
structure TimeOfDay where
  hour : Fin 24
  minute : Fin 60
  second : Fin 60
  deriving DecidableEq, Repr

open Instant (padded numeral)

namespace TimeOfDay

/-- The hour and the minute. -/
def short (time : TimeOfDay) : String := padded 2 time.hour ++ ":" ++ padded 2 time.minute

/-- The time of day up to its second. -/
def full (time : TimeOfDay) : String := time.short ++ ":" ++ padded 2 time.second

/-- The start of a day. -/
def midnight : TimeOfDay := ⟨0, 0, 0⟩

/-- The characters of the hour and the minute, and what comes after them. -/
def chars (time : TimeOfDay) (tail : List Char) : List Char :=
  numeral 2 time.hour ++ ':' :: (numeral 2 time.minute ++ tail)

/-- The characters of the second after a minute, and what comes after them. -/
def secondChars (time : TimeOfDay) (tail : List Char) : List Char :=
  ':' :: (numeral 2 time.second ++ tail)

theorem toList_short (time : TimeOfDay) : time.short.toList = time.chars [] := by
  rw [short]
  simp only [String.toList_append]
  rw [Instant.toList_padded (by omega), Instant.toList_padded (by omega)]
  simp [chars]

theorem toList_full (time : TimeOfDay) : time.full.toList = time.chars (time.secondChars []) := by
  rw [full]
  simp only [String.toList_append]
  rw [Instant.toList_padded (by omega), toList_short]
  simp [chars, secondChars]

end TimeOfDay

namespace WrittenDate

variable {date : WrittenDate} {time : TimeOfDay} {tail : List Char} {c : Char}

/-- The last day of a month of a year of the Gregorian calendar. -/
def lastDay (year month : Nat) : Nat :=
  if month = 2 then if year % 4 = 0 ∧ (year % 100 ≠ 0 ∨ year % 400 = 0) then 29 else 28
  else if month ∈ [4, 6, 9, 11] then 30
  else 31

/-- Whether a date is one of the Gregorian calendar. -/
def OnCalendar (date : WrittenDate) : Prop :=
  1 ≤ date.month.val ∧ date.month.val ≤ 12 ∧
    1 ≤ date.day.val ∧ date.day.val ≤ lastDay date.year date.month

instance : DecidablePred OnCalendar := fun date =>
  inferInstanceAs (Decidable (1 ≤ date.month.val ∧ date.month.val ≤ 12 ∧
    1 ≤ date.day.val ∧ date.day.val ≤ lastDay date.year date.month))

/-- A date with the year first. -/
def yearFirst (date : WrittenDate) : String :=
  padded 4 date.year ++ "-" ++ padded 2 date.month ++ "-" ++ padded 2 date.day

/-- A date with the month first and a mark between its parts. -/
def monthFirst (mark : String) (date : WrittenDate) : String :=
  padded 2 date.month ++ mark ++ padded 2 date.day ++ mark ++ padded 4 date.year

/-- The spellings of a date, some of which name its midnight. -/
def spellings (date : WrittenDate) : List String := [
  date.yearFirst, date.monthFirst "/", date.monthFirst ".", date.yearFirst ++ " 00:00",
  date.yearFirst ++ " 00:00:00", date.yearFirst ++ "T00:00:00", date.yearFirst ++ "T00:00:00Z"]

/-- The spellings of a date and a time of day. Seconds may be left out where they are zero. -/
def spellingsAt (date : WrittenDate) (time : TimeOfDay) : List String :=
  [date.yearFirst ++ "T" ++ time.full ++ "Z", date.yearFirst ++ "T" ++ time.full,
    date.yearFirst ++ " " ++ time.full] ++
  if time.second = 0 then [date.yearFirst ++ " " ++ time.short] else []

/-- The date of the calendar, if there is one. -/
def onDate (date : WrittenDate) : Date := ⟨date.year.val, date.month, date.day⟩

/-- The instant of a date and a time of day in UTC. -/
def instantAt (date : WrittenDate) (time : TimeOfDay) : Instant :=
  .ofDate date.onDate time.hour time.minute time.second 0

/-- What the spellings of a date and a time of day are read as. -/
def reading (date : WrittenDate) (time : TimeOfDay) : Option Instant :=
  if date.OnCalendar then some (date.instantAt time) else none

/-! ## The calendar -/

theorem lastDay_eq (year : Nat) {index : Nat} (inYear : index < 12) :
    (Calendar.monthLengths (Calendar.isLeap year))[index]? = some (lastDay year (index + 1)) := by
  have leap : Calendar.isLeap year = true ↔ year % 4 = 0 ∧ (year % 100 ≠ 0 ∨ year % 400 = 0) := by
    rw [Calendar.isLeap_iff]
    omega
  simp only [lastDay, ← leap]
  cases Calendar.isLeap year <;> decide +revert

theorem isDay_iff : Calendar.IsDay date.onDate ↔ date.OnCalendar := by
  constructor
  · intro isDay
    obtain ⟨month, -⟩ := isDay.bounds
    obtain ⟨index, length, month', found, least, most⟩ := isDay
    simp only [onDate] at month month' found least most
    rw [lastDay_eq _ (by omega), Option.some.injEq] at found
    exact ⟨by omega, month, least, by rw [month', found]; exact most⟩
  · rintro ⟨low, high, least, most⟩
    refine ⟨date.month.val - 1, lastDay date.year date.month, ?_, ?_, least, most⟩
    · exact (Nat.sub_add_cancel low).symm
    · have found := lastDay_eq date.year (by omega : date.month.val - 1 < 12)
      rwa [Nat.sub_add_cancel low] at found

theorem exists?_iff : Calendar.exists? date.onDate = true ↔ date.OnCalendar := by
  have supported : Calendar.supportedYear date.year.val = true := by
    simp [Calendar.supportedYear]
    omega
  rw [Calendar.exists?_iff, isDay_iff, onDate]
  exact and_iff_right supported

/-- The parts of a date and a time of day. -/
def fields (date : WrittenDate) (time : TimeOfDay) : Instant.Fields where
  year := date.year.val
  month := date.month
  day := date.day
  hour := time.hour
  minute := time.minute
  second := time.second

/-- A time of day is read on the dates of the calendar only. -/
theorem instant?_fields (date : WrittenDate) (time : TimeOfDay) :
    (date.fields time).instant? = date.reading time := by
  rw [Instant.Fields.instant?_eq time.hour.isLt time.minute.isLt time.second.isLt, reading]
  exact if_congr exists?_iff rfl rfl

/-! ## Forms with the year first -/

/-- The characters of a date with the year first, and what comes after it. -/
def chars (date : WrittenDate) (tail : List Char) : List Char :=
  numeral 4 date.year ++ '-' :: (numeral 2 date.month ++ '-' :: (numeral 2 date.day ++ tail))

theorem toList_yearFirst_append (date : WrittenDate) (after : String) :
    (date.yearFirst ++ after).toList = date.chars after.toList := by
  rw [yearFirst]
  simp only [String.toList_append]
  rw [Instant.toList_padded date.year.isLt, Instant.toList_padded date.month.isLt,
    Instant.toList_padded date.day.isLt]
  simp [chars]

/-- What may follow the date in the plain forms that start with the year. -/
def laters : List (List Instant.Piece) := [
  [.gap, .hour, .mark ':', .minute, .mark ':', .second], [.gap, .hour, .mark ':', .minute],
  [.mark 'T', .hour, .mark ':', .minute, .mark ':', .second], []]

theorem layouts_eq : Instant.layouts = laters.map (Instant.yearFirst ++ ·) ++
    [Instant.monthFirst '/', Instant.monthFirst '.'] := rfl

/-- A text that starts with a date with the year first is read in a form of RFC 3339 or in a plain
    form that starts so. -/
theorem read?_yearFirst (date : WrittenDate) {after : String} {tail : List Char}
    (same : after.toList = tail)
    (solid : ∀ c ∈ (date.chars tail).getLast?, Text.isBlank c = false) :
    Instant.read? (date.yearFirst ++ after) =
      (Instant.ofRfc3339? (date.chars tail)).orElse fun _ =>
        laters.findSome? (Instant.follow (date.fields .midnight) · tail) := by
  have untrimmed : Text.trim (date.chars tail) = date.chars tail :=
    Text.trim_eq_self (by simp [chars, Instant.head?_numeral]) solid
  have followed (later : List Instant.Piece) :
      Instant.ofLayout? (Instant.yearFirst ++ later) (date.chars tail) =
        Instant.follow (date.fields .midnight) later tail :=
    Instant.ofLayout?_yearFirst date.year.isLt date.month.isLt date.day.isLt later tail
  have refused {c : Char} (mark : c.isDigit = false) :
      Instant.ofLayout? (Instant.monthFirst c) (date.chars tail) = none :=
    Instant.ofLayout?_monthFirst_of_year date.year.isLt mark _
  subst same
  rw [Instant.read?, toList_yearFirst_append, untrimmed, layouts_eq, List.findSome?_append]
  simp [List.findSome?_map, Function.comp_def, followed, refused]

theorem read?_date (date : WrittenDate) :
    Instant.read? date.yearFirst = date.reading .midnight := by
  have nothing : "".toList = [] := rfl
  have read := read?_yearFirst date nothing
    (by simp [chars, List.getLast?_cons, List.getLast?_append, Instant.getLast?_numeral])
  rw [String.append_empty] at read
  have incomplete : Instant.ofRfc3339? (date.chars []) = none :=
    Instant.ofRfc3339?_date date.year.isLt date.month.isLt date.day.isLt []
  have shortNumber : Instant.shortNumber (Text.trimStart []) = none := rfl
  rw [read, incomplete]
  simp [laters, Instant.follow_cons, Instant.follow_nil, Instant.Piece.read, shortNumber,
    Instant.sign, instant?_fields]

/-! ## Times of day -/

theorem follow_chars (date : WrittenDate) (time : TimeOfDay) (later : List Instant.Piece)
    (tail : List Char) :
    Instant.follow (date.fields .midnight) (.hour :: .mark ':' :: .minute :: later)
      (time.chars tail) =
      Instant.follow { date.fields time with second := 0 } later tail :=
  Instant.follow_clock (by omega) (by omega) _ later tail

theorem follow_second (date : WrittenDate) (time : TimeOfDay) (tail : List Char) :
    Instant.follow { date.fields time with second := 0 } [.mark ':', .second]
      (time.secondChars tail) = if tail.isEmpty then date.reading time else none := by
  simp only [TimeOfDay.secondChars, Instant.follow_cons, Instant.follow_nil, Instant.Piece.read,
    Instant.shortNumber_numeral (by omega : time.second.val < 10 ^ 2), Instant.sign_self,
    Option.map_some, Option.bind_some]
  rw [← instant?_fields]
  rfl

theorem trimStart_chars (time : TimeOfDay) (tail : List Char) :
    Text.trimStart (' ' :: time.chars tail) = time.chars tail := by
  have blank : Text.isBlank ' ' = true := by decide
  rw [Text.trimStart, List.dropWhile_cons_of_pos blank]
  exact Instant.trimStart_numeral _ _ _

theorem follow_gap (date : WrittenDate) (time : TimeOfDay) (later : List Instant.Piece)
    (tail : List Char) :
    Instant.follow (date.fields .midnight) (.gap :: .hour :: .mark ':' :: .minute :: later)
      (' ' :: time.chars tail) =
      Instant.follow { date.fields time with second := 0 } later tail := by
  rw [Instant.follow_cons, ← follow_chars, Instant.Piece.read, trimStart_chars]
  rfl

/-- No time of day starts with a `T`. -/
theorem follow_gap_mark (date : WrittenDate) (later : List Instant.Piece) (tail : List Char) :
    Instant.follow (date.fields .midnight) (.gap :: .hour :: later) ('T' :: tail) = none := by
  rw [Instant.follow_cons, Instant.Piece.read]
  rfl

/-- The plain forms that start with the year read a date and a time of day with a blank in
    between. -/
theorem findSome?_blank (date : WrittenDate) (time : TimeOfDay) :
    laters.findSome? (Instant.follow (date.fields .midnight) ·
      (' ' :: time.chars (time.secondChars []))) = date.reading time := by
  simp only [laters, List.findSome?_cons, List.findSome?_nil, follow_gap, follow_second,
    List.isEmpty_nil, if_true]
  -- A date on no calendar goes on to the other forms, which stop at the blank or at the seconds.
  cases date.reading time
  · simp [Instant.follow_nil, Instant.follow_cons, Instant.Piece.read, Instant.sign,
      TimeOfDay.secondChars]
  · rfl

theorem findSome?_blank_short (date : WrittenDate) (time : TimeOfDay) (whole : time.second = 0) :
    laters.findSome? (Instant.follow (date.fields .midnight) · (' ' :: time.chars [])) =
      date.reading time := by
  have parts : { date.fields time with second := 0 } = date.fields time := by
    rw [fields, whole]
    rfl
  simp only [laters, List.findSome?_cons, List.findSome?_nil, follow_gap, parts]
  simp only [Instant.follow_cons, Instant.follow_nil, Instant.Piece.read, List.isEmpty_nil, if_true,
    instant?_fields]
  cases date.reading time <;> simp [Instant.sign]

/-- They read a date and a time of day with a `T` in between, if no zone follows. -/
theorem findSome?_mark (date : WrittenDate) (time : TimeOfDay) (zone : List Char) :
    laters.findSome? (Instant.follow (date.fields .midnight) ·
      ('T' :: time.chars (time.secondChars zone))) =
      if zone.isEmpty then date.reading time else none := by
  simp only [laters, List.findSome?_cons, List.findSome?_nil, follow_gap_mark]
  rw [Instant.follow_cons]
  simp only [Instant.Piece.read, Instant.sign_self, Option.map_some, Option.bind_some, follow_chars,
    follow_second, Instant.follow_nil, List.isEmpty_cons]
  cases zone
  · cases date.reading time <;> rfl
  · rfl

/-- What is read of a date and a time of day in the form of RFC 3339, up to the zone. -/
theorem ofRfc3339?_chars (date : WrittenDate) (time : TimeOfDay) (separates : c = 'T' ∨ c = ' ')
    (zone : List Char) :
    Instant.ofRfc3339? (date.chars (c :: time.chars (time.secondChars zone))) = (do
        let (nanoseconds, text) ← Instant.fraction zone
        let (offset, text) ← Instant.offset text
        if !text.isEmpty then none
        let reading ← Instant.Fields.instant? { date.fields time with nanoseconds }
        some { reading with seconds := reading.seconds - offset }) :=
  Instant.ofRfc3339?_numerals date.year.isLt date.month.isLt date.day.isLt (by omega) (by omega)
    (by omega) separates zone

theorem read?_zulu (date : WrittenDate) (time : TimeOfDay) :
    Instant.read? (date.yearFirst ++ ("T" ++ (time.full ++ "Z"))) = date.reading time := by
  have same : ("T" ++ (time.full ++ "Z")).toList =
      'T' :: time.chars (time.secondChars ['Z']) := by
    simp [TimeOfDay.toList_full, TimeOfDay.chars, TimeOfDay.secondChars]
  have solid : Text.isBlank 'Z' = false := by decide
  have inFull : Instant.ofRfc3339? (date.chars ('T' :: time.chars (time.secondChars ['Z']))) =
      date.reading time := by
    rw [ofRfc3339?_chars date time (.inl rfl), ← instant?_fields]
    have zone : Instant.fraction ['Z'] = some (0, ['Z']) ∧
      Instant.offset ['Z'] = some (0, []) := ⟨rfl, rfl⟩
    simp only [zone, Option.bind_eq_bind, Option.bind_some, List.isEmpty_nil, Bool.not_true,
      Bool.false_eq_true, if_false, Int.sub_zero]
    exact Option.bind_fun_some _
  rw [read?_yearFirst date same, inFull, findSome?_mark]
  · cases date.reading time <;> rfl
  · simpa [chars, TimeOfDay.chars, TimeOfDay.secondChars, List.getLast?_cons, List.getLast?_append]
      using solid

/-- Without a zone the form of RFC 3339 is not complete. -/
theorem ofRfc3339?_zoneless (date : WrittenDate) (time : TimeOfDay)
    (separates : c = 'T' ∨ c = ' ') :
    Instant.ofRfc3339? (date.chars (c :: time.chars (time.secondChars []))) = none := by
  rw [ofRfc3339?_chars date time separates]
  rfl

theorem read?_full (date : WrittenDate) (time : TimeOfDay) {mark : String}
    (same : mark.toList = [c]) (separates : c = 'T' ∨ c = ' ') :
    Instant.read? (date.yearFirst ++ (mark ++ time.full)) = date.reading time := by
  have tail : (mark ++ time.full).toList = c :: time.chars (time.secondChars []) := by
    simp [same, TimeOfDay.toList_full]
  have plain : laters.findSome? (Instant.follow (date.fields .midnight) ·
      (c :: time.chars (time.secondChars []))) = date.reading time := by
    rcases separates with rfl | rfl
    · exact findSome?_mark date time []
    · exact findSome?_blank date time
  rw [read?_yearFirst date tail, ofRfc3339?_zoneless date time separates, plain]
  · rfl
  · simp [chars, TimeOfDay.chars, TimeOfDay.secondChars, List.getLast?_cons, List.getLast?_append,
      Instant.getLast?_numeral]

theorem read?_blank_short (date : WrittenDate) (time : TimeOfDay) (whole : time.second = 0) :
    Instant.read? (date.yearFirst ++ (" " ++ time.short)) = date.reading time := by
  have same : (" " ++ time.short).toList = ' ' :: time.chars [] := by
    simp [TimeOfDay.toList_short]
  have incomplete : Instant.ofRfc3339? (date.chars (' ' :: time.chars [])) = none :=
    Instant.ofRfc3339?_minute date.year.isLt date.month.isLt date.day.isLt (by omega) (by omega)
      (.inr rfl)
  rw [read?_yearFirst date same, incomplete, findSome?_blank_short date time whole]
  · rfl
  · simp [chars, TimeOfDay.chars, List.getLast?_cons, List.getLast?_append,
      Instant.getLast?_numeral]

/-! ## Forms with the month first -/

/-- The characters of a date with the month first. -/
def monthChars (date : WrittenDate) (c : Char) : List Char :=
  numeral 2 date.month ++ c :: (numeral 2 date.day ++ c :: (numeral 4 date.year ++ []))

theorem toList_monthFirst (date : WrittenDate) {mark : String} (same : mark.toList = [c]) :
    (date.monthFirst mark).toList = date.monthChars c := by
  rw [monthFirst]
  simp only [String.toList_append]
  rw [Instant.toList_padded date.month.isLt, Instant.toList_padded date.day.isLt,
    Instant.toList_padded date.year.isLt, same]
  simp [monthChars]

theorem read?_monthFirst (date : WrittenDate) {mark : String} (same : mark.toList = [c])
    (isMark : c = '/' ∨ c = '.') :
    Instant.read? (date.monthFirst mark) = date.reading .midnight := by
  have digitless : c.isDigit = false ∧ c ≠ '-' := by rcases isMark with rfl | rfl <;> decide
  have untrimmed : Text.trim (date.monthChars c) = date.monthChars c :=
    Text.trim_eq_self (by simp [monthChars, Instant.head?_numeral])
      (by simp [monthChars, List.getLast?_cons, List.getLast?_append, Instant.getLast?_numeral])
  have notInFull : Instant.ofRfc3339? (date.monthChars c) = none :=
    Instant.ofRfc3339?_month digitless.1 _ _
  have refused (later : List Instant.Piece) :
      Instant.ofLayout? (Instant.yearFirst ++ later) (date.monthChars c) = none :=
    Instant.ofLayout?_yearFirst_of_month date.month.isLt digitless.1 digitless.2 later _
  have followed (c' : Char) : Instant.ofLayout? (Instant.monthFirst c') (date.monthChars c) =
      if c = c' then date.reading .midnight else none := by
    rw [← instant?_fields]
    exact Instant.ofLayout?_monthFirst date.year.isLt date.month.isLt date.day.isLt c' c
  rw [Instant.read?, toList_monthFirst date same, untrimmed, notInFull, layouts_eq,
    List.findSome?_append, List.findSome?_map]
  simp only [Function.comp_def, refused, followed, List.findSome?_cons, List.findSome?_nil]
  rcases isMark with rfl | rfl <;> cases date.reading .midnight <;> rfl

/-! ## All forms -/

theorem read?_of_mem_spellingsAt {text : String} (spelled : text ∈ date.spellingsAt time) :
    Instant.read? text = date.reading time := by
  simp only [spellingsAt, String.append_assoc, List.mem_append, List.mem_cons, List.not_mem_nil,
    or_false, List.mem_ite_nil_right] at spelled
  rcases spelled with (same | same | same) | ⟨whole, same⟩
  · rw [same, read?_zulu]
  · rw [same, read?_full date time rfl (.inl rfl)]
  · rw [same, read?_full date time rfl (.inr rfl)]
  · rw [same, read?_blank_short date time whole]

theorem read?_of_mem_spellings {text : String} (spelled : text ∈ date.spellings) :
    Instant.read? text = date.reading .midnight := by
  have short : " 00:00" = " " ++ TimeOfDay.midnight.short := by decide
  have blank : " 00:00:00" = " " ++ TimeOfDay.midnight.full := by decide
  have mark : "T00:00:00" = "T" ++ TimeOfDay.midnight.full := by decide
  have zulu : "T00:00:00Z" = "T" ++ (TimeOfDay.midnight.full ++ "Z") := by decide
  simp only [spellings, List.mem_cons, List.not_mem_nil, or_false] at spelled
  rcases spelled with same | same | same | same | same | same | same
  · rw [same, read?_date]
  · rw [same, read?_monthFirst date rfl (.inl rfl)]
  · rw [same, read?_monthFirst date rfl (.inr rfl)]
  · rw [same, short, read?_blank_short date .midnight rfl]
  · rw [same, blank, read?_full date .midnight rfl (.inr rfl)]
  · rw [same, mark, read?_full date .midnight rfl (.inl rfl)]
  · rw [same, zulu, read?_zulu]

/-! ## The order of time -/

/-- The numbers of a date and a time of day. -/
def parts (date : WrittenDate) (time : TimeOfDay) : List Nat :=
  [date.year, date.month, date.day, time.hour, time.minute, time.second]

theorem compare_instantAt {date' : WrittenDate} {time' : TimeOfDay} (onCalendar : date.OnCalendar)
    (onCalendar' : date'.OnCalendar) :
    (date.instantAt time).compare (date'.instantAt time') = .lt ↔
      date.parts time < date'.parts time' := by
  have order := Calendar.dayNumber_lt_iff (isDay_iff.mpr onCalendar) (isDay_iff.mpr onCalendar')
  have order' := Calendar.dayNumber_lt_iff (isDay_iff.mpr onCalendar') (isDay_iff.mpr onCalendar)
  have seconds : (date.instantAt time).compare (date'.instantAt time') = .lt ↔
      (date.instantAt time).seconds < (date'.instantAt time').seconds := by
    simp [Instant.compare, instantAt, Instant.ofDate, compare_lt_iff_lt]
  rw [seconds]
  simp only [parts, instantAt, Instant.ofDate, List.cons_lt_cons_iff, List.not_lt_nil, and_false,
    or_false]
  simp only [onDate] at order order' ⊢
  -- A time of day is less than a day, so it decides only between times of one day.
  generalize Calendar.dayNumber _ = number at *
  generalize Calendar.dayNumber _ = number' at *
  rcases lt_trichotomy number number' with earlier | same | later
  · omega
  · omega
  · omega

/-- All spellings of a date are read as its midnight, and all spellings of a date and a time of day
    as one instant, if the date is on the calendar, and none is read otherwise. Blanks around a
    text never matter, and the instants have the order of the numbers that they are written by. -/
theorem spellings_agree :
    (∀ date : WrittenDate, ∀ text ∈ date.spellings, Instant.read? text =
      if date.OnCalendar then some (date.instantAt .midnight) else none) ∧
    (∀ (date : WrittenDate) (time : TimeOfDay), ∀ text ∈ date.spellingsAt time, Instant.read? text =
      if date.OnCalendar then some (date.instantAt time) else none) ∧
    (∀ (before after : List Char) (text : String), (∀ c ∈ before, Text.isBlank c = true) →
      (∀ c ∈ after, Text.isBlank c = true) →
      Instant.read? (.ofList (before ++ text.toList ++ after)) = Instant.read? text) ∧
    (∀ (date date' : WrittenDate) (time time' : TimeOfDay), date.OnCalendar → date'.OnCalendar →
      ((date.instantAt time).compare (date'.instantAt time') = .lt ↔
        date.parts time < date'.parts time')) :=
  ⟨fun _ _ => read?_of_mem_spellings, fun _ _ _ => read?_of_mem_spellingsAt,
    fun _ _ text blank blank' => Instant.read?_surrounded blank blank' text,
    fun _ _ _ _ => compare_instantAt⟩

/-- A leap day, a day that is none, and the second before a leap day. -/
theorem spellings_agree_leap_day :
    Instant.read? "02/29/2024" = some ⟨1709164800, 0⟩ ∧ Instant.read? "02.29.2023" = none ∧
      Instant.read? "\t2024-02-28 23:59:59 \n" = some ⟨1709164799, 0⟩ ∧
      (instantAt ⟨2024, 2, 28⟩ ⟨23, 59, 59⟩).compare (instantAt ⟨2024, 2, 29⟩ .midnight) = .lt := by
  obtain ⟨dates, times, blanks, order⟩ := spellings_agree
  refine ⟨?_, ?_, ?_, ?_⟩
  · exact (dates ⟨2024, 2, 29⟩ _ (by decide)).trans (by decide)
  · exact (dates ⟨2023, 2, 29⟩ _ (by decide)).trans (by decide)
  · have blank : ['\t'].all Text.isBlank = true ∧ [' ', '\n'].all Text.isBlank = true := by decide
    exact (blanks ['\t'] [' ', '\n'] "2024-02-28 23:59:59" (List.all_eq_true.mp blank.1)
      (List.all_eq_true.mp blank.2)).trans ((times ⟨2024, 2, 28⟩ ⟨23, 59, 59⟩ _
        (by decide)).trans (by decide))
  · exact (order ⟨2024, 2, 28⟩ ⟨2024, 2, 29⟩ ⟨23, 59, 59⟩ .midnight (by decide) (by decide)).mpr
      (by decide)

end WrittenDate

end FileQuery

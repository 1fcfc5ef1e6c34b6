import FileQuery.Instant
import Mathlib

/-!
# Days and their numbers

Every number is that of a day, and `date` finds it: the day exists in its year, and its number is
the given one (`date_spec`). Of two days the later one has the greater number (`dayNumber_lt_iff`),
since a year ends before the next one begins, and a month of it too.
-/

namespace FileQuery.Calendar

variable {leap : Bool} {year : Int} {date first second : Date}

/-! ## Months of a year -/

/-- The number of days of a year. -/
def yearLength (leap : Bool) : Nat := if leap then 366 else 365

theorem sum_monthLengths (leap : Bool) : (monthLengths leap).sum = yearLength leap := by
  cases leap <;> rfl

theorem daysBeforeMonth_eq (leap : Bool) (month : Nat) :
    daysBeforeMonth leap month = ((monthLengths leap).take (month - 1)).sum := by
  rw [daysBeforeMonth, List.sum_eq_foldl]

/-- No more days are before a month than before a later one. -/
theorem daysBeforeMonth_mono (leap : Bool) : Monotone (daysBeforeMonth leap) := by
  intro month later order
  rw [daysBeforeMonth_eq, daysBeforeMonth_eq]
  exact List.monotone_sum_take _ (Nat.sub_le_sub_right order 1)

/-- A month ends where the next one begins. -/
theorem daysBeforeMonth_next {index length : Nat}
    (found : (monthLengths leap)[index]? = some length) :
    daysBeforeMonth leap (index + 2) = daysBeforeMonth leap (index + 1) + length := by
  rw [daysBeforeMonth_eq, daysBeforeMonth_eq, show index + 2 - 1 = index + 1 from rfl,
    List.take_add_one, found, Nat.add_sub_cancel]
  simp

/-- The months before a month are within its year. -/
theorem daysBeforeMonth_le (leap : Bool) (month : Nat) :
    daysBeforeMonth leap month ≤ yearLength leap := by
  rw [daysBeforeMonth_eq, ← sum_monthLengths]
  exact (List.take_sublist _ _).sum_le_sum fun _ _ => Nat.zero_le _

/-- The month that is found for a day is one in which the day lies. -/
theorem monthAndDay_eq {lengths : List Nat} {rest : Nat} (within : rest < lengths.sum)
    (month : Nat) : ∃ index length, lengths[index]? = some length ∧
      (lengths.take index).sum ≤ rest ∧ rest < (lengths.take index).sum + length ∧
      monthAndDay month lengths rest =
        (month + index, rest - (lengths.take index).sum + 1) := by
  induction lengths generalizing month rest with
  | nil => simp at within
  | cons first later inductionHypothesis =>
    rw [monthAndDay]
    split
    case isTrue inside => exact ⟨0, first, rfl, by simp, by simpa using inside, by simp⟩
    case isFalse outside =>
      have left : rest - first < later.sum := by
        rw [List.sum_cons] at within
        omega
      obtain ⟨index, length, found, low, high, same⟩ := inductionHypothesis left (month + 1)
      refine ⟨index + 1, length, found, ?_, ?_, ?_⟩
      · rw [List.take_succ_cons, List.sum_cons]
        omega
      · rw [List.take_succ_cons, List.sum_cons]
        omega
      · rw [same, List.take_succ_cons, List.sum_cons, Prod.mk.injEq]
        omega

/-! ## Days of a year -/

/-- A day of a month of its year. -/
def IsDay (date : Date) : Prop :=
  ∃ index length, date.month = index + 1 ∧ (monthLengths (isLeap date.year))[index]? = some length ∧
    1 ≤ date.day ∧ date.day ≤ length

theorem exists?_iff : exists? date = true ↔ supportedYear date.year = true ∧ IsDay date := by
  obtain ⟨year, month, day⟩ := date
  rw [exists?, Bool.and_eq_true]
  refine and_congr_right fun _ => ?_
  cases month with
  | zero => simp [IsDay]
  | succ index => cases found : (monthLengths (isLeap year))[index]? <;> simp [IsDay, found]

/-- No year has more than twelve months, and no month more than 31 days. -/
theorem IsDay.bounds (isDay : IsDay date) : date.month ≤ 12 ∧ date.day ≤ 31 := by
  obtain ⟨index, length, month, found, -, most⟩ := isDay
  obtain ⟨inside, -⟩ := List.getElem?_eq_some_iff.mp found
  have longest : ∀ length ∈ monthLengths (isLeap date.year), length ≤ 31 := by
    cases isLeap date.year <;> decide
  refine ⟨?_, most.trans (longest length (List.mem_of_getElem? found))⟩
  rw [month]
  exact inside

/-- A day lies between the start of its month and the start of the next one. -/
theorem IsDay.within_month (isDay : IsDay date) :
    1 ≤ date.day ∧ daysBeforeMonth (isLeap date.year) date.month + date.day ≤
      daysBeforeMonth (isLeap date.year) (date.month + 1) := by
  obtain ⟨index, length, month, found, least, most⟩ := isDay
  rw [month, daysBeforeMonth_next found]
  omega

/-- Every fourth year is a leap year, but of those that end a century only every fourth one. -/
theorem isLeap_iff : isLeap year = true ↔ year % 4 = 0 ∧ (year % 100 ≠ 0 ∨ year % 400 = 0) := by
  simp only [isLeap, Bool.and_eq_true, Bool.or_eq_true, beq_iff_eq, bne_iff_ne]
  exact Iff.rfl

theorem daysBeforeYear_eq (year : Int) : daysBeforeYear year =
    365 * (year - 1) + (year - 1) / 4 - (year - 1) / 100 + (year - 1) / 400 := rfl

/-- A year ends where the next one begins. -/
theorem daysBeforeYear_next (year : Int) :
    daysBeforeYear (year + 1) = daysBeforeYear year + yearLength (isLeap year) := by
  have fours : year / 4 = (year - 1) / 4 + if year % 4 = 0 then 1 else 0 := by split <;> omega
  have hundreds : year / 100 = (year - 1) / 100 + if year % 100 = 0 then 1 else 0 := by
    split <;> omega
  have cycles : year / 400 = (year - 1) / 400 + if year % 400 = 0 then 1 else 0 := by
    split <;> omega
  rw [daysBeforeYear_eq, daysBeforeYear_eq, Int.add_sub_cancel, fours, hundreds, cycles, yearLength]
  simp only [isLeap_iff]
  split <;> split <;> split <;> split <;> omega

theorem daysBeforeYear_mono : Monotone daysBeforeYear := by
  refine monotone_int_of_le_succ fun year => ?_
  rw [daysBeforeYear_next]
  omega

/-- The number of a day lies between the start of its year and the start of the next one. -/
theorem IsDay.within_year (isDay : IsDay date) :
    daysBeforeYear date.year ≤ dayNumber date ∧
      dayNumber date < daysBeforeYear (date.year + 1) := by
  obtain ⟨least, most⟩ := isDay.within_month
  have inside := daysBeforeMonth_le (isLeap date.year) (date.month + 1)
  rw [daysBeforeYear_next, dayNumber]
  omega

/-- A day of an earlier year or month, or an earlier day of the same month, has a smaller number. -/
theorem dayNumber_lt (isDay : IsDay first) (isDay' : IsDay second)
    (earlier : first.year < second.year ∨ first.year = second.year ∧
      (first.month < second.month ∨ first.month = second.month ∧ first.day < second.day)) :
    dayNumber first < dayNumber second := by
  rcases earlier with year | ⟨year, month | ⟨month, day⟩⟩
  · have apart := daysBeforeYear_mono (Int.add_one_le_of_lt year)
    have ends := isDay.within_year.2
    have begins := isDay'.within_year.1
    omega
  · have apart := daysBeforeMonth_mono (isLeap first.year) (Nat.succ_le_of_lt month)
    have ends := isDay.within_month.2
    have begins := isDay'.within_month.1
    rw [dayNumber, dayNumber, ← year]
    simp only [Nat.succ_eq_add_one] at apart
    omega
  · rw [dayNumber, dayNumber, ← year, ← month]
    omega

/-- Days have the order of their numbers. -/
theorem dayNumber_lt_iff (isDay : IsDay first) (isDay' : IsDay second) :
    dayNumber first < dayNumber second ↔ first.year < second.year ∨ first.year = second.year ∧
      (first.month < second.month ∨ first.month = second.month ∧ first.day < second.day) := by
  refine ⟨fun less => ?_, dayNumber_lt isDay isDay'⟩
  by_contra notEarlier
  have others : (first.year = second.year ∧ first.month = second.month ∧ first.day = second.day) ∨
      (second.year < first.year ∨ second.year = first.year ∧ (second.month < first.month ∨
        second.month = first.month ∧ second.day < first.day)) := by
    omega
  rcases others with ⟨year, month, day⟩ | later
  · rw [dayNumber, dayNumber, year, month, day] at less
    exact lt_irrefl _ less
  · exact lt_asymm less (dayNumber_lt isDay' isDay later)

/-! ## The day of a number -/

/-- The days before a year and its length, where the year is told by its cycle of 400 years, its
    century in the cycle, its period of four years in the century, and its place in the period. -/
theorem year_of_parts (cycle : Int) {century period place : Nat} (century_le : century ≤ 3)
    (period_le : period ≤ 24) (place_le : place ≤ 3) :
    let year : Int := cycle * 400 + (century * 100 + period * 4 + place : Nat) + 1
    daysBeforeYear year = cycle * 146097 + (century * 36524 + period * 1461 + place * 365 : Nat) ∧
      (isLeap year = true ↔ place = 3 ∧ (period = 24 → century = 3)) := by
  intro year
  constructor
  · rw [daysBeforeYear_eq]
    omega
  · rw [isLeap_iff]
    omega

/-- A number is found in the year whose start is before it by less than the length of the year. -/
theorem exists_date (number : Int) : ∃ year dayOfYear, dayOfYear < yearLength (isLeap year) ∧
    number = daysBeforeYear year + dayOfYear ∧ Calendar.date number =
      ⟨year, (monthAndDay 1 (monthLengths (isLeap year)) dayOfYear).1,
        (monthAndDay 1 (monthLengths (isLeap year)) dayOfYear).2⟩ := by
  obtain ⟨inCycle, inCycle_⟩ : ∃ n, n = (number % 146097).toNat := ⟨_, rfl⟩
  obtain ⟨century, century_⟩ : ∃ n, n = min 3 (inCycle / 36524) := ⟨_, rfl⟩
  obtain ⟨inCentury, inCentury_⟩ : ∃ n, n = inCycle - century * 36524 := ⟨_, rfl⟩
  obtain ⟨period, period_⟩ : ∃ n, n = inCentury / 1461 := ⟨_, rfl⟩
  obtain ⟨inPeriod, inPeriod_⟩ : ∃ n, n = inCentury % 1461 := ⟨_, rfl⟩
  obtain ⟨place, place_⟩ : ∃ n, n = min 3 (inPeriod / 365) := ⟨_, rfl⟩
  -- Only the last century of a cycle has a day more, and only the last year of a period.
  have cycle_split : number = number / 146097 * 146097 + inCycle ∧ inCycle < 146097 := by omega
  have century_split : inCycle = century * 36524 + inCentury ∧ century ≤ 3 ∧
      (inCentury < 36524 ∨ inCentury = 36524 ∧ century = 3) := by omega
  have period_split : inCentury = period * 1461 + inPeriod ∧ period ≤ 24 ∧ inPeriod < 1461 := by
    omega
  have place_split : place ≤ 3 ∧ place * 365 ≤ inPeriod ∧
      (inPeriod - place * 365 < 365 ∨ inPeriod = 1460 ∧ place = 3) := by omega
  obtain ⟨starts, leap⟩ := year_of_parts (number / 146097) century_split.2.1 period_split.2.1
    place_split.1
  refine ⟨number / 146097 * 400 + (century * 100 + period * 4 + place : Nat) + 1,
    inPeriod - place * 365, ?_, ?_, ?_⟩
  · rw [yearLength]
    split
    · omega
    · rename_i common
      rw [leap] at common
      omega
  · rw [starts]
    omega
  · have cycle_ : number.ediv 146097 = number / 146097 := rfl
    have rest_ : number.emod 146097 = number % 146097 := rfl
    simp only [Calendar.date, cycle_, rest_, ← inCycle_, ← century_, ← inCentury_, ← period_,
      ← inPeriod_, ← place_]

/-- The day that is found exists, and its number is the given one. -/
theorem date_spec (number : Int) :
    IsDay (Calendar.date number) ∧ dayNumber (Calendar.date number) = number := by
  obtain ⟨year, dayOfYear, within, rfl, found⟩ := exists_date number
  rw [← sum_monthLengths] at within
  obtain ⟨index, length, isMonth, low, high, same⟩ := monthAndDay_eq within 1
  rw [found, same]
  refine ⟨⟨index, length, Nat.add_comm 1 index, isMonth, ?_, ?_⟩, ?_⟩
  · exact Nat.le_add_left 1 _
  · dsimp only
    omega
  · rw [dayNumber, daysBeforeMonth_eq]
    simp only [Nat.add_sub_cancel_left]
    omega

end FileQuery.Calendar

import TableMapping.Proofs.Calendar.Order

/-!
# Instants

Days are counted over years and months, and seconds over days, so that what a local clock shows and
its offset from UTC tell the instant. Counting keeps the order of dates and of local clocks.
-/

namespace TableMapping

/-! ## Days -/

namespace Date

/-- The number of days from the start of year 0 to the start of a year. -/
def daysBeforeYear (year : Int) : Int :=
  365 * year + (year + 3) / 4 - (year + 99) / 100 + (year + 399) / 400

/-- The number of days of the first months of a year. -/
def daysInMonths (year : Int) : Nat → Nat
  | 0 => 0
  | months + 1 => daysInMonths year months + daysInMonth year (months + 1)

/-- The number of a day, counted from the start of year 0. -/
def dayNumber (date : Date) : Int :=
  daysBeforeYear date.year + daysInMonths date.year (date.month - 1) + date.day

theorem daysBeforeYear_succ (year : Int) :
    daysBeforeYear (year + 1) = daysBeforeYear year + daysInMonths year 12 := by
  have months : daysInMonths year 12 = if isLeapYear year then 366 else 365 := by
    simp only [daysInMonths, daysInMonth]
    cases isLeapYear year <;> rfl
  have leap : isLeapYear year = true ↔ year % 4 = 0 ∧ (year % 100 ≠ 0 ∨ year % 400 = 0) := by
    simp [isLeapYear]
  rw [months]
  simp only [daysBeforeYear, leap]
  split <;> omega

theorem daysBeforeYear_mono {year later : Int} (le : year ≤ later) :
    daysBeforeYear year ≤ daysBeforeYear later := by
  simp only [daysBeforeYear]
  omega

theorem daysInMonths_mono (year : Int) {months more : Nat} (le : months ≤ more) :
    daysInMonths year months ≤ daysInMonths year more := by
  induction le with
  | refl => exact Nat.le_refl _
  | step _ ih => exact Nat.le_trans ih (Nat.le_add_right _ _)

theorem daysInMonths_add_day_le (date : Date) :
    daysInMonths date.year (date.month - 1) + date.day ≤ daysInMonths date.year date.month := by
  obtain ⟨months, month⟩ : ∃ months, date.month = months + 1 :=
    Nat.exists_eq_add_of_le' date.month_range.1
  have day := date.day_range.2
  rw [month] at day ⊢
  rw [Nat.add_sub_cancel, daysInMonths]
  omega

theorem dayNumber_lt_of_year_lt {date other : Date} (less : date.year < other.year) :
    date.dayNumber < other.dayNumber := by
  have year := daysBeforeYear_mono (Int.add_one_le_of_lt less)
  have month := date.daysInMonths_add_day_le
  have twelve := daysInMonths_mono date.year date.month_range.2
  have day := other.day_range.1
  rw [daysBeforeYear_succ] at year
  simp only [dayNumber]
  omega

theorem dayNumber_lt_of_month_lt {date other : Date} (same : date.year = other.year)
    (less : date.month < other.month) : date.dayNumber < other.dayNumber := by
  have month := date.daysInMonths_add_day_le
  have later := daysInMonths_mono date.year (Nat.le_sub_one_of_lt less)
  have day := other.day_range.1
  simp only [dayNumber, ← same]
  omega

/-- Dates are in the order of the numbers of their days. -/
theorem compare_dayNumber (date other : Date) :
    compare date.dayNumber other.dayNumber = compare date other := by
  rw [compare_eq]
  rcases Int.lt_trichotomy date.year other.year with less | same | more
  · rw [Int.compare_eq_lt.mpr less, Int.compare_eq_lt.mpr (dayNumber_lt_of_year_lt less)]
    rfl
  · rw [same, Std.compare_self, Ordering.eq_then]
    rcases Nat.lt_trichotomy date.month other.month with less | same_month | more
    · rw [Nat.compare_eq_lt.mpr less, Int.compare_eq_lt.mpr (dayNumber_lt_of_month_lt same less)]
      rfl
    · rw [same_month, Std.compare_self, Ordering.eq_then, dayNumber, dayNumber, same, same_month]
      simp only [Nat.compare_eq_ite_lt, Int.compare_eq_ite_lt, Int.add_lt_add_iff_left,
        Int.ofNat_lt]
    · rw [Nat.compare_eq_gt.mpr more,
        Int.compare_eq_gt.mpr (dayNumber_lt_of_month_lt same.symm more)]
      rfl
  · rw [Int.compare_eq_gt.mpr more, Int.compare_eq_gt.mpr (dayNumber_lt_of_year_lt more)]
    rfl

end Date

/-! ## Seconds -/

namespace TimeOfDay

/-- The number of seconds since the start of the day. -/
def secondOfDay (time : TimeOfDay) : Nat := 60 * (60 * time.hour + time.minute) + time.second

theorem secondOfDay_lt (time : TimeOfDay) : time.secondOfDay < secondsPerDay := by
  have hour := time.hour_range
  have minute := time.minute_range
  have second := time.second_range
  simp only [secondOfDay, secondsPerDay]
  omega

theorem compare_secondOfDay (time other : TimeOfDay) :
    (compare time.secondOfDay other.secondOfDay).then
        (compare time.nanosecond other.nanosecond) = compare time other := by
  rw [secondOfDay, secondOfDay, compare_places time.second_range other.second_range,
    compare_places time.minute_range other.minute_range, compare_eq]
  simp only [Ordering.then_assoc]

end TimeOfDay

namespace DateTime

/-- The number of seconds that a clock shows, counted from the start of year 0. -/
def clockSeconds (moment : DateTime) : Int :=
  secondsPerDay * moment.date.dayNumber + moment.time.secondOfDay

/-- Clocks are in the order of the seconds and nanoseconds that they show. -/
theorem compare_clockSeconds (moment other : DateTime) :
    (compare moment.clockSeconds other.clockSeconds).then
        (compare moment.time.nanosecond other.time.nanosecond) = compare moment other := by
  have range := moment.time.secondOfDay_lt
  have range' := other.time.secondOfDay_lt
  have seconds : compare moment.clockSeconds other.clockSeconds =
      (compare moment.date.dayNumber other.date.dayNumber).then
        (compare moment.time.secondOfDay other.time.secondOfDay) := by
    simp only [clockSeconds, secondsPerDay] at range range' ⊢
    rcases Int.lt_trichotomy moment.date.dayNumber other.date.dayNumber with less | same | more
    · rw [Int.compare_eq_lt.mpr less, Ordering.lt_then, Int.compare_eq_lt]
      omega
    · rw [same, Std.compare_self, Ordering.eq_then]
      simp only [Nat.compare_eq_ite_lt, Int.compare_eq_ite_lt, Int.add_lt_add_iff_left,
        Int.ofNat_lt]
    · rw [Int.compare_eq_gt.mpr more, Ordering.gt_then, Int.compare_eq_gt]
      omega
  rw [seconds, Ordering.then_assoc, TimeOfDay.compare_secondOfDay, Date.compare_dayNumber,
    compare_eq]

end DateTime

/-! ## Moments with an offset -/

namespace OffsetDateTime

/-- The number of seconds that a clock of UTC shows at the moment, counted from the start of
year 0. -/
def utcSeconds (moment : OffsetDateTime) : Int := moment.civil.clockSeconds - moment.offset

/-- Moments with an offset are compared by their instants: the seconds of UTC, then the
nanoseconds. -/
instance : Ord OffsetDateTime where
  compare moment other := (compare moment.utcSeconds other.utcSeconds).then
    (compare moment.civil.time.nanosecond other.civil.time.nanosecond)

theorem compare_eq (moment other : OffsetDateTime) :
    compare moment other = (compare moment.utcSeconds other.utcSeconds).then
      (compare moment.civil.time.nanosecond other.civil.time.nanosecond) := rfl

instance : Std.OrientedOrd OffsetDateTime where
  eq_swap {moment other} := by
    rw [compare_eq, compare_eq, Ordering.swap_then, ← Std.OrientedOrd.eq_swap,
      ← Std.OrientedOrd.eq_swap]

theorem compare_of_offset_eq {moment other : OffsetDateTime} (same : moment.offset = other.offset) :
    compare moment other = compare moment.civil other.civil := by
  rw [compare_eq, ← DateTime.compare_clockSeconds, utcSeconds, utcSeconds, same]
  have less : moment.civil.clockSeconds - other.offset < other.civil.clockSeconds - other.offset ↔
      moment.civil.clockSeconds < other.civil.clockSeconds := by omega
  have more : other.civil.clockSeconds - other.offset < moment.civil.clockSeconds - other.offset ↔
      other.civil.clockSeconds < moment.civil.clockSeconds := by omega
  simp only [Int.compare_eq_ite_lt, less, more]

theorem Regular.plain_withClock {moment : OffsetDateTime} (regular : moment.Regular)
    {civil : DateTime} (plain_year : civil.date.HasPlainYear) (plain_time : civil.time.Plain) :
    (moment.withClock civil).Plain :=
  ⟨⟨plain_year, regular.whole_minutes⟩, plain_time⟩

theorem compare_withClock_eq_gt {moment other : OffsetDateTime} {civil civil' : DateTime}
    (behind : civil'.clockSeconds - civil.clockSeconds < other.offset - moment.offset) :
    compare (moment.withClock civil) (other.withClock civil') = .gt := by
  have later : (other.withClock civil').utcSeconds < (moment.withClock civil).utcSeconds := by
    simp only [utcSeconds, OffsetDateTime.withClock]
    omega
  rw [compare_eq, Int.compare_eq_gt.mpr later]
  rfl

/-! ## Texts of moments -/

/-- The order of the texts of offsets: those ahead of UTC come first, and the ones nearer to UTC
among those ahead of it as well as among those behind it. -/
def offsetOrder (offset other : Int) : Ordering :=
  (compare (decide (offset < 0)) (decide (other < 0))).then
    (compare offset.natAbs other.natAbs)

@[simp]
theorem offsetOrder_self (offset : Int) : offsetOrder offset offset = .eq := by
  simp [offsetOrder]

theorem compare_minuteText {minutes minutes' : Nat} (fits : minutes < 6000)
    (fits' : minutes' < 6000) :
    compare (minuteText minutes) (minuteText minutes') = compare minutes minutes' := by
  have last : compare (Decimal.padded 2 (minutes % 60)) (Decimal.padded 2 (minutes' % 60)) =
      compare (minutes % 60) (minutes' % 60) := by
    simpa using Decimal.compare_padded (by decide : 0 < 2) (by omega : minutes % 60 < 10 ^ 2)
      (by omega : minutes' % 60 < 10 ^ 2) [] []
  rw [minuteText, minuteText, Decimal.compare_padded (by decide) (by omega) (by omega),
    compare_cons_self, last, ← compare_div_mod (by decide)]

theorem compare_offsetText {offset other : Int} (range : offset.natAbs < secondsPerDay)
    (other_range : other.natAbs < secondsPerDay) (whole : offset % 60 = 0)
    (other_whole : other % 60 = 0) :
    compare (offsetText offset) (offsetText other) = offsetOrder offset other := by
  simp only [secondsPerDay] at range other_range
  have sign : compare (offsetSign offset) (offsetSign other) =
      compare (decide (offset < 0)) (decide (other < 0)) := by
    by_cases behind : offset < 0 <;> by_cases other_behind : other < 0 <;>
      simp only [offsetSign, behind, other_behind] <;> rfl
  have minutes : compare ((offset.natAbs + 30) / 60) ((other.natAbs + 30) / 60) =
      compare offset.natAbs other.natAbs := by
    have less : (offset.natAbs + 30) / 60 < (other.natAbs + 30) / 60 ↔
        offset.natAbs < other.natAbs := by omega
    have more : (other.natAbs + 30) / 60 < (offset.natAbs + 30) / 60 ↔
        other.natAbs < offset.natAbs := by omega
    simp only [Nat.compare_eq_ite_lt, less, more]
  rw [offsetText, offsetText, List.compare_cons_cons, sign,
    compare_minuteText (by omega) (by omega), minutes, offsetOrder]

theorem narrow_text (moment : OffsetDateTime) : Narrow moment.text := by
  have sign : (offsetSign moment.offset).utf8Size = 1 := by
    unfold offsetSign
    split <;> decide
  have colon : ':'.utf8Size = 1 := by decide
  simp [text, offsetText, minuteText, moment.civil.narrow_text, sign, colon]

/-- Texts of moments are in the order of what the local clocks show, and of the offsets of those
that show the same. -/
theorem byteOrder_text {moment other : OffsetDateTime} (regular : moment.Regular)
    (other_regular : other.Regular) :
    byteOrder (String.ofList moment.text) (String.ofList other.text) =
      (compare moment.civil.shown other.civil.shown).then
        (offsetOrder moment.offset other.offset) := by
  have range := moment.offset_range
  have range' := other.offset_range
  have ends (offset : Int) : SortsFirst (offsetText offset) := by
    intro next first
    obtain rfl : offsetSign offset = next := by simpa [offsetText] using first
    unfold offsetSign
    split <;> decide
  rw [byteOrder_ofList moment.narrow_text other.narrow_text, text, text,
    DateTime.compare_text regular.year_range other_regular.year_range (ends _) (ends _),
    compare_offsetText (by omega) (by omega) regular.whole_minutes other_regular.whole_minutes]

end OffsetDateTime

end TableMapping

import TableMapping.Proofs.Calendar.Forms
import TableMapping.Proofs.Text.Order

/-!
# Order of dates and times

Dates and times of day in the order in which they come. A leap second comes behind the second that
it follows and before the next one. Texts are in the order of what they show: a time that is written
with fewer digits of its fraction ends where the other one goes on with digits that are not all
zero, and so it is the earlier one.
-/

namespace TableMapping

open Decimal (Numeral)

/-! ## Orders -/

/-- Dates are compared by year, month and day. -/
instance : Ord Date where
  compare date other := (compare date.year other.year).then
    ((compare date.month other.month).then (compare date.day other.day))

/-- Times of day are compared by hour, minute, second and nanosecond. -/
instance : Ord TimeOfDay where
  compare time other := (compare time.hour other.hour).then
    ((compare time.minute other.minute).then
      ((compare time.second other.second).then (compare time.nanosecond other.nanosecond)))

/-- Local dates and times are compared by date and time. -/
instance : Ord DateTime where
  compare moment other := (compare moment.date other.date).then (compare moment.time other.time)

theorem Date.compare_eq (date other : Date) :
    compare date other = (compare date.year other.year).then
      ((compare date.month other.month).then (compare date.day other.day)) := rfl

theorem TimeOfDay.compare_eq (time other : TimeOfDay) :
    compare time other = (compare time.hour other.hour).then
      ((compare time.minute other.minute).then
        ((compare time.second other.second).then (compare time.nanosecond other.nanosecond))) :=
  rfl

theorem DateTime.compare_eq (moment other : DateTime) :
    compare moment other =
      (compare moment.date other.date).then (compare moment.time other.time) := rfl

instance : Std.LawfulEqOrd Date where
  compare_self {date} := by simp [Date.compare_eq]
  eq_of_compare {date other} same := by
    rw [Date.compare_eq] at same
    simp only [Ordering.then_eq_eq, Std.compare_eq_iff_eq] at same
    obtain ⟨year, month, day⟩ := same
    cases date
    cases other
    simp_all

instance : Std.LawfulEqOrd TimeOfDay where
  compare_self {time} := by simp [TimeOfDay.compare_eq]
  eq_of_compare {time other} same := by
    rw [TimeOfDay.compare_eq] at same
    simp only [Ordering.then_eq_eq, Std.compare_eq_iff_eq] at same
    obtain ⟨hour, minute, second, nanosecond⟩ := same
    cases time
    cases other
    simp_all

instance : Std.LawfulEqOrd DateTime where
  compare_self {moment} := by simp [DateTime.compare_eq]
  eq_of_compare {moment other} same := by
    rw [DateTime.compare_eq] at same
    simp only [Ordering.then_eq_eq, Std.compare_eq_iff_eq] at same
    obtain ⟨date, time⟩ := same
    cases moment
    cases other
    simp_all

/-! ## Dates -/

namespace Date

/-- The date has a year of four digits. -/
def HasPlainYear (date : Date) : Prop := 0 ≤ date.year ∧ date.year ≤ 9999

instance (date : Date) : Decidable date.HasPlainYear := inferInstanceAs (Decidable (_ ∧ _))

/-- Dates with years of four digits in front of texts are compared first. -/
theorem compare_text {date other : Date} (plain : date.HasPlainYear)
    (other_plain : other.HasPlainYear) (rest rest' : List Char) :
    compare (date.text ++ rest) (other.text ++ rest') =
      (compare date other).then (compare rest rest') := by
  obtain ⟨positive, below⟩ := plain
  obtain ⟨other_positive, other_below⟩ := other_plain
  have month := date.month_range
  have month' := other.month_range
  have day := date.day_le
  have day' := other.day_le
  have year : compare date.year.natAbs other.year.natAbs = compare date.year other.year := by
    have less : date.year.natAbs < other.year.natAbs ↔ date.year < other.year := by omega
    have more : other.year.natAbs < date.year.natAbs ↔ other.year < date.year := by omega
    simp only [Nat.compare_eq_ite_lt, Int.compare_eq_ite_lt, less, more]
  simp only [text, yearText_of_range ⟨positive, below⟩,
    yearText_of_range ⟨other_positive, other_below⟩, List.append_assoc, List.cons_append]
  rw [Decimal.compare_padded (by decide) (by omega) (by omega), compare_cons_self,
    Decimal.compare_padded (by decide) (by omega) (by omega), compare_cons_self,
    Decimal.compare_padded (by decide) (by omega) (by omega), year, compare_eq]
  simp only [Ordering.then_assoc]

theorem narrow_text (date : Date) : Narrow date.text := by
  have year : Narrow (yearText date.year) := by
    unfold yearText
    split
    · simp; decide
    · split
      · simp
      · simp; decide
  have hyphen : '-'.utf8Size = 1 := by decide
  simp [text, year, hyphen]

/-- Texts of dates with years of four digits are in the order of the dates. -/
theorem byteOrder_text {date other : Date} (plain : date.HasPlainYear)
    (other_plain : other.HasPlainYear) :
    byteOrder (String.ofList date.text) (String.ofList other.text) = compare date other := by
  have order := compare_text plain other_plain [] []
  simp only [List.append_nil, Std.compare_self, Ordering.then_eq] at order
  rw [byteOrder_ofList date.narrow_text other.narrow_text, order]

end Date

/-! ## Times of day -/

namespace TimeOfDay

/-- The text shows the fraction of a second in the given number of digits, if it is exact in as
many. -/
def ShowsFraction (width nanosecond : Nat) (text : List Char) : Prop :=
  (width = 0 ∧ text = []) ∨ 0 < width ∧
    ∃ digits, Numeral width (nanosecond / 10 ^ (9 - width)) digits ∧ text = '.' :: digits

/-- A fraction that is exact in fewer digits is not the same as one that is not, and the texts of
the two are in their order. -/
theorem compare_shorter {width width' nanosecond nanosecond' : Nat} {text text' : List Char}
    (shows : ShowsFraction width nanosecond text) (shows' : ShowsFraction width' nanosecond' text')
    (shorter : width < width') (short : width' ≤ 9) (range : nanosecond < 10 ^ 9)
    (whole : nanosecond % 10 ^ (9 - width) = 0) (whole' : nanosecond' % 10 ^ (9 - width') = 0)
    (goes_on : nanosecond' % 10 ^ (9 - width) ≠ 0) {rest : List Char} (ends : SortsFirst rest)
    (other : List Char) :
    nanosecond ≠ nanosecond' ∧
      compare (text ++ rest) (text' ++ other) = compare nanosecond nanosecond' := by
  refine ⟨fun same => goes_on (same ▸ whole), ?_⟩
  obtain ⟨rfl, -⟩ | ⟨-, digits', numeral', rfl⟩ := shows'
  · exact absurd shorter (Nat.not_lt_zero width)
  obtain ⟨rfl, rfl⟩ | ⟨-, digits, numeral, rfl⟩ := shows
  · obtain rfl : nanosecond = 0 := by rwa [Nat.mod_eq_of_lt range] at whole
    have positive : 0 < nanosecond' := by
      refine Nat.pos_of_ne_zero fun none => goes_on ?_
      rw [none, Nat.zero_mod]
    rw [Nat.compare_eq_lt.mpr positive]
    exact ends.compare_cons (Nat.le_refl _) _
  · have units : 10 ^ (9 - width) = 10 ^ (9 - width') * 10 ^ (width' - width) := by
      rw [← Nat.pow_add]
      congr 1
      omega
    have number : 10 ^ (9 - width) * Decimal.value digits = nanosecond := by
      rw [numeral.value_eq, Nat.mul_div_cancel' (Nat.dvd_of_mod_eq_zero whole)]
    have number' : 10 ^ (9 - width') * Decimal.value digits' = nanosecond' := by
      rw [numeral'.value_eq, Nat.mul_div_cancel' (Nat.dvd_of_mod_eq_zero whole')]
    have longer : digits'.length = digits.length + (width' - width) := by
      rw [numeral.length_eq, numeral'.length_eq]
      omega
    have nonzero : Decimal.value digits' % 10 ^ (width' - width) ≠ 0 := by
      rw [← number', units, Nat.mul_mod_mul_left] at goes_on
      exact fun zeros => goes_on (by rw [zeros, Nat.mul_zero])
    calc compare ('.' :: digits ++ rest) ('.' :: digits' ++ other)
        = compare (10 ^ (width' - width) * Decimal.value digits) (Decimal.value digits') := by
          rw [List.cons_append, List.cons_append, compare_cons_self,
            Decimal.compare_longer numeral.digits numeral'.digits longer nonzero ends]
      _ = compare nanosecond nanosecond' := by
          rw [← compare_mul_left (Nat.pow_pos (show 0 < 10 by decide)), number', ← Nat.mul_assoc,
            ← units, number]

theorem compare_same_width {width nanosecond nanosecond' : Nat} {text text' : List Char}
    (shows : ShowsFraction width nanosecond text) (shows' : ShowsFraction width nanosecond' text')
    (whole : nanosecond % 10 ^ (9 - width) = 0) (whole' : nanosecond' % 10 ^ (9 - width) = 0)
    (range : nanosecond < 10 ^ 9) (range' : nanosecond' < 10 ^ 9) (rest rest' : List Char) :
    compare (text ++ rest) (text' ++ rest') =
      (compare nanosecond nanosecond').then (compare rest rest') := by
  obtain ⟨rfl, rfl⟩ | ⟨positive, digits, numeral, rfl⟩ := shows
  · obtain ⟨-, rfl⟩ | ⟨positive, -⟩ := shows'
    · obtain rfl : nanosecond = 0 := by rwa [Nat.mod_eq_of_lt range] at whole
      obtain rfl : nanosecond' = 0 := by rwa [Nat.mod_eq_of_lt range'] at whole'
      rfl
    · exact absurd positive (Nat.lt_irrefl 0)
  · obtain ⟨rfl, -⟩ | ⟨-, digits', numeral', rfl⟩ := shows'
    · exact absurd positive (Nat.lt_irrefl 0)
    · have same : digits.length = digits'.length := by
        rw [numeral.length_eq, numeral'.length_eq]
      rw [List.cons_append, List.cons_append, compare_cons_self, compare_append same,
        Decimal.compare_value numeral.digits numeral'.digits same, numeral.value_eq,
        numeral'.value_eq, compare_div_mod (Nat.pow_pos (show 0 < 10 by decide)) nanosecond,
        whole, whole', Std.compare_self, Ordering.then_eq]

/-- Fractions of a second in front of texts that sort first are compared first. -/
theorem compare_fractionText {nanosecond nanosecond' : Nat}
    (range : nanosecond < nanosecondsPerSecond) (range' : nanosecond' < nanosecondsPerSecond)
    {rest rest' : List Char} (ends : SortsFirst rest) (ends' : SortsFirst rest') :
    compare (fractionText nanosecond ++ rest) (fractionText nanosecond' ++ rest') =
      (compare nanosecond nanosecond').then (compare rest rest') := by
  obtain ⟨width, ⟨⟨listed, whole⟩, least⟩, shows⟩ := form_fractionText range
  obtain ⟨width', ⟨⟨listed', whole'⟩, least'⟩, shows'⟩ := form_fractionText range'
  have short {width : Nat} (listed : width ∈ [0, 3, 6, 9]) : width ≤ 9 := by
    revert width
    decide
  have decided {order : Ordering} (different : order ≠ .eq) (later : Ordering) :
      order.then later = order := by
    cases order <;> first | rfl | exact absurd rfl different
  rcases Nat.lt_trichotomy width width' with shorter | rfl | longer
  · have goes_on : nanosecond' % 10 ^ (9 - width) ≠ 0 := fun exact_part =>
      Nat.not_le_of_lt shorter (least' ⟨listed, exact_part⟩)
    obtain ⟨different, order⟩ := compare_shorter shows shows' shorter (short listed') range whole
      whole' goes_on ends rest'
    rw [order, decided (mt Nat.compare_eq_eq.mp different)]
  · exact compare_same_width shows shows' whole whole' range range' rest rest'
  · have goes_on : nanosecond % 10 ^ (9 - width') ≠ 0 := fun exact_part =>
      Nat.not_le_of_lt longer (least ⟨listed', exact_part⟩)
    obtain ⟨different, order⟩ := compare_shorter shows' shows longer (short listed) range' whole'
      whole goes_on ends' rest
    rw [Std.OrientedOrd.eq_swap, order, ← Std.OrientedOrd.eq_swap,
      decided (mt Nat.compare_eq_eq.mp (Ne.symm different))]

/-- The second that a clock shows and its fraction are in the order of the second and its
nanoseconds, past one second within a leap second that ends a minute. -/
theorem compare_clock {time other : TimeOfDay} (plain : time.Plain) (other_plain : other.Plain) :
    (compare time.clockSecond other.clockSecond).then
        (compare time.clockNanosecond other.clockNanosecond) =
      (compare time.second other.second).then (compare time.nanosecond other.nanosecond) := by
  have range := time.nanosecond_range
  have range' := other.nanosecond_range
  have second := time.second_range
  have second' := other.second_range
  have unit_pos : 0 < nanosecondsPerSecond := by decide
  rw [compare_div_mod unit_pos time.nanosecond, ← Ordering.then_assoc, clockSecond_eq,
    clockSecond_eq]
  congr 1
  simp only [Plain, nanosecondsPerSecond] at range range' plain other_plain ⊢
  rcases Nat.lt_trichotomy time.second other.second with less | same | more
  · rw [Nat.compare_eq_lt.mpr less, Ordering.lt_then, Nat.compare_eq_lt]
    omega
  · rw [same, Std.compare_self, Ordering.eq_then]
    simp only [Nat.compare_eq_ite_lt, Nat.add_lt_add_iff_left]
  · rw [Nat.compare_eq_gt.mpr more, Ordering.gt_then, Nat.compare_eq_gt]
    omega

theorem compare_text_of_plain {time other : TimeOfDay} (plain : time.Plain)
    (other_plain : other.Plain) {rest rest' : List Char} (ends : SortsFirst rest)
    (ends' : SortsFirst rest') :
    compare (time.text ++ rest) (other.text ++ rest') =
      (compare time other).then (compare rest rest') := by
  have hour := time.hour_range
  have hour' := other.hour_range
  have minute := time.minute_range
  have minute' := other.minute_range
  have second := time.clockSecond_le
  have second' := other.clockSecond_le
  simp only [text, List.append_assoc, List.cons_append]
  rw [Decimal.compare_padded (by decide) (by omega) (by omega), compare_cons_self,
    Decimal.compare_padded (by decide) (by omega) (by omega), compare_cons_self,
    Decimal.compare_padded (by decide) (by omega) (by omega),
    compare_fractionText time.clockNanosecond_lt other.clockNanosecond_lt ends ends',
    ← Ordering.then_assoc (compare time.clockSecond other.clockSecond),
    compare_clock plain other_plain, compare_eq]
  simp only [Ordering.then_assoc]

theorem compare_text (time other : TimeOfDay) {rest rest' : List Char} (ends : SortsFirst rest)
    (ends' : SortsFirst rest') :
    compare (time.text ++ rest) (other.text ++ rest') =
      (compare time.shown other.shown).then (compare rest rest') := by
  rw [← time.text_shown, ← other.text_shown,
    compare_text_of_plain time.plain_shown other.plain_shown ends ends']

theorem narrow_text (time : TimeOfDay) : Narrow time.text := by
  have point : '.'.utf8Size = 1 := by decide
  have colon : ':'.utf8Size = 1 := by decide
  have fraction : Narrow (fractionText time.clockNanosecond) := by
    unfold fractionText
    split
    · exact Narrow.nil
    · split
      · simp [point]
      · split <;> simp [point]
  simp [text, fraction, colon]

/-- Texts of times of day are in the order of the times that they show. -/
theorem byteOrder_text (time other : TimeOfDay) :
    byteOrder (String.ofList time.text) (String.ofList other.text) =
      compare time.shown other.shown := by
  have order := compare_text time other SortsFirst.nil SortsFirst.nil
  simp only [List.append_nil, Std.compare_self, Ordering.then_eq] at order
  rw [byteOrder_ofList time.narrow_text other.narrow_text, order]

end TimeOfDay

/-! ## Dates with a time -/

namespace DateTime

theorem compare_text {moment other : DateTime} (plain : moment.date.HasPlainYear)
    (other_plain : other.date.HasPlainYear) {rest rest' : List Char} (ends : SortsFirst rest)
    (ends' : SortsFirst rest') :
    compare (moment.text ++ rest) (other.text ++ rest') =
      (compare moment.shown other.shown).then (compare rest rest') := by
  simp only [text, List.append_assoc, List.cons_append]
  rw [Date.compare_text plain other_plain, compare_cons_self,
    TimeOfDay.compare_text _ _ ends ends', compare_eq, Ordering.then_assoc]
  rfl

theorem narrow_text (moment : DateTime) : Narrow moment.text := by
  have mark : 'T'.utf8Size = 1 := by decide
  simp [text, moment.date.narrow_text, moment.time.narrow_text, mark]

/-- Texts of local dates and times with years of four digits are in the order of what they show. -/
theorem byteOrder_text {moment other : DateTime} (plain : moment.date.HasPlainYear)
    (other_plain : other.date.HasPlainYear) :
    byteOrder (String.ofList moment.text) (String.ofList other.text) =
      compare moment.shown other.shown := by
  have order := compare_text plain other_plain SortsFirst.nil SortsFirst.nil
  simp only [List.append_nil, Std.compare_self, Ordering.then_eq] at order
  rw [byteOrder_ofList moment.narrow_text other.narrow_text, order]

end DateTime

end TableMapping

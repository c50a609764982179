import Mathlib.Algebra.Group.Nat.Defs
import Mathlib.Order.Bounds.Defs
import TableMapping.Proofs.Calendar.Texts

/-!
# Forms of calendar texts

What the texts of dates and times look like, said without the way they are written: which numerals
and marks stand in which order, how wide each numeral is, and which number it denotes.
-/

namespace TableMapping

/-! ## Numerals -/

namespace Decimal

/-- The text is a numeral of the given width that denotes the number. -/
structure Numeral (width number : Nat) (text : List Char) : Prop where
  digits : ∀ digit ∈ text, digit.isDigit = true
  length_eq : text.length = width
  value_eq : value text = number

variable {width number : Nat}

theorem numeral_padded (positive : 0 < width) (fits : number < 10 ^ width) :
    Numeral width number (padded width number) where
  digits := fun _ => isDigit_of_mem_padded
  length_eq := length_padded positive fits
  value_eq := value_padded width number

theorem isLeast_length_padded (positive : 0 < width) :
    IsLeast {length | width ≤ length ∧ number < 10 ^ length} (padded width number).length := by
  have holds (length : Nat) (wide : width ≤ length) :
      (digits number).length ≤ length ↔ number < 10 ^ length :=
    Nat.length_toDigits_le_iff (by decide) (Nat.lt_of_lt_of_le positive wide)
  have length_eq : (padded width number).length = max width (digits number).length := by
    rw [padded, List.leftpad, List.length_append, List.length_replicate]
    omega
  rw [length_eq]
  constructor
  · exact ⟨Nat.le_max_left _ _, (holds _ (Nat.le_max_left _ _)).mp (Nat.le_max_right _ _)⟩
  · rintro length ⟨wide, fits⟩
    exact Nat.max_le.mpr ⟨wide, (holds length wide).mpr fits⟩

end Decimal

open Decimal (Numeral numeral_padded)

/-! ## Dates -/

namespace Date

/-- The sign of a year: a minus before year 0, and a plus after the last year of four digits. -/
def yearSign (year : Int) : List Char :=
  if year < 0 then ['-'] else if 9999 < year then ['+'] else []

/-- The text shows the year: its sign, then a numeral of the least width from four on that holds
the number. -/
def YearForm (year : Int) (text : List Char) : Prop :=
  ∃ width digits, IsLeast {length | 4 ≤ length ∧ year.natAbs < 10 ^ length} width ∧
    Numeral width year.natAbs digits ∧ text = yearSign year ++ digits

/-- The text shows the date: year, month and day, joined by hyphens. -/
def Form (date : Date) (text : List Char) : Prop :=
  ∃ year month day, YearForm date.year year ∧ Numeral 2 date.month month ∧
    Numeral 2 date.day day ∧ text = year ++ '-' :: month ++ '-' :: day

theorem form_yearText (year : Int) : YearForm year (yearText year) := by
  have least : IsLeast {length | 4 ≤ length ∧ year.natAbs < 10 ^ length}
      (Decimal.padded 4 year.natAbs).length := Decimal.isLeast_length_padded (by decide)
  have numeral : Numeral (Decimal.padded 4 year.natAbs).length year.natAbs
      (Decimal.padded 4 year.natAbs) :=
    ⟨fun _ => Decimal.isDigit_of_mem_padded, rfl, Decimal.value_padded 4 year.natAbs⟩
  refine ⟨_, _, least, numeral, ?_⟩
  unfold yearText yearSign
  split
  · rfl
  · split
    · rw [if_neg (by omega), List.nil_append]
    · rw [if_pos (by omega), List.singleton_append]

theorem form_text (date : Date) : date.Form date.text := by
  have month := date.month_range
  have day := date.day_le
  exact ⟨_, _, _, form_yearText date.year, numeral_padded (by decide) (by omega),
    numeral_padded (by decide) (by omega), rfl⟩

end Date

/-! ## Times of day -/

namespace TimeOfDay

/-- The text shows the fraction of a second: nothing if there is none, else a point and a numeral
of the fewest digits among three, six and nine that are exact. -/
def FractionForm (nanosecond : Nat) (text : List Char) : Prop :=
  ∃ width, IsLeast {length | length ∈ [0, 3, 6, 9] ∧ nanosecond % 10 ^ (9 - length) = 0} width ∧
    ((width = 0 ∧ text = []) ∨
      0 < width ∧ ∃ digits, Numeral width (nanosecond / 10 ^ (9 - width)) digits ∧
        text = '.' :: digits)

/-- The text shows the time: hour, minute and second, joined by colons, then the fraction of the
second. A leap second has the number after that of the second that it follows, which is 60 at the
end of a minute. -/
def Form (time : TimeOfDay) (text : List Char) : Prop :=
  ∃ hour minute second fraction, Numeral 2 time.hour hour ∧ Numeral 2 time.minute minute ∧
    (if nanosecondsPerSecond ≤ time.nanosecond then
      Numeral 2 (time.second + 1) second ∧
        FractionForm (time.nanosecond - nanosecondsPerSecond) fraction
    else
      Numeral 2 time.second second ∧ FractionForm time.nanosecond fraction) ∧
    text = hour ++ ':' :: minute ++ ':' :: second ++ fraction

theorem form_fractionText {nanosecond : Nat} (range : nanosecond < nanosecondsPerSecond) :
    FractionForm nanosecond (fractionText nanosecond) := by
  simp only [nanosecondsPerSecond] at range
  -- A width is the least exact one if the next smaller one is not exact.
  have least (width : Nat) (listed : width ∈ [0, 3, 6, 9])
      (exact_width : nanosecond % 10 ^ (9 - width) = 0)
      (inexact : ∀ length ∈ [0, 3, 6, 9], length < width →
        nanosecond % 10 ^ (9 - length) ≠ 0) :
      IsLeast {length | length ∈ [0, 3, 6, 9] ∧ nanosecond % 10 ^ (9 - length) = 0} width := by
    refine ⟨⟨listed, exact_width⟩, ?_⟩
    rintro length ⟨member, whole⟩
    exact Nat.le_of_not_lt fun shorter => inexact length member shorter whole
  unfold fractionText
  split
  · rename_i none
    exact ⟨0, least 0 (by simp) (by simp [none]) (by simp), Or.inl ⟨rfl, rfl⟩⟩
  · split
    · rename_i milli
      refine ⟨3, least 3 (by simp) milli (by simp; omega), Or.inr ⟨by decide, _, ?_, rfl⟩⟩
      exact numeral_padded (by decide) (by omega)
    · split
      · rename_i milli micro
        refine ⟨6, least 6 (by simp) micro (by simp; omega), Or.inr ⟨by decide, _, ?_, rfl⟩⟩
        exact numeral_padded (by decide) (by omega)
      · rename_i milli micro
        refine ⟨9, least 9 (by simp) (by simp; omega) (by simp; omega),
          Or.inr ⟨by decide, _, ?_, rfl⟩⟩
        simpa using numeral_padded (show 0 < 9 by decide) range

/-- A time of day is written in its form. -/
theorem form_text (time : TimeOfDay) : time.Form time.text := by
  have hour := time.hour_range
  have minute := time.minute_range
  have second := time.second_range
  have fraction := form_fractionText time.clockNanosecond_lt
  refine ⟨_, _, _, _, numeral_padded (by decide) (by omega), numeral_padded (by decide) (by omega),
    ?_, rfl⟩
  split
  · rename_i leap
    have shown : time.clockSecond = time.second + 1 := by simp [clockSecond, isLeap, leap]
    have remainder : time.clockNanosecond = time.nanosecond - nanosecondsPerSecond := by
      have range := time.nanosecond_range
      rw [clockNanosecond, Nat.mod_eq_sub_mod leap, Nat.mod_eq_of_lt (by omega)]
    rw [remainder] at fraction
    rw [shown, remainder]
    exact ⟨numeral_padded (by decide) (by omega), fraction⟩
  · rename_i ordinary
    have shown : time.clockSecond = time.second := by simp [clockSecond, isLeap, ordinary]
    have remainder : time.clockNanosecond = time.nanosecond :=
      Nat.mod_eq_of_lt (Nat.lt_of_not_le ordinary)
    rw [remainder] at fraction
    rw [shown, remainder]
    exact ⟨numeral_padded (by decide) (by omega), fraction⟩

example : String.ofList (text ⟨23, 59, 59, 1500000000, by decide, by decide, by decide,
    by decide⟩) = "23:59:60.500" := by decide

end TimeOfDay

/-! ## Dates with a time -/

/-- The text shows the date and the time, joined by a `T`. -/
def DateTime.Form (moment : DateTime) (text : List Char) : Prop :=
  ∃ date time, moment.date.Form date ∧ moment.time.Form time ∧ text = date ++ 'T' :: time

theorem DateTime.form_text (moment : DateTime) : moment.Form moment.text :=
  ⟨_, _, moment.date.form_text, moment.time.form_text, rfl⟩

/-! ## Moments with an offset -/

namespace OffsetDateTime

/-- The text shows the offset: its sign, then the hours and minutes of the whole number of minutes
that is nearest to it, joined by a colon. -/
def OffsetForm (offset : Int) (text : List Char) : Prop :=
  ∃ minutes hour minute,
    (60 * minutes ≤ offset.natAbs + 30 ∧ offset.natAbs < 60 * minutes + 30) ∧
    Numeral 2 (minutes / 60) hour ∧ Numeral 2 (minutes % 60) minute ∧
    text = (if offset < 0 then '-' else '+') :: hour ++ ':' :: minute

/-- The text shows the local date and time, then the offset. -/
def Form (moment : OffsetDateTime) (text : List Char) : Prop :=
  ∃ civil offset, moment.civil.Form civil ∧ OffsetForm moment.offset offset ∧
    text = civil ++ offset

theorem form_text (moment : OffsetDateTime) : moment.Form moment.text := by
  have range := moment.offset_range
  simp only [secondsPerDay] at range
  refine ⟨_, _, moment.civil.form_text, ?_, rfl⟩
  exact ⟨(moment.offset.natAbs + 30) / 60, _, _, by omega, numeral_padded (by decide) (by omega),
    numeral_padded (by decide) (by omega), rfl⟩

end OffsetDateTime

end TableMapping

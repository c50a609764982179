import Mathlib.Algebra.Group.Nat.Defs
import TableMapping.Calendar.OffsetDateTime

/-!
# Numbers that are read back

A reader takes a numeral from the front of a text and leaves what follows, if the numeral has as
many digits as the reader may take or something else than a digit follows.
-/

namespace TableMapping

/-! ## Numerals -/

namespace Decimal

theorem isDigit_of_mem_padded {width number : Nat} {digit : Char}
    (member : digit ∈ padded width number) : digit.isDigit = true := by
  rcases List.mem_append.mp member with filled | own
  · rw [List.eq_of_mem_replicate filled]
    decide
  · exact isDigit_of_mem_digits own

theorem padded_ne_nil (width number : Nat) : padded width number ≠ [] := by
  intro empty
  have none := (List.append_eq_nil_iff.mp empty).2
  exact Nat.toDigits_ne_nil none

theorem isDigit_of_head_padded {width number : Nat} {rest : List Char} {next : Char}
    (first : next ∈ (padded width number ++ rest).head?) : next.isDigit = true := by
  obtain ⟨digit, later, shape⟩ := List.exists_cons_of_ne_nil (padded_ne_nil width number)
  obtain rfl : digit = next := by simpa [shape] using first
  have member : digit ∈ padded width number := by simp [shape]
  exact isDigit_of_mem_padded member

theorem le_length_padded (width number : Nat) : width ≤ (padded width number).length := by
  rw [padded, List.leftpad, List.length_append, List.length_replicate]
  omega

theorem length_padded {width number : Nat} (positive : 0 < width)
    (fits : number < 10 ^ width) : (padded width number).length = width := by
  have shorter : (digits number).length ≤ width :=
    (Nat.length_toDigits_le_iff (by decide) positive).mpr fits
  rw [padded, List.leftpad, List.length_append, List.length_replicate]
  omega

end Decimal

theorem isBlank_of_isDigit {character : Char} (digit : character.isDigit = true) :
    isBlank character = false := by
  simp only [Char.isDigit, Bool.and_eq_true, decide_eq_true_eq] at digit
  have low : 48 ≤ character.toNat := digit.1
  have high : character.toNat ≤ 57 := digit.2
  simp only [isBlank, blankRanges, List.any_cons, List.any_nil, Bool.or_false,
    Bool.or_eq_false_iff, Bool.and_eq_false_iff, decide_eq_false_iff_not]
  omega

namespace CalendarReader

/-! ## What a reader takes -/

/-- The reader takes a value from the front of a text and leaves the rest. -/
def Takes {α : Type} (reader : CalendarReader α) (text : List Char) (value : α)
    (rest : List Char) : Prop :=
  reader text = .ok (value, rest)

variable {α β : Type}

theorem Takes.bind {reader : CalendarReader α} {next : α → CalendarReader β}
    {text middle rest : List Char} {value : α} {result : β}
    (first : reader.Takes text value middle) (later : (next value).Takes middle result rest) :
    (reader >>= next).Takes text result rest := by
  have continued : (reader >>= next) text = (reader text >>= fun taken => next taken.1 taken.2) :=
    rfl
  rw [Takes, continued, first]
  exact later

theorem takes_pure (value : α) (text : List Char) :
    (pure value : CalendarReader α).Takes text value text := rfl

theorem takes_lift {step : Except CalendarFault α} {value : α} (goes : step = .ok value)
    (text : List Char) : (liftM step : CalendarReader α).Takes text value text := by
  subst goes
  rfl

theorem takes_ensure {condition : Prop} [Decidable condition] (holds : condition)
    (fault : CalendarFault) (text : List Char) :
    (liftM (ensure condition fault) : CalendarReader Unit).Takes text () text :=
  takes_lift (ensure_eq_ok.mpr holds) text

theorem takes_literal (expected : Char) (rest : List Char) :
    (literal expected).Takes (expected :: rest) () rest := by
  simp [Takes, literal]

theorem takes_blanks {text : List Char} (dense : ∀ next ∈ text.head?, isBlank next = false) :
    blanks.Takes text () text := by
  cases text with
  | nil => rfl
  | cons next rest => simp [Takes, blanks, skipBlanks, dense next rfl]

theorem takes_digitRun {limit : Nat} {run rest : List Char}
    (digits : ∀ digit ∈ run, digit.isDigit = true) (present : run ≠ [])
    (fits : run.length ≤ limit)
    (ends : run.length = limit ∨ ∀ next ∈ rest.head?, next.isDigit = false) :
    (digitRun limit).Takes (run ++ rest) run rest := by
  have stops : (rest.take (limit - run.length)).takeWhile Char.isDigit = [] := by
    rcases ends with full | stops
    · simp [full]
    · cases rest with
      | nil => simp
      | cons next rest =>
          have stop := stops next rfl
          cases limit - run.length <;> simp [stop]
  have longest : ((run ++ rest).take limit).takeWhile Char.isDigit = run := by
    rw [List.take_append, List.take_of_length_le fits, List.takeWhile_append_of_pos digits,
      stops, List.append_nil]
  obtain ⟨digit, later, rfl⟩ := List.exists_cons_of_ne_nil present
  rw [List.cons_append] at longest ⊢
  simp only [Takes, digitRun, longest]
  simp

theorem takes_bounded {width low high number : Nat} (positive : 0 < width)
    (narrow : number < 10 ^ width) (inside : low ≤ number ∧ number ≤ high) (rest : List Char) :
    (bounded width low high).Takes (Decimal.padded width number ++ rest) number rest := by
  have length := Decimal.length_padded positive narrow
  have run : (digitRun width).Takes (Decimal.padded width number ++ rest)
      (Decimal.padded width number) rest :=
    takes_digitRun (fun _ => Decimal.isDigit_of_mem_padded)
      (Decimal.padded_ne_nil width number) (Nat.le_of_eq length) (Or.inl length)
  refine run.bind ?_
  rw [Decimal.value_padded]
  exact (takes_ensure inside _ rest).bind (takes_pure number rest)

theorem takes_field {low high number : Nat} (narrow : high < 100)
    (inside : low ≤ number ∧ number ≤ high) (rest : List Char) :
    (field low high).Takes (Decimal.padded 2 number ++ rest) number rest := by
  have dense : ∀ next ∈ (Decimal.padded 2 number ++ rest).head?, isBlank next = false :=
    fun _ first => isBlank_of_isDigit (Decimal.isDigit_of_head_padded first)
  have fits : number < 10 ^ 2 := by omega
  exact (takes_blanks dense).bind (takes_bounded (by decide) fits inside rest)

/-- The digits behind the point count from the tenths of a second on. -/
theorem takes_point {width number : Nat} (positive : 0 < width) (short : width ≤ 9)
    (fits : number < 10 ^ width) {rest : List Char}
    (ends : ∀ next ∈ rest.head?, next.isDigit = false) :
    fraction.Takes ('.' :: Decimal.padded width number ++ rest) (number * 10 ^ (9 - width))
      rest := by
  have length := Decimal.length_padded positive fits
  have run : (digitRun 9).Takes (Decimal.padded width number ++ rest)
      (Decimal.padded width number) rest :=
    takes_digitRun (fun _ => Decimal.isDigit_of_mem_padded) (Decimal.padded_ne_nil width number)
      (by omega) (Or.inr ends)
  have nothing_more : rest.dropWhile Char.isDigit = rest := by
    cases rest with
    | nil => rfl
    | cons next rest => simp [ends next rfl]
  have continued : fraction ('.' :: (Decimal.padded width number ++ rest)) =
      (digitRun 9 (Decimal.padded width number ++ rest) >>= fun taken =>
        pure (Decimal.value taken.1 * Nat.pow 10 (9 - taken.1.length),
          taken.2.dropWhile Char.isDigit)) := rfl
  rw [Takes, List.cons_append, continued, run]
  change Except.ok (Decimal.value (Decimal.padded width number) *
    10 ^ (9 - (Decimal.padded width number).length), rest.dropWhile Char.isDigit) = _
  rw [Decimal.value_padded, length, nothing_more]

theorem takes_fraction {nanosecond : Nat} (range : nanosecond < nanosecondsPerSecond)
    {rest : List Char} (ends : ∀ next ∈ rest.head?, next ≠ '.' ∧ next.isDigit = false) :
    fraction.Takes (TimeOfDay.fractionText nanosecond ++ rest) nanosecond rest := by
  have no_digit : ∀ next ∈ rest.head?, next.isDigit = false := fun next first =>
    (ends next first).2
  simp only [nanosecondsPerSecond] at range
  unfold TimeOfDay.fractionText
  split
  · rename_i none
    subst none
    cases rest with
    | nil => rfl
    | cons next rest =>
        have other : next = '.' → False := (ends next rfl).1
        exact fraction.eq_2 (next :: rest) fun later same => other (List.cons.inj same).1
  · -- The number of digits is the least one that is exact.
    have digits (width exponent : Nat) (positive : 0 < width) (sum : width + exponent = 9)
        (exact_part : nanosecond % 10 ^ exponent = 0) :
        fraction.Takes ('.' :: Decimal.padded width (nanosecond / 10 ^ exponent) ++ rest)
          nanosecond rest := by
      have split : 10 ^ width * 10 ^ exponent = 1000000000 := by rw [← Nat.pow_add, sum]
      have fits : nanosecond / 10 ^ exponent < 10 ^ width := by
        rw [Nat.div_lt_iff_lt_mul (Nat.pow_pos (by decide)), split]
        exact range
      have taken := takes_point positive (by omega) fits no_digit
      have whole : nanosecond / 10 ^ exponent * 10 ^ exponent = nanosecond :=
        Nat.div_mul_cancel (Nat.dvd_of_mod_eq_zero exact_part)
      have rest_width : 9 - width = exponent := by omega
      rwa [rest_width, whole] at taken
    split
    · exact digits 3 6 (by decide) rfl ‹_›
    · split
      · exact digits 6 3 (by decide) rfl ‹_›
      · have all := digits 9 0 (by decide) rfl (Nat.mod_one nanosecond)
        rwa [Nat.pow_zero, Nat.div_one] at all

theorem whole_of_takes {reader : CalendarReader α} {text : List Char} {value : α}
    (takes : reader.Takes text value []) : reader.whole text = .ok value := by
  unfold whole
  rw [takes]
  rfl

/-! ## What a reader refuses -/

/-- The reader refuses the text for the fault. -/
def Refuses (reader : CalendarReader α) (text : List Char) (fault : CalendarFault) : Prop :=
  reader text = .error fault

theorem Refuses.bind {reader : CalendarReader α} {next : α → CalendarReader β}
    {text : List Char} {fault : CalendarFault} (refused : reader.Refuses text fault) :
    (reader >>= next).Refuses text fault := by
  have continued : (reader >>= next) text = (reader text >>= fun taken => next taken.1 taken.2) :=
    rfl
  rw [Refuses, continued, refused]
  rfl

theorem Takes.bind_refuses {reader : CalendarReader α} {next : α → CalendarReader β}
    {text middle : List Char} {value : α} {fault : CalendarFault}
    (first : reader.Takes text value middle) (later : (next value).Refuses middle fault) :
    (reader >>= next).Refuses text fault := by
  have continued : (reader >>= next) text = (reader text >>= fun taken => next taken.1 taken.2) :=
    rfl
  rw [Refuses, continued, first]
  exact later

theorem whole_of_refuses {reader : CalendarReader α} {text : List Char} {fault : CalendarFault}
    (refused : reader.Refuses text fault) : reader.whole text = .error fault := by
  unfold whole
  rw [refused]
  rfl

end CalendarReader

end TableMapping

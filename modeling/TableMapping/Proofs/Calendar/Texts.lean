import TableMapping.Proofs.Calendar.Reading

/-!
# Text forms that are read back

The text form of every date is read as the date. That of a time of day is read as the time that it
shows, which is another one only within a leap second that does not end a minute: it has the text of
the second after. That of a moment with an offset is read with the offset rounded to minutes, unless
this makes a whole day, if its year has four digits. The text of any other year is refused for its
sign.
-/

namespace TableMapping

open CalendarReader (Takes whole_of_takes)

/-! ## Dates -/

namespace Date

/-- A year is read with its sign, if it has one. -/
theorem takes_signed {year : Int} {rest : List Char}
    (ends : ∀ next ∈ rest.head?, next.isDigit = false) :
    Takes signedReader (yearText year ++ rest) year rest := by
  have digits (limit : Nat) (longer : (Decimal.padded 4 year.natAbs).length ≤ limit) :
      (CalendarReader.digitRun limit).Takes (Decimal.padded 4 year.natAbs ++ rest)
        (Decimal.padded 4 year.natAbs) rest :=
    CalendarReader.takes_digitRun (fun _ => Decimal.isDigit_of_mem_padded)
      (Decimal.padded_ne_nil 4 year.natAbs) longer (Or.inr ends)
  have all := digits (Decimal.padded 4 year.natAbs ++ rest).length (by simp)
  unfold yearText
  split
  · have read : signedReader ('-' :: (Decimal.padded 4 year.natAbs ++ rest)) =
        .ok (-(Decimal.value (Decimal.padded 4 year.natAbs) : Int), rest) := by
      rw [signedReader, all]
      rfl
    have negative : -(year.natAbs : Int) = year := by omega
    rw [Takes, List.cons_append, read, Decimal.value_padded, negative]
  · have positive : (year.natAbs : Int) = year := by omega
    split
    · have fits : year.natAbs < 10 ^ 4 := by omega
      have four := digits 4 (Nat.le_of_eq (Decimal.length_padded (by decide) fits))
      have unsigned (sign : Char) (other : sign.isDigit = false) (text : List Char) :
          Decimal.padded 4 year.natAbs ++ rest = sign :: text → False := by
        intro same
        have first : sign ∈ (Decimal.padded 4 year.natAbs ++ rest).head? := by
          rw [same]
          rfl
        have digit := Decimal.isDigit_of_head_padded first
        rw [other] at digit
        cases digit
      have read : signedReader (Decimal.padded 4 year.natAbs ++ rest) =
          .ok ((Decimal.value (Decimal.padded 4 year.natAbs) : Int), rest) := by
        rw [signedReader.eq_3 _ (unsigned '-' (by decide)) (unsigned '+' (by decide)), four]
        rfl
      rw [Takes, read, Decimal.value_padded, positive]
    · have read : signedReader ('+' :: (Decimal.padded 4 year.natAbs ++ rest)) =
          .ok ((Decimal.value (Decimal.padded 4 year.natAbs) : Int), rest) := by
        rw [signedReader, all]
        rfl
      rw [Takes, List.cons_append, read, Decimal.value_padded, positive]

theorem isBlank_of_mem_yearText {year : Int} {next : Char} (member : next ∈ yearText year) :
    isBlank next = false := by
  have digit (digit : next ∈ Decimal.padded 4 year.natAbs) : isBlank next = false :=
    isBlank_of_isDigit (Decimal.isDigit_of_mem_padded digit)
  unfold yearText at member
  split at member
  · rcases List.mem_cons.mp member with rfl | later
    · decide
    · exact digit later
  · split at member
    · exact digit member
    · rcases List.mem_cons.mp member with rfl | later
      · decide
      · exact digit later

theorem yearText_of_range {year : Int} (range : 0 ≤ year ∧ year ≤ 9999) :
    yearText year = Decimal.padded 4 year.natAbs := by
  rw [yearText, if_neg (by omega), if_pos range.2]

theorem yearText_ne_nil (year : Int) : yearText year ≠ [] := by
  unfold yearText
  split
  · simp
  · split
    · exact Decimal.padded_ne_nil 4 year.natAbs
    · simp

theorem le_length_yearText (year : Int) : 4 ≤ (yearText year).length := by
  have digits := Decimal.le_length_padded 4 year.natAbs
  unfold yearText
  split
  · rw [List.length_cons]
    omega
  · split
    · exact digits
    · rw [List.length_cons]
      omega

theorem exists_sign {year : Int} (outside : ¬(0 ≤ year ∧ year ≤ 9999)) :
    ∃ sign digits, sign.isDigit = false ∧ yearText year = sign :: digits := by
  unfold yearText
  split
  · exact ⟨'-', _, by decide, rfl⟩
  · rw [if_neg (by omega)]
    exact ⟨'+', _, by decide, rfl⟩

theorem takes_year (date : Date) {rest : List Char}
    (ends : ∀ next ∈ rest.head?, next.isDigit = false) :
    Takes yearReader (yearText date.year ++ rest) date.year rest := by
  have dense : ∀ next ∈ (yearText date.year ++ rest).head?, isBlank next = false := by
    intro next first
    obtain ⟨start, later, shape⟩ := List.exists_cons_of_ne_nil (yearText_ne_nil date.year)
    obtain rfl : start = next := by simpa [shape] using first
    have member : start ∈ yearText date.year := by simp [shape]
    exact isBlank_of_mem_yearText member
  have range : -2147483648 ≤ date.year ∧ date.year ≤ 2147483647 := by
    have years := date.year_range
    omega
  exact (CalendarReader.takes_blanks dense).bind ((takes_signed ends).bind
    ((CalendarReader.takes_ensure range _ rest).bind (CalendarReader.takes_pure _ rest)))

theorem day_le (date : Date) : date.day ≤ 31 := by
  refine Nat.le_trans date.day_range.2 ?_
  unfold daysInMonth
  repeat' split
  all_goals decide

theorem takes_text (date : Date) (rest : List Char) :
    Takes fieldReader (date.text ++ rest) (date.year, date.month, date.day) rest := by
  have day_range : 1 ≤ date.day ∧ date.day ≤ 31 := ⟨date.day_range.1, date.day_le⟩
  have hyphen (rest : List Char) : ∀ next ∈ ('-' :: rest).head?, next.isDigit = false := by
    rintro next first
    obtain rfl : '-' = next := by simpa using first
    decide
  rw [text, List.append_assoc, List.append_assoc, List.cons_append, List.cons_append]
  exact (date.takes_year (hyphen _)).bind ((CalendarReader.takes_literal '-' _).bind
    ((CalendarReader.takes_field (by decide) date.month_range _).bind
      ((CalendarReader.takes_literal '-' _).bind
        ((CalendarReader.takes_field (by decide) day_range rest).bind
          (CalendarReader.takes_pure _ rest)))))

/-- Every date is read back from its text. -/
theorem read_text (date : Date) : read date.text = .ok date := by
  have whole := whole_of_takes (date.takes_text [])
  rw [List.append_nil] at whole
  rw [read, whole]
  exact expect_eq_ok.mpr (ofFields?_fields date)

end Date

/-! ## Times of day -/

namespace TimeOfDay

/-- The text form loses nothing of the time: a leap second that it lies within ends a minute. -/
def Plain (time : TimeOfDay) : Prop := nanosecondsPerSecond ≤ time.nanosecond → time.second = 59

instance (time : TimeOfDay) : Decidable time.Plain := inferInstanceAs (Decidable (_ → _))

/-- The time that the text form shows. A leap second within a minute looks like the second after the
one that it follows. -/
def shown (time : TimeOfDay) : TimeOfDay :=
  if stray : nanosecondsPerSecond ≤ time.nanosecond ∧ time.second ≠ 59 then
    { time with
      second := time.second + 1
      nanosecond := time.nanosecond - nanosecondsPerSecond
      second_range := Nat.lt_of_le_of_ne time.second_range fun last => stray.2 (Nat.succ.inj last)
      nanosecond_range := Nat.lt_of_le_of_lt (Nat.sub_le _ _) time.nanosecond_range }
  else
    time

section Shown

variable {time : TimeOfDay}

theorem shown_of_plain (plain : time.Plain) : time.shown = time :=
  dif_neg fun stray => stray.2 (plain stray.1)

theorem shown_of_not_plain (lossy : ¬time.Plain) :
    time.shown.second = time.second + 1 ∧
      time.shown.nanosecond + nanosecondsPerSecond = time.nanosecond := by
  obtain ⟨leap, within⟩ := Classical.not_imp.mp lossy
  rw [shown, dif_pos ⟨leap, within⟩]
  exact ⟨rfl, Nat.sub_add_cancel leap⟩

theorem shown_eq_self : time.shown = time ↔ time.Plain := by
  refine ⟨fun same => Decidable.byContradiction fun lossy => ?_, shown_of_plain⟩
  have second := (shown_of_not_plain lossy).1
  rw [same] at second
  omega

theorem plain_shown (time : TimeOfDay) : time.shown.Plain := by
  by_cases plain : time.Plain
  · rwa [shown_of_plain plain]
  · intro leap
    have range := time.nanosecond_range
    have nanosecond := (shown_of_not_plain plain).2
    omega

@[simp]
theorem hour_shown (time : TimeOfDay) : time.shown.hour = time.hour := by
  unfold shown
  split <;> rfl

@[simp]
theorem minute_shown (time : TimeOfDay) : time.shown.minute = time.minute := by
  unfold shown
  split <;> rfl

theorem clockSecond_eq (time : TimeOfDay) :
    time.clockSecond = time.second + time.nanosecond / nanosecondsPerSecond := by
  have range := time.nanosecond_range
  have once : time.nanosecond / nanosecondsPerSecond =
      if nanosecondsPerSecond ≤ time.nanosecond then 1 else 0 := by
    split <;> simp only [nanosecondsPerSecond] at * <;> omega
  simp only [clockSecond, isLeap, once, decide_eq_true_eq]

@[simp]
theorem clockSecond_shown (time : TimeOfDay) : time.shown.clockSecond = time.clockSecond := by
  by_cases plain : time.Plain
  · rw [shown_of_plain plain]
  · obtain ⟨second, nanosecond⟩ := shown_of_not_plain plain
    rw [clockSecond_eq, clockSecond_eq, second, ← nanosecond, Nat.add_div_right _ (by decide)]
    omega

@[simp]
theorem clockNanosecond_shown (time : TimeOfDay) :
    time.shown.clockNanosecond = time.clockNanosecond := by
  by_cases plain : time.Plain
  · rw [shown_of_plain plain]
  · rw [clockNanosecond, clockNanosecond, ← (shown_of_not_plain plain).2, Nat.add_mod_right]

theorem text_shown (time : TimeOfDay) : time.shown.text = time.text := by
  simp only [text, hour_shown, minute_shown, clockSecond_shown, clockNanosecond_shown]

theorem ofClock?_of_plain (plain : time.Plain) :
    ofClock? time.hour time.minute time.clockSecond time.clockNanosecond = some time := by
  have second_range := time.second_range
  have nanosecond_range := time.nanosecond_range
  have fields : ofFields? time.hour time.minute time.second time.nanosecond = some time :=
    dif_pos ⟨⟨time.hour_range, time.minute_range, second_range, nanosecond_range⟩, plain⟩
  by_cases leap : nanosecondsPerSecond ≤ time.nanosecond
  · have remainder : time.nanosecond % nanosecondsPerSecond + nanosecondsPerSecond =
        time.nanosecond := by
      simp only [nanosecondsPerSecond] at leap nanosecond_range ⊢
      omega
    have last : time.second + 1 = 60 := by rw [plain leap]
    simp only [ofClock?, clockSecond, clockNanosecond, isLeap, leap, decide_true, if_true,
      remainder, last]
    rw [← plain leap, fields]
  · have remainder : time.nanosecond % nanosecondsPerSecond = time.nanosecond :=
      Nat.mod_eq_of_lt (by omega)
    have ordinary : time.second ≠ 60 := by omega
    simp [ofClock?, clockSecond, clockNanosecond, isLeap, leap, remainder, ordinary, fields]

theorem ofClock?_clock (time : TimeOfDay) :
    ofClock? time.hour time.minute time.clockSecond time.clockNanosecond = some time.shown := by
  have own := ofClock?_of_plain time.plain_shown
  rwa [hour_shown, minute_shown, clockSecond_shown, clockNanosecond_shown] at own

end Shown

/-- A time within a leap second that follows the fifth second of a minute. -/
def withinMinute : TimeOfDay :=
  ⟨23, 56, 4, 1333333333, by decide, by decide, by decide, by decide⟩

/-- The time that its text form shows. -/
def afterFifthSecond : TimeOfDay :=
  ⟨23, 56, 5, 333333333, by decide, by decide, by decide, by decide⟩

theorem clockSecond_le (time : TimeOfDay) : time.clockSecond ≤ 60 := by
  have range := time.second_range
  unfold clockSecond
  split <;> omega

theorem clockNanosecond_lt (time : TimeOfDay) : time.clockNanosecond < nanosecondsPerSecond :=
  Nat.mod_lt _ (by decide)

theorem takes_text (time : TimeOfDay) {rest : List Char}
    (ends : ∀ next ∈ rest.head?, next ≠ '.' ∧ next.isDigit = false) :
    Takes fieldReader (time.text ++ rest)
      (time.hour, time.minute, time.clockSecond, time.clockNanosecond) rest := by
  have hour_range : 0 ≤ time.hour ∧ time.hour ≤ 23 :=
    ⟨Nat.zero_le _, Nat.le_of_lt_succ time.hour_range⟩
  have minute_range : 0 ≤ time.minute ∧ time.minute ≤ 59 :=
    ⟨Nat.zero_le _, Nat.le_of_lt_succ time.minute_range⟩
  have second_range : 0 ≤ time.clockSecond ∧ time.clockSecond ≤ 60 :=
    ⟨Nat.zero_le _, time.clockSecond_le⟩
  rw [text, List.append_assoc, List.append_assoc, List.append_assoc, List.cons_append,
    List.cons_append]
  exact (CalendarReader.takes_field (by decide) hour_range _).bind
    ((CalendarReader.takes_literal ':' _).bind
      ((CalendarReader.takes_field (by decide) minute_range _).bind
        ((CalendarReader.takes_literal ':' _).bind
          ((CalendarReader.takes_field (by decide) second_range _).bind
            ((CalendarReader.takes_fraction time.clockNanosecond_lt ends).bind
              (CalendarReader.takes_pure _ rest))))))

theorem isDigit_of_head_text {time : TimeOfDay} {next : Char} (first : next ∈ time.text.head?) :
    next.isDigit = true := by
  rw [text, List.append_assoc, List.append_assoc] at first
  exact Decimal.isDigit_of_head_padded first

theorem takes_whole (time : TimeOfDay) :
    Takes fieldReader time.text
      (time.hour, time.minute, time.clockSecond, time.clockNanosecond) [] := by
  have ends : ∀ next ∈ ([] : List Char).head?, next ≠ '.' ∧ next.isDigit = false := nofun
  simpa using time.takes_text ends

/-- Every time of day is read from its text as the time that it shows. -/
theorem read_text (time : TimeOfDay) : read time.text = .ok time.shown := by
  rw [read, whole_of_takes time.takes_whole]
  exact expect_eq_ok.mpr time.ofClock?_clock

end TimeOfDay

/-! ## Local dates and times -/

namespace DateTime

/-- The date and time that the text form shows. -/
def shown (moment : DateTime) : DateTime := ⟨moment.date, moment.time.shown⟩

theorem shown_eq_self {moment : DateTime} : moment.shown = moment ↔ moment.time.Plain :=
  ⟨fun same => TimeOfDay.shown_eq_self.mp (congrArg time same),
    fun plain => congrArg (mk moment.date) (TimeOfDay.shown_of_plain plain)⟩

theorem text_shown (moment : DateTime) : moment.shown.text = moment.text := by
  rw [text, text, shown, moment.time.text_shown]

theorem readWith_parts (moment : DateTime) {separator : CalendarReader Unit} {mark : Char}
    (separates : Takes separator (mark :: moment.time.text) () moment.time.text) :
    readWith separator (moment.date.text ++ mark :: moment.time.text) = .ok moment.shown := by
  have both : Takes (do
      let date ← Date.fieldReader
      separator
      let time ← TimeOfDay.fieldReader
      return (date, time)) (moment.date.text ++ mark :: moment.time.text)
      ((moment.date.year, moment.date.month, moment.date.day), moment.time.hour,
        moment.time.minute, moment.time.clockSecond, moment.time.clockNanosecond) [] :=
    (moment.date.takes_text _).bind (separates.bind
      (moment.time.takes_whole.bind (CalendarReader.takes_pure _ [])))
  have fields : ofFields? (moment.date.year, moment.date.month, moment.date.day)
      (moment.time.hour, moment.time.minute, moment.time.clockSecond,
        moment.time.clockNanosecond) = some moment.shown := by
    simp [ofFields?, TimeOfDay.ofClock?_clock, shown]
  rw [readWith, whole_of_takes both]
  exact expect_eq_ok.mpr fields

/-- Every local date and time is read from its text as what it shows. -/
theorem read_text (moment : DateTime) : read moment.text = .ok moment.shown := by
  rw [read, text, moment.readWith_parts (CalendarReader.takes_literal 'T' _)]

theorem read_blank (moment : DateTime) {mark : Char} (blank : isBlank mark = true)
    (other : mark ≠ 'T') :
    read (moment.date.text ++ mark :: moment.time.text) = .ok moment.shown := by
  have dense : ∀ next ∈ moment.time.text.head?, isBlank next = false := fun next first =>
    isBlank_of_isDigit (TimeOfDay.isDigit_of_head_text first)
  have separates : Takes CalendarReader.blanks (mark :: moment.time.text) () moment.time.text := by
    have after := CalendarReader.takes_blanks dense
    simpa [Takes, CalendarReader.blanks, skipBlanks, blank] using after
  have letter : (CalendarReader.literal 'T').Refuses (mark :: moment.time.text) .invalid := by
    simp [CalendarReader.Refuses, CalendarReader.literal, other]
  have refused : readWith (CalendarReader.literal 'T')
      (moment.date.text ++ mark :: moment.time.text) = .error .invalid := by
    rw [readWith, CalendarReader.whole_of_refuses
      ((moment.date.takes_text _).bind_refuses letter.bind)]
    rfl
  rw [read, refused, moment.readWith_parts separates]

end DateTime

/-! ## Moments with an offset -/

namespace OffsetDateTime

/-- The text form is in the format of such moments and tells the offset: the year has four digits,
and the offset is a whole number of minutes. -/
structure Regular (moment : OffsetDateTime) : Prop where
  year_range : 0 ≤ moment.civil.date.year ∧ moment.civil.date.year ≤ 9999
  whole_minutes : moment.offset % 60 = 0

/-- The text form loses nothing of the moment: what is more, its local time is plain. -/
structure Plain (moment : OffsetDateTime) : Prop extends Regular moment where
  plain_time : moment.civil.time.Plain

/-- The moment at which the clock with the same offset shows something else. -/
def withClock (moment : OffsetDateTime) (civil : DateTime) : OffsetDateTime :=
  ⟨civil, moment.offset, moment.offset_range⟩

/-- The moment that the text form of a regular moment shows. -/
def shown (moment : OffsetDateTime) : OffsetDateTime := moment.withClock moment.civil.shown

theorem text_shown (moment : OffsetDateTime) : moment.shown.text = moment.text := by
  rw [text, text, shown, withClock, moment.civil.text_shown]

theorem shown_eq_self {moment : OffsetDateTime} :
    moment.shown = moment ↔ moment.civil.time.Plain := by
  refine ⟨fun same => DateTime.shown_eq_self.mp (congrArg civil same), fun plain => ?_⟩
  rw [shown, DateTime.shown_eq_self.mpr plain]
  rfl

theorem takes_digits {run : List Char} (digits : ∀ digit ∈ run, digit.isDigit = true)
    (rest : List Char) : Takes (digitsReader run.length) (run ++ rest) run rest := by
  induction run with
  | nil => rfl
  | cons digit run ih =>
      have later := ih fun other member => digits other (List.mem_cons_of_mem digit member)
      have first := digits digit List.mem_cons_self
      rw [Takes, List.cons_append, List.length_cons, digitsReader]
      simp only [first, if_true]
      rw [later]
      rfl

theorem takes_padded {width number : Nat} (positive : 0 < width) (fits : number < 10 ^ width)
    (rest : List Char) :
    Takes (digitsReader width) (Decimal.padded width number ++ rest)
      (Decimal.padded width number) rest := by
  have digits : ∀ digit ∈ Decimal.padded width number, digit.isDigit = true := fun _ =>
    Decimal.isDigit_of_mem_padded
  have all := takes_digits digits rest
  rwa [Decimal.length_padded positive fits] at all

theorem takes_separator {allowed : List Char} {next : Char} (member : next ∈ allowed)
    (rest : List Char) : Takes (separatorReader allowed) (next :: rest) () rest := by
  simp [Takes, separatorReader, member]

theorem takes_date {date : Date} (year_range : 0 ≤ date.year ∧ date.year ≤ 9999)
    (rest : List Char) : Takes dateReader (date.text ++ rest) date rest := by
  have month := date.month_range
  have day := date.day_le
  have same_year : (date.year.natAbs : Int) = date.year := by omega
  rw [Date.text, Date.yearText_of_range year_range, List.append_assoc, List.append_assoc,
    List.cons_append, List.cons_append]
  refine (takes_padded (by decide) (by omega) _).bind
    ((takes_separator (by decide) _).bind ((takes_padded (by decide) (by omega) _).bind
      ((takes_separator (by decide) _).bind ((takes_padded (by decide) (by omega) rest).bind ?_))))
  refine CalendarReader.takes_lift (expect_eq_ok.mpr ?_) rest
  rw [Decimal.value_padded, Decimal.value_padded, Decimal.value_padded, same_year,
    Date.ofFields?_fields]

theorem takes_time (time : TimeOfDay) {rest : List Char}
    (ends : ∀ next ∈ rest.head?, next ≠ '.' ∧ next.isDigit = false) :
    Takes timeReader (time.text ++ rest) time.shown rest := by
  have hour := time.hour_range
  have minute := time.minute_range
  have second := time.clockSecond_le
  rw [TimeOfDay.text, List.append_assoc, List.append_assoc, List.append_assoc, List.cons_append,
    List.cons_append]
  refine (takes_padded (by decide) (by omega) _).bind
    ((takes_separator (by decide) _).bind ((takes_padded (by decide) (by omega) _).bind
      ((takes_separator (by decide) _).bind ((takes_padded (by decide) (by omega) _).bind
        ((CalendarReader.takes_fraction time.clockNanosecond_lt ends).bind ?_)))))
  refine CalendarReader.takes_lift (expect_eq_ok.mpr ?_) rest
  rw [Decimal.value_padded, Decimal.value_padded, Decimal.value_padded, time.ofClock?_clock]

theorem takes_offsetHour {number : Nat} (fits : number < 100) (rest : List Char) :
    Takes offsetHourReader (Decimal.padded 2 number ++ rest) number rest := by
  have length : (Decimal.padded 2 number).length = 2 := Decimal.length_padded (by decide) fits
  obtain ⟨tens, ones, shape⟩ : ∃ tens ones, Decimal.padded 2 number = [tens, ones] := by
    rcases shape : Decimal.padded 2 number with _ | ⟨tens, _ | ⟨ones, _ | ⟨third, later⟩⟩⟩ <;>
      simp_all
  have digit (character : Char) (member : character ∈ [tens, ones]) :
      character.isDigit = true := by
    rw [← shape] at member
    exact Decimal.isDigit_of_mem_padded member
  have value : Decimal.value [tens, ones] = number := by
    rw [← shape, Decimal.value_padded]
  rw [shape]
  simp [Takes, offsetHourReader, digit, value]

theorem takes_offsetClock {minutes : Nat} (fits : minutes < 6000) (rest : List Char) :
    Takes offsetClockReader (minuteText minutes ++ rest) ((minutes * 60 : Nat) : Int) rest := by
  have sum : minutes / 60 * 3600 + minutes % 60 * 60 = minutes * 60 := by omega
  have minute : Takes offsetMinuteReader (Decimal.padded 2 (minutes % 60) ++ rest)
      (minutes % 60) rest := by
    rw [Takes, offsetMinuteReader, takes_offsetHour (by omega)]
    have inside : minutes % 60 < 60 := Nat.mod_lt _ (by decide)
    simp [bind, Except.bind, ensure, inside, pure, Except.pure]
  rw [minuteText, List.append_assoc, List.cons_append]
  refine (takes_offsetHour (by omega) _).bind ((CalendarReader.takes_literal ':' _).bind
    (minute.bind ?_))
  rw [sum]
  exact CalendarReader.takes_pure _ rest

/-- The offset in seconds, rounded to the nearest minute. -/
def roundedOffset (offset : Int) : Int :=
  offset.sign * ((offset.natAbs + 30) / 60 * 60 : Nat)

theorem roundedOffset_eq_self {offset : Int} : roundedOffset offset = offset ↔ offset % 60 = 0 := by
  unfold roundedOffset
  rcases Int.lt_trichotomy offset 0 with negative | rfl | positive
  · rw [Int.sign_eq_neg_one_of_neg negative]
    omega
  · decide
  · rw [Int.sign_eq_one_of_pos positive]
    omega

theorem takes_offset {offset : Int} (range : offset.natAbs < secondsPerDay) :
    Takes offsetReader (offsetText offset) (roundedOffset offset) [] := by
  simp only [secondsPerDay] at range
  have clock := takes_offsetClock (show (offset.natAbs + 30) / 60 < 6000 by omega) []
  rw [List.append_nil] at clock
  unfold offsetText offsetSign
  split
  · rename_i behind
    have step : offsetReader ('-' :: minuteText ((offset.natAbs + 30) / 60)) =
        (offsetClockReader (minuteText ((offset.natAbs + 30) / 60)) >>= fun taken =>
          pure (-taken.1, taken.2)) := rfl
    have rounded : roundedOffset offset = -((offset.natAbs + 30) / 60 * 60 : Nat) := by
      rw [roundedOffset, Int.sign_eq_neg_one_of_neg behind, Int.neg_one_mul]
    rw [Takes, step, clock, rounded]
    rfl
  · rename_i ahead
    have step : offsetReader ('+' :: minuteText ((offset.natAbs + 30) / 60)) =
        offsetClockReader (minuteText ((offset.natAbs + 30) / 60)) := rfl
    have rounded : roundedOffset offset = ((offset.natAbs + 30) / 60 * 60 : Nat) := by
      rcases Int.lt_or_eq_of_le (Int.not_lt.mp ahead) with positive | rfl
      · rw [roundedOffset, Int.sign_eq_one_of_pos positive, Int.one_mul]
      · rfl
    rw [Takes, step, clock, rounded]

/-- The text of a moment is long enough to be looked at. -/
theorem shortestLength_le (moment : OffsetDateTime) : shortestLength ≤ moment.text.length := by
  have date : 10 ≤ moment.civil.date.text.length := by
    have year := Date.le_length_yearText moment.civil.date.year
    have month := Decimal.le_length_padded 2 moment.civil.date.month
    have day := Decimal.le_length_padded 2 moment.civil.date.day
    rw [Date.text]
    simp only [List.length_append, List.length_cons]
    omega
  have time : 8 ≤ moment.civil.time.text.length := by
    have hour := Decimal.le_length_padded 2 moment.civil.time.hour
    have minute := Decimal.le_length_padded 2 moment.civil.time.minute
    have second := Decimal.le_length_padded 2 moment.civil.time.clockSecond
    rw [TimeOfDay.text]
    simp only [List.length_append, List.length_cons]
    omega
  rw [text, DateTime.text]
  simp only [List.length_append, List.length_cons, shortestLength]
  omega

theorem read_text_eq_whole (moment : OffsetDateTime) :
    read moment.text = (do
      let (date, time, offset) ← fieldReader.whole moment.text
      expect CalendarFault.outOfRange (ofOffset? ⟨date, time⟩ offset)) := by
  have long : ¬byteLength moment.text < shortestLength := by
    have characters := shortestLength_le moment
    have bytes := length_le_byteLength moment.text
    omega
  rw [read, if_neg long]

/-- A moment whose year has four digits is read as what its local clock shows, with its offset
rounded to the nearest minute, unless this is a whole day. -/
theorem read_text_rounded {moment : OffsetDateTime}
    (four_digits : 0 ≤ moment.civil.date.year ∧ moment.civil.date.year ≤ 9999) :
    read moment.text =
      expect CalendarFault.outOfRange
        (ofOffset? moment.civil.shown (roundedOffset moment.offset)) := by
  have range : moment.offset.natAbs < secondsPerDay := by
    have range := moment.offset_range
    omega
  have ends : ∀ next ∈ (offsetText moment.offset).head?, next ≠ '.' ∧ next.isDigit = false := by
    intro next first
    obtain rfl : offsetSign moment.offset = next := by simpa [offsetText] using first
    unfold offsetSign
    split <;> decide
  have fields : Takes fieldReader moment.text
      (moment.civil.date, moment.civil.time.shown, roundedOffset moment.offset) [] := by
    rw [text, DateTime.text, List.append_assoc, List.cons_append]
    exact (takes_date four_digits _).bind ((takes_separator (by decide) _).bind
      ((takes_time moment.civil.time ends).bind ((takes_offset range).bind
        (CalendarReader.takes_pure _ []))))
  rw [read_text_eq_whole, whole_of_takes fields]
  rfl

theorem read_text_signed {moment : OffsetDateTime}
    (outside : ¬(0 ≤ moment.civil.date.year ∧ moment.civil.date.year ≤ 9999)) :
    read moment.text = .error .invalid := by
  obtain ⟨sign, digits, no_digit, year⟩ := Date.exists_sign outside
  have shape : ∃ rest, moment.text = sign :: rest := by
    simp [text, DateTime.text, Date.text, year]
  obtain ⟨rest, shape⟩ := shape
  have first : (digitsReader 4).Refuses moment.text .invalid := by
    simp [CalendarReader.Refuses, digitsReader, shape, no_digit]
  have refused : fieldReader.Refuses moment.text .invalid := first.bind.bind
  rw [read_text_eq_whole, CalendarReader.whole_of_refuses refused]
  rfl

theorem ofOffset?_eq_some {civil : DateTime} {offset : Int} {moment : OffsetDateTime} :
    ofOffset? civil offset = some moment ↔ moment.civil = civil ∧ moment.offset = offset := by
  constructor
  · intro found
    unfold ofOffset? at found
    split at found
    · cases found
      exact ⟨rfl, rfl⟩
    · cases found
  · rintro ⟨rfl, rfl⟩
    exact moment.ofOffset?_offset

/-- A regular moment is read from its text as the moment that it shows. -/
theorem read_text {moment : OffsetDateTime} (regular : moment.Regular) :
    read moment.text = .ok moment.shown := by
  have found : ofOffset? moment.civil.shown moment.offset = some moment.shown :=
    ofOffset?_eq_some.mpr ⟨rfl, rfl⟩
  rw [read_text_rounded regular.year_range, roundedOffset_eq_self.mpr regular.whole_minutes, found]
  rfl

/-- A moment is read back from its text just if the text loses nothing of it. -/
theorem read_text_eq_ok_iff {moment : OffsetDateTime} :
    read moment.text = .ok moment ↔ moment.Plain := by
  constructor
  · intro back
    by_cases four_digits : 0 ≤ moment.civil.date.year ∧ moment.civil.date.year ≤ 9999
    · rw [read_text_rounded four_digits, expect_eq_ok, ofOffset?_eq_some] at back
      obtain ⟨clock, offset⟩ := back
      exact ⟨⟨four_digits, roundedOffset_eq_self.mp offset.symm⟩,
        DateTime.shown_eq_self.mp clock.symm⟩
    · rw [read_text_signed four_digits] at back
      cases back
  · intro plain
    rw [read_text plain.toRegular, shown_eq_self.mpr plain.plain_time]

end OffsetDateTime

end TableMapping

import TableMapping.Proofs.Calendar.Forms
import TableMapping.Proofs.ValueType

/-!
# Text forms that give back their values

A database without native types for identifiers, dates and times is handed their text forms. These
look as they are documented, and every identifier and date is read from its text as it was. A time
is read as the text shows it, which is not as it was within a leap second that does not end a
minute. A moment with an offset is read as it was only if, in addition, its year has four digits and
its offset is a whole number of minutes: its text rounds the offset, and its reader takes no signs.
-/

namespace TableMapping

/-! ## UUIDs -/

namespace Uuid

/-- The text shows the UUID: its digits in lower case, with hyphens behind the eighth, the twelfth,
the sixteenth and the twentieth of them. -/
structure Form (uuid : Uuid) (text : List Char) : Prop where
  length_eq : text.length = 36
  hyphens : ∀ position ∈ [8, 13, 18, 23], text[position]? = some '-'
  digits : text.filter (· ≠ '-') = uuid.digits.map Hexadecimal.digit

theorem form_text (uuid : Uuid) : uuid.Form uuid.text := by
  have length := uuid.length_simpleText
  have no_hyphen : ∀ number : Fin 16, Hexadecimal.digit number ≠ '-' := by decide
  have kept (part : List Char) (stored : part ⊆ uuid.simpleText) :
      part.filter (· ≠ '-') = part := by
    refine List.filter_eq_self.mpr fun character member => ?_
    obtain ⟨number, -, rfl⟩ := List.mem_map.mp (stored member)
    simpa using no_hyphen number
  have group (start size : Nat) : ((uuid.simpleText.drop start).take size).filter (· ≠ '-') =
      (uuid.simpleText.drop start).take size :=
    kept _ fun _ member => List.mem_of_mem_drop (List.mem_of_mem_take member)
  have first : (uuid.simpleText.take 8).filter (· ≠ '-') = uuid.simpleText.take 8 :=
    kept _ fun _ member => List.mem_of_mem_take member
  have last : (uuid.simpleText.drop 20).filter (· ≠ '-') = uuid.simpleText.drop 20 :=
    kept _ fun _ member => List.mem_of_mem_drop member
  have hyphen (rest : List Char) : ('-' :: rest).filter (· ≠ '-') = rest.filter (· ≠ '-') :=
    List.filter_cons_of_neg (by decide)
  refine ⟨?_, ?_, ?_⟩
  · simp [text, length]
  · simp [text, List.getElem?_append, length]
  · simp only [text, List.filter_append, hyphen, first, group, last]
    exact uuid.append_groups

end Uuid

/-! ## Values read from their text forms -/

/-- Every UUID, every date, every time of day and every date with a time is written in its form, and
is read from its text at its type and at the optional one: UUIDs and dates as they were, and times
as the text shows them, alike if a space is in place of the `T` between date and time. A time is
shown as it is just if no leap second within a minute is in it. An absent value is read from its
text form at every optional type. -/
theorem texts_read_as_shown (uuid : Uuid) (date : Date) (time : TimeOfDay) (moment : DateTime)
    (optional : Bool) :
    ((∃ text, (SqlValue.uuid uuid).textForm = .text (String.ofList text) ∧ uuid.Form text) ∧
        ValueType.read ⟨.uuid, optional⟩ (SqlValue.uuid uuid).textForm = .ok (.uuid uuid)) ∧
      ((∃ text, (SqlValue.date date).textForm = .text (String.ofList text) ∧ date.Form text) ∧
        ValueType.read ⟨.date, optional⟩ (SqlValue.date date).textForm = .ok (.date date)) ∧
      ((∃ text, (SqlValue.time time).textForm = .text (String.ofList text) ∧ time.Form text) ∧
        ValueType.read ⟨.time, optional⟩ (SqlValue.time time).textForm = .ok (.time time.shown) ∧
        (ValueType.read ⟨.time, optional⟩ (SqlValue.time time).textForm = .ok (.time time) ↔
          time.Plain)) ∧
      ((∃ date_text time_text,
          (SqlValue.dateTime moment).textForm =
            .text (String.ofList (date_text ++ 'T' :: time_text)) ∧
          moment.date.Form date_text ∧ moment.time.Form time_text ∧
          ValueType.read ⟨.dateTime, optional⟩
            (.text (String.ofList (date_text ++ ' ' :: time_text))) =
              .ok (.dateTime moment.shown)) ∧
        ValueType.read ⟨.dateTime, optional⟩ (SqlValue.dateTime moment).textForm =
          .ok (.dateTime moment.shown) ∧
        (ValueType.read ⟨.dateTime, optional⟩ (SqlValue.dateTime moment).textForm =
            .ok (.dateTime moment) ↔
          moment.time.Plain)) ∧
      ∀ scalar, ValueType.read ⟨scalar, true⟩ SqlValue.null.textForm = .ok .null := by
  have read_time : ValueType.read ⟨.time, optional⟩ (SqlValue.time time).textForm =
      .ok (.time time.shown) :=
    ValueType.read_textForm rfl (by simp) (by simp) optional
  have read_moment : ValueType.read ⟨.dateTime, optional⟩ (SqlValue.dateTime moment).textForm =
      .ok (.dateTime moment.shown) :=
    ValueType.read_textForm rfl (by simp) (by simp) optional
  refine ⟨⟨⟨_, rfl, uuid.form_text⟩, ?_⟩, ⟨⟨_, rfl, date.form_text⟩, ?_⟩,
    ⟨⟨_, rfl, time.form_text⟩, read_time, ?_⟩,
    ⟨⟨_, _, rfl, moment.date.form_text, moment.time.form_text, ?_⟩, read_moment, ?_⟩,
    fun scalar => rfl⟩
  · exact ValueType.read_textForm rfl (by simp) (by simp) optional
  · exact ValueType.read_textForm rfl (by simp) (by simp) optional
  · rw [read_time, Except.ok.injEq, SqlValue.time.injEq, TimeOfDay.shown_eq_self]
  · have spaced := moment.read_blank (show isBlank ' ' = true by decide) (by decide)
    simp [ValueType.read, Scalar.read, SqlValue.isNull, spaced, Scalar.ofText]
  · rw [read_moment, Except.ok.injEq, SqlValue.dateTime.injEq, DateTime.shown_eq_self]

/-- A time within a leap second that does not end a minute is not read back, but as another time,
which has the same text. -/
theorem leap_second_misread :
    (SqlValue.time .withinMinute).textForm = .text "23:56:05.333333333" ∧
      (SqlValue.time .afterFifthSecond).textForm = .text "23:56:05.333333333" ∧
      ValueType.read ⟨.time, false⟩ (SqlValue.time .withinMinute).textForm =
        .ok (.time .afterFifthSecond) ∧
      TimeOfDay.withinMinute ≠ .afterFifthSecond := by
  have own : TimeOfDay.withinMinute.shown = .afterFifthSecond := by decide
  refine ⟨by decide, by decide, ?_, by decide⟩
  rw [ValueType.read_textForm rfl (by simp) (by simp), SqlValue.shown, own]

theorem ValueType.read_timestamp_textForm (moment : OffsetDateTime) (optional : Bool) :
    ValueType.read ⟨.timestamp, optional⟩ (SqlValue.timestamp moment).textForm =
      Scalar.ofText .timestamp (String.ofList moment.text) .timestamp .calendar
        (OffsetDateTime.read moment.text) := by
  simp [read, Scalar.read, SqlValue.textForm, SqlValue.isNull]

/-- A moment with an offset is written in its form. If its year has four digits, it is read as the
moment whose local clock is as the text shows it, but whose offset is rounded to the nearest minute,
unless this is a whole day. The text of any other year is refused for its sign. So a moment is read
as it was exactly if its year has four digits, its offset is a whole number of minutes, and its
local clock is not within a leap second that does not end a minute. -/
theorem timestamps_read_rounded (moment : OffsetDateTime) :
    ∃ text, (SqlValue.timestamp moment).textForm = .text (String.ofList text) ∧
      moment.Form text ∧
      ∀ optional,
        ValueType.read ⟨.timestamp, optional⟩ (SqlValue.timestamp moment).textForm =
          (if 0 ≤ moment.civil.date.year ∧ moment.civil.date.year ≤ 9999 then
            match OffsetDateTime.ofOffset? moment.civil.shown
                (OffsetDateTime.roundedOffset moment.offset) with
            | some other => .ok (.timestamp other)
            | none => .error (.invalid .timestamp (String.ofList text) (.calendar .outOfRange))
          else
            .error (.invalid .timestamp (String.ofList text) (.calendar .invalid))) ∧
        (ValueType.read ⟨.timestamp, optional⟩ (SqlValue.timestamp moment).textForm =
            .ok (.timestamp moment) ↔
          (0 ≤ moment.civil.date.year ∧ moment.civil.date.year ≤ 9999) ∧
            moment.offset % 60 = 0 ∧ moment.civil.time.Plain) := by
  refine ⟨_, rfl, moment.form_text, fun optional => ?_⟩
  rw [ValueType.read_timestamp_textForm]
  refine ⟨?_, fun back => ?_, ?_⟩
  · split
    · rename_i four_digits
      rw [OffsetDateTime.read_text_rounded four_digits]
      cases OffsetDateTime.ofOffset? moment.civil.shown
        (OffsetDateTime.roundedOffset moment.offset) <;> rfl
    · rename_i outside
      rw [OffsetDateTime.read_text_signed outside]
      rfl
  · have same : OffsetDateTime.read moment.text = .ok moment := by
      cases result : OffsetDateTime.read moment.text with
      | error fault => simp [result, Scalar.ofText] at back
      | ok other => simpa [result, Scalar.ofText] using back
    have plain := OffsetDateTime.read_text_eq_ok_iff.mp same
    exact ⟨plain.year_range, plain.whole_minutes, plain.plain_time⟩
  · rintro ⟨four_digits, whole_minutes, plain_time⟩
    rw [OffsetDateTime.read_text_eq_ok_iff.mpr ⟨⟨four_digits, whole_minutes⟩, plain_time⟩]
    rfl

/-- A morning, as a local clock shows it. -/
def DateTime.morning : DateTime :=
  ⟨⟨2019, 11, 4, by decide, by decide, by decide⟩,
    ⟨9, 30, 15, 0, by decide, by decide, by decide, by decide⟩⟩

/-- The first morning of the year before year 0. -/
def DateTime.longAgo : DateTime :=
  ⟨⟨-1, 1, 1, by decide, by decide, by decide⟩, DateTime.morning.time⟩

/-- A clock that is half a minute ahead of UTC seems to be a whole minute ahead of it, one that is a
second short of a day ahead is not read back, and neither is a year before year 0. -/
theorem timestamps_not_read_back :
    ValueType.read ⟨.timestamp, false⟩
        (SqlValue.timestamp ⟨DateTime.morning, 30, by decide⟩).textForm =
      .ok (.timestamp ⟨DateTime.morning, 60, by decide⟩) ∧
    ValueType.read ⟨.timestamp, false⟩
        (SqlValue.timestamp ⟨DateTime.morning, 86399, by decide⟩).textForm =
      .error (.invalid .timestamp "2019-11-04T09:30:15+24:00" (.calendar .outOfRange)) ∧
    ValueType.read ⟨.timestamp, false⟩
        (SqlValue.timestamp ⟨DateTime.longAgo, 0, by decide⟩).textForm =
      .error (.invalid .timestamp "-0001-01-01T09:30:15+00:00" (.calendar .invalid)) := by
  have shown : DateTime.morning.shown = DateTime.morning := DateTime.shown_eq_self.mpr (by decide)
  refine ⟨?_, ?_, ?_⟩
  · have rounded : OffsetDateTime.ofOffset? DateTime.morning (OffsetDateTime.roundedOffset 30) =
        some ⟨DateTime.morning, 60, by decide⟩ := by decide
    rw [ValueType.read_timestamp_textForm, OffsetDateTime.read_text_rounded (by decide), shown,
      rounded]
    rfl
  · have text : String.ofList (OffsetDateTime.text ⟨DateTime.morning, 86399, by decide⟩) =
        "2019-11-04T09:30:15+24:00" := by decide
    have beyond : OffsetDateTime.ofOffset? DateTime.morning
        (OffsetDateTime.roundedOffset 86399) = none := by decide
    rw [ValueType.read_timestamp_textForm, OffsetDateTime.read_text_rounded (by decide), text,
      shown, beyond]
    rfl
  · have text : String.ofList (OffsetDateTime.text ⟨DateTime.longAgo, 0, by decide⟩) =
        "-0001-01-01T09:30:15+00:00" := by decide
    rw [ValueType.read_timestamp_textForm, OffsetDateTime.read_text_signed (by decide), text]
    rfl

end TableMapping

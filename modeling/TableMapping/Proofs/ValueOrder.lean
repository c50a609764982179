import TableMapping.Proofs.Calendar.Instant
import TableMapping.Proofs.TextForms

/-!
# Order of values

Values of one kind have an order: texts by their bytes, UUIDs by their digits, dates and times as
they come, and moments with an offset by their instants. In a database that is handed text forms,
the texts of UUIDs and dates are in the order of the values, and those of times of day and local
dates and times in the order of what they show. The text of a moment with an offset says what the
local clock shows, so it is in the order of the local clocks.
-/

namespace TableMapping

/-! ## UUIDs -/

/-- UUIDs are compared as numbers, the most significant digit first. -/
instance : Ord Uuid where
  compare uuid other := compare uuid.digits other.digits

namespace Uuid

instance : Std.LawfulEqOrd Uuid where
  compare_self {uuid} := (Std.compare_self : compare uuid.digits uuid.digits = .eq)
  eq_of_compare {uuid other} same := by
    have digits : uuid.digits = other.digits := Std.LawfulEqOrd.eq_of_compare same
    cases uuid
    cases other
    simp_all

theorem compare_text (uuid other : Uuid) : compare uuid.text other.text = compare uuid other := by
  have digit : ∀ number number' : Fin 16,
      compare (Hexadecimal.digit number) (Hexadecimal.digit number') = compare number number' := by
    decide
  have simple : compare uuid.simpleText other.simpleText = compare uuid other :=
    compare_map fun number _ number' _ => digit number number'
  have length := uuid.length_simpleText
  have length' := other.length_simpleText
  rw [← simple, ← uuid.append_groups, ← other.append_groups]
  simp only [text, List.append_assoc, List.cons_append]
  repeat rw [compare_append (by simp [length, length']), compare_append (by simp [length, length']),
    compare_cons_self]

theorem narrow_text (uuid : Uuid) : Narrow uuid.text := fun _ => utf8Size_of_mem_text

theorem byteOrder_text (uuid other : Uuid) :
    byteOrder (String.ofList uuid.text) (String.ofList other.text) = compare uuid other := by
  rw [byteOrder_ofList uuid.narrow_text other.narrow_text, compare_text]

end Uuid

/-! ## Values -/

namespace SqlValue

/-- The order of two present values of one kind. -/
def order? : SqlValue → SqlValue → Option Ordering
  | bool value, bool other => some (compare value other)
  | int value, int other => some (compare value other)
  | text value, text other => some (byteOrder value other)
  | uuid value, uuid other => some (compare value other)
  | date value, date other => some (compare value other)
  | time value, time other => some (compare value other)
  | dateTime value, dateTime other => some (compare value other)
  | timestamp value, timestamp other => some (compare value other)
  | _, _ => none

/-- The value keeps its place among the values of its kind in a database that is handed text forms:
no date has a year outside of 0 to 9999, no time lies within a leap second that does not end a
minute, and the value is no moment with an offset. -/
def SortsAsText : SqlValue → Prop
  | date value => value.HasPlainYear
  | time value => value.Plain
  | dateTime value => value.date.HasPlainYear ∧ value.time.Plain
  | timestamp _ => False
  | null | bool _ | int _ | text _ | uuid _ => True

variable {value other : SqlValue}

theorem order?_self (present : value ≠ null) : value.order? value = some .eq := by
  cases value with
  | null => exact absurd rfl present
  | timestamp moment => simp [order?]
  | text text => simp [order?, byteOrder_eq_eq]
  | bool | int | uuid | date | time | dateTime => simp [order?]

theorem order?_eq_eq (same : value.kind = other.kind) (sorts : value.SortsAsText)
    (present : value ≠ null) : value.order? other = some .eq ↔ value = other := by
  cases value <;> cases other <;> cases same
  case null.null.refl => exact absurd rfl present
  case timestamp.timestamp.refl => exact sorts.elim
  case text.text.refl first second => simp [order?, byteOrder_eq_eq]
  all_goals simp [order?]

/-- The database is handed values in their order. -/
theorem order?_bind (dialect : Dialect) (same : value.kind = other.kind)
    (sorts : value.SortsAsText) (other_sorts : other.SortsAsText) :
    (dialect.bind value).order? (dialect.bind other) = value.order? other := by
  cases textual : dialect.storesTemporalAsText with
  | false => simp [Dialect.bind, textual]
  | true =>
      cases value <;> cases other <;> cases same
      case timestamp.timestamp.refl => exact sorts.elim
      case bool.bool.refl first second =>
        cases first <;> cases second <;> simp [Dialect.bind, textual, order?] <;> decide
      case uuid.uuid.refl uuid uuid' =>
        simp [Dialect.bind, textual, textForm, order?, Uuid.byteOrder_text]
      case date.date.refl date date' =>
        simp [Dialect.bind, textual, textForm, order?, Date.byteOrder_text sorts other_sorts]
      case time.time.refl time time' =>
        simp [Dialect.bind, textual, textForm, order?, TimeOfDay.byteOrder_text,
          TimeOfDay.shown_of_plain sorts, TimeOfDay.shown_of_plain other_sorts]
      case dateTime.dateTime.refl moment moment' =>
        simp [Dialect.bind, textual, textForm, order?,
          DateTime.byteOrder_text sorts.1 other_sorts.1, DateTime.shown_eq_self.mpr sorts.2,
          DateTime.shown_eq_self.mpr other_sorts.2]
      all_goals simp [Dialect.bind, textual, textForm, order?]

end SqlValue

/-- The database is handed texts for the two values, which are in the given order byte by byte. -/
def Dialect.TextsCompare (dialect : Dialect) (value other : SqlValue) (order : Ordering) : Prop :=
  ∃ text text', dialect.bind value = .text text ∧ dialect.bind other = .text text' ∧
    byteOrder text text' = order

theorem Dialect.TextsCompare.unique {dialect : Dialect} {value other : SqlValue}
    {order order' : Ordering} (first : dialect.TextsCompare value other order)
    (second : dialect.TextsCompare value other order') : order = order' := by
  obtain ⟨text, text', bound, bound', rfl⟩ := first
  obtain ⟨again, again', same, same', rfl⟩ := second
  obtain rfl := SqlValue.text.inj (bound.symm.trans same)
  obtain rfl := SqlValue.text.inj (bound'.symm.trans same')
  rfl

theorem Dialect.textsCompare_iff_of_bind_eq {dialect : Dialect} {value other : SqlValue}
    {order : Ordering} {text : String} (bound : dialect.bind value = .text text)
    (same : dialect.bind other = .text text) :
    dialect.TextsCompare value other order ↔ order = .eq := by
  have level : dialect.TextsCompare value other .eq :=
    ⟨text, text, bound, same, byteOrder_eq_eq.mpr rfl⟩
  exact ⟨fun compared => compared.unique level, fun same_order => same_order ▸ level⟩

/-! ## Times -/

/-- A time keeps its place among those whose texts lose nothing only if its own text loses nothing,
either: else it has the text of the later time that it shows. -/
theorem TimeOfDay.keepsPlace_iff (time : TimeOfDay) :
    (∀ other : TimeOfDay, other.Plain →
      Dialect.sqlite.TextsCompare (.time time) (.time other) (compare time other)) ↔
      time.Plain := by
  constructor
  · intro keeps
    have bound : Dialect.sqlite.bind (.time time.shown) = .text (String.ofList time.text) :=
      SqlValue.textForm_shown (.time time)
    have level := (Dialect.textsCompare_iff_of_bind_eq rfl bound).mp
      (keeps time.shown time.plain_shown)
    exact shown_eq_self.mp (Std.LawfulEqOrd.eq_of_compare level).symm
  · intro plain other plain'
    have order := byteOrder_text time other
    rw [shown_of_plain plain, shown_of_plain plain'] at order
    exact ⟨_, _, rfl, rfl, order⟩

theorem DateTime.keepsPlace_iff {moment : DateTime} (plain_year : moment.date.HasPlainYear) :
    (∀ other : DateTime, other.date.HasPlainYear → other.time.Plain →
      Dialect.sqlite.TextsCompare (.dateTime moment) (.dateTime other) (compare moment other)) ↔
      moment.time.Plain := by
  constructor
  · intro keeps
    have bound : Dialect.sqlite.bind (.dateTime moment.shown) = .text (String.ofList moment.text) :=
      SqlValue.textForm_shown (.dateTime moment)
    have level := (Dialect.textsCompare_iff_of_bind_eq rfl bound).mp
      (keeps moment.shown plain_year moment.time.plain_shown)
    exact shown_eq_self.mp (Std.LawfulEqOrd.eq_of_compare level).symm
  · intro plain other year plain'
    have order := byteOrder_text plain_year year
    rw [shown_eq_self.mpr plain, shown_eq_self.mpr plain'] at order
    exact ⟨_, _, rfl, rfl, order⟩

/-! ## Moments with an offset -/

/-- Moments are handed over as texts in the order of what the local clocks show. -/
theorem OffsetDateTime.textsCompare {moment other : OffsetDateTime} (regular : moment.Regular)
    (other_regular : other.Regular) :
    Dialect.sqlite.TextsCompare (.timestamp moment) (.timestamp other)
      ((compare moment.civil.shown other.civil.shown).then
        (offsetOrder moment.offset other.offset)) :=
  ⟨_, _, rfl, rfl, byteOrder_text regular other_regular⟩

/-- The second after the morning. -/
def DateTime.laterMorning : DateTime :=
  ⟨DateTime.morning.date, { DateTime.morning.time with second := 16, second_range := by decide }⟩

theorem OffsetDateTime.textsCompare_of_offset_eq {moment other : OffsetDateTime}
    (plain : moment.Plain) (other_plain : other.Plain) (same : moment.offset = other.offset) :
    Dialect.sqlite.TextsCompare (.timestamp moment) (.timestamp other) (compare moment other) := by
  have texts := textsCompare plain.toRegular other_plain.toRegular
  rw [DateTime.shown_eq_self.mpr plain.plain_time,
    DateTime.shown_eq_self.mpr other_plain.plain_time, same, offsetOrder_self,
    Ordering.then_eq] at texts
  rwa [compare_of_offset_eq same]

/-- If all moments with two offsets are handed over in the order of their instants, the offsets are
one: a second more on the clock that is farther ahead is less than what it is ahead by. -/
theorem OffsetDateTime.offset_eq_of_textsCompare {moment other : OffsetDateTime}
    (regular : moment.Regular) (other_regular : other.Regular)
    (agrees : ∀ civil civil' : DateTime, civil.date.HasPlainYear → civil'.date.HasPlainYear →
      civil.time.Plain → civil'.time.Plain →
      Dialect.sqlite.TextsCompare (.timestamp (moment.withClock civil))
        (.timestamp (other.withClock civil'))
        (compare (moment.withClock civil) (other.withClock civil'))) :
    moment.offset = other.offset := by
  have morning : DateTime.morning.date.HasPlainYear := by decide
  have later : DateTime.laterMorning.date.HasPlainYear := by decide
  have morning_plain : DateTime.morning.time.Plain := by decide
  have later_plain : DateTime.laterMorning.time.Plain := by decide
  have step : DateTime.laterMorning.clockSeconds - DateTime.morning.clockSeconds = 1 := by decide
  have minutes := regular.whole_minutes
  have other_minutes := other_regular.whole_minutes
  have clocks (civil civil' : DateTime) (year : civil.date.HasPlainYear)
      (year' : civil'.date.HasPlainYear) (plain : civil.time.Plain) (plain' : civil'.time.Plain) :=
    textsCompare (regular.plain_withClock year plain).toRegular
      (other_regular.plain_withClock year' plain').toRegular
  rcases Int.lt_trichotomy moment.offset other.offset with ahead | same | behind
  · have texts := clocks _ _ morning later morning_plain later_plain
    have order := (agrees _ _ morning later morning_plain later_plain).unique texts
    rw [compare_withClock_eq_gt (by omega)] at order
    cases order
  · exact same
  · have texts := clocks _ _ later morning later_plain morning_plain
    have order := (agrees _ _ later morning later_plain morning_plain).unique texts
    rw [Std.OrientedOrd.eq_swap, compare_withClock_eq_gt (by omega)] at order
    cases order

/-- A moment keeps its place among those with its offset whose texts lose nothing only if its own
text loses nothing, either: else it has the text of the later moment that it shows. -/
theorem OffsetDateTime.keepsPlace_iff {moment : OffsetDateTime} (regular : moment.Regular) :
    (∀ civil : DateTime, civil.date.HasPlainYear → civil.time.Plain →
      Dialect.sqlite.TextsCompare (.timestamp moment) (.timestamp (moment.withClock civil))
        (compare moment (moment.withClock civil))) ↔ moment.civil.time.Plain := by
  constructor
  · intro keeps
    have one_offset : moment.offset = (moment.withClock moment.civil.shown).offset := rfl
    have bound : Dialect.sqlite.bind (.timestamp moment.shown) =
        .text (String.ofList moment.text) := SqlValue.textForm_shown (.timestamp moment)
    have level := (Dialect.textsCompare_iff_of_bind_eq rfl bound).mp
      (keeps moment.civil.shown regular.year_range moment.civil.time.plain_shown)
    rw [compare_of_offset_eq one_offset] at level
    exact DateTime.shown_eq_self.mp (Std.LawfulEqOrd.eq_of_compare level).symm
  · intro plain civil year plain'
    exact textsCompare_of_offset_eq ⟨regular, plain⟩ (regular.plain_withClock year plain') rfl

/-- A database that is handed text forms compares moments with an offset by what their local clocks
show, and by their offsets if these show the same. So it compares the instants if they are in the
same order, as those of moments with one offset are, apart from moments within a leap second that
does not end a minute. Of any two different offsets, there are moments that it puts into another
order than their instants. -/
theorem timestamps_in_clock_order {moment other : OffsetDateTime} (regular : moment.Regular)
    (other_regular : other.Regular) :
    Dialect.sqlite.TextsCompare (.timestamp moment) (.timestamp other)
        ((compare moment.civil.shown other.civil.shown).then
          (OffsetDateTime.offsetOrder moment.offset other.offset)) ∧
      (Dialect.sqlite.TextsCompare (.timestamp moment) (.timestamp other)
          (compare moment other) ↔
        compare moment other = (compare moment.civil.shown other.civil.shown).then
          (OffsetDateTime.offsetOrder moment.offset other.offset)) ∧
      ((∀ civil civil' : DateTime, civil.date.HasPlainYear → civil'.date.HasPlainYear →
          civil.time.Plain → civil'.time.Plain →
          Dialect.sqlite.TextsCompare (.timestamp (moment.withClock civil))
            (.timestamp (other.withClock civil'))
            (compare (moment.withClock civil) (other.withClock civil'))) ↔
        moment.offset = other.offset) ∧
      ((∀ civil : DateTime, civil.date.HasPlainYear → civil.time.Plain →
          Dialect.sqlite.TextsCompare (.timestamp moment) (.timestamp (moment.withClock civil))
            (compare moment (moment.withClock civil))) ↔
        moment.civil.time.Plain) := by
  have clocks := OffsetDateTime.textsCompare regular other_regular
  refine ⟨clocks, ⟨fun instants => instants.unique clocks, fun same => same ▸ clocks⟩,
    ⟨OffsetDateTime.offset_eq_of_textsCompare regular other_regular, ?_⟩,
    OffsetDateTime.keepsPlace_iff regular⟩
  intro same civil civil' year year' plain plain'
  exact OffsetDateTime.textsCompare_of_offset_eq (regular.plain_withClock year plain)
    (other_regular.plain_withClock year' plain') same

namespace OffsetDateTime

/-- A morning at UTC. -/
def utcMorning : OffsetDateTime := ⟨DateTime.morning, 0, by decide⟩

/-- The same moment two hours ahead of UTC, where it is getting on for noon. -/
def easternNoon : OffsetDateTime :=
  ⟨⟨DateTime.morning.date, { DateTime.morning.time with hour := 11, hour_range := by decide }⟩,
    7200, by decide⟩

/-- The moment two hours before, apart from a second, when that clock shows the morning. -/
def easternMorning : OffsetDateTime := easternNoon.withClock DateTime.laterMorning

/-- The text of a morning at UTC comes before that of the same moment two hours ahead of it, and not
all moments with these two offsets are in the order of their instants. -/
theorem mornings_in_clock_order :
    Dialect.sqlite.TextsCompare (.timestamp utcMorning) (.timestamp easternNoon) .lt ∧
      ¬∀ civil civil' : DateTime, civil.date.HasPlainYear → civil'.date.HasPlainYear →
        civil.time.Plain → civil'.time.Plain →
        Dialect.sqlite.TextsCompare (.timestamp (utcMorning.withClock civil))
          (.timestamp (easternNoon.withClock civil'))
          (compare (utcMorning.withClock civil) (easternNoon.withClock civil')) := by
  have utc : utcMorning.Regular := ⟨by decide, by decide⟩
  have eastern : easternNoon.Regular := ⟨by decide, by decide⟩
  constructor
  · exact (timestamps_in_clock_order utc eastern).1
  · intro agrees
    have same := (timestamps_in_clock_order utc eastern).2.2.1.mp agrees
    exact absurd same (by decide)

/-- One instant has different texts at UTC and two hours ahead of it, and an earlier instant has the
greater text. -/
theorem timestamps_misplaced :
    (compare utcMorning easternNoon = .eq ∧
      Dialect.sqlite.TextsCompare (.timestamp utcMorning) (.timestamp easternNoon) .lt) ∧
    (compare easternMorning utcMorning = .lt ∧
      Dialect.sqlite.TextsCompare (.timestamp easternMorning) (.timestamp utcMorning) .gt) := by
  have utc : utcMorning.Regular := ⟨by decide, by decide⟩
  have noon : easternNoon.Regular := ⟨by decide, by decide⟩
  have morning : easternMorning.Regular := ⟨by decide, by decide⟩
  exact ⟨⟨by decide, textsCompare utc noon⟩, ⟨by decide, textsCompare morning utc⟩⟩

end OffsetDateTime

end TableMapping

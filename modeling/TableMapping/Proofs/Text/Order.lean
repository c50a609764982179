import Mathlib.Algebra.Group.Nat.Defs
import TableMapping.Proofs.Calendar.Reading

/-!
# Order of texts

Texts are compared byte by byte, and a text comes before what it is the beginning of. Of characters
that take one byte, the bytes are in the order of the characters. Numerals of one width are in the
order of the numbers that they denote.
-/

namespace TableMapping

/-- The order of texts by their bytes in UTF-8. -/
def byteOrder (first second : String) : Ordering :=
  compare first.toUTF8.data.toList second.toUTF8.data.toList

/-! ## Lists in lexicographic order -/

section Lexicographic

variable {α : Type} [Ord α]

theorem compare_append {first second : List α} (same : first.length = second.length)
    (rest other : List α) :
    compare (first ++ rest) (second ++ other) =
      (compare first second).then (compare rest other) := by
  induction first generalizing second with
  | nil =>
      obtain rfl := List.length_eq_zero_iff.mp same.symm
      rfl
  | cons head tail ih =>
      obtain ⟨head', tail', rfl⟩ := List.exists_cons_of_length_eq_add_one same.symm
      have shorter : tail.length = tail'.length := by simpa using same
      simp only [List.cons_append, List.compare_cons_cons, ih shorter, Ordering.then_assoc]

theorem compare_append_left [Std.ReflOrd α] (common rest other : List α) :
    compare (common ++ rest) (common ++ other) = compare rest other := by
  rw [compare_append rfl, Std.ReflOrd.compare_self]
  rfl

theorem compare_cons_self [Std.ReflOrd α] (head : α) (rest other : List α) :
    compare (head :: rest) (head :: other) = compare rest other :=
  compare_append_left [head] rest other

theorem compare_map {β : Type} [Ord β] {change : α → β} {first second : List α}
    (kept : ∀ item ∈ first, ∀ other ∈ second,
      compare (change item) (change other) = compare item other) :
    compare (first.map change) (second.map change) = compare first second := by
  induction first generalizing second with
  | nil => cases second <;> rfl
  | cons head tail ih =>
      cases second with
      | nil => rfl
      | cons head' tail' =>
          have later : ∀ item ∈ tail, ∀ other ∈ tail',
              compare (change item) (change other) = compare item other :=
            fun item member other listed => kept item (List.mem_cons_of_mem head member) other
              (List.mem_cons_of_mem head' listed)
          rw [List.map_cons, List.map_cons, List.compare_cons_cons, List.compare_cons_cons,
            kept head List.mem_cons_self head' List.mem_cons_self, ih later]

end Lexicographic

/-! ## Bytes -/

/-- Every character takes one byte. -/
def Narrow (text : List Char) : Prop := ∀ character ∈ text, character.utf8Size = 1

namespace Narrow

@[simp]
theorem nil : Narrow [] := List.forall_mem_nil _

@[simp]
theorem cons_iff {character : Char} {rest : List Char} :
    Narrow (character :: rest) ↔ character.utf8Size = 1 ∧ Narrow rest :=
  List.forall_mem_cons

@[simp]
theorem append_iff {first second : List Char} :
    Narrow (first ++ second) ↔ Narrow first ∧ Narrow second :=
  List.forall_mem_append

end Narrow

theorem utf8Encode_of_narrow {text : List Char} (narrow : Narrow text) :
    text.utf8Encode.data.toList = text.map fun character => character.val.toUInt8 := by
  induction text with
  | nil => rfl
  | cons character rest ih =>
      have later := ih fun other member => narrow other (List.mem_cons_of_mem character member)
      have single := narrow character List.mem_cons_self
      rw [List.utf8Encode_cons, List.map_cons, ← later]
      simp [List.utf8Encode_singleton, String.utf8EncodeChar_eq_singleton single]

theorem compare_toNat (first second : Char) :
    compare first.toNat second.toNat = compare first second := by
  have less : first.toNat < second.toNat ↔ first < second := Iff.rfl
  have same : first.toNat = second.toNat ↔ first = second := Char.toNat_inj
  simp only [compare, compareOfLessAndEq, less, same]

theorem compare_toUInt8 {first second : Char} (first_narrow : first.utf8Size = 1)
    (second_narrow : second.utf8Size = 1) :
    compare first.val.toUInt8 second.val.toUInt8 = compare first second := by
  have byte {character : Char} (narrow : character.utf8Size = 1) :
      character.val.toUInt8.toNat = character.toNat := by
    have low : character.val.toNat ≤ 127 := Char.utf8Size_eq_one_iff.mp narrow
    rw [UInt32.toNat_toUInt8]
    exact Nat.mod_eq_of_lt (by omega)
  have first_byte := byte first_narrow
  have second_byte := byte second_narrow
  rw [← compare_toNat, ← first_byte, ← second_byte]
  simp only [compare, compareOfLessAndEq, UInt8.lt_iff_toNat_lt, ← UInt8.toNat_inj]

/-- Texts of one-byte characters are in the order of their characters. -/
theorem byteOrder_ofList {first second : List Char} (first_narrow : Narrow first)
    (second_narrow : Narrow second) :
    byteOrder (String.ofList first) (String.ofList second) = compare first second := by
  have bytes {text : List Char} (narrow : Narrow text) :
      (String.ofList text).toUTF8.data.toList =
        text.map fun character => character.val.toUInt8 := by
    rw [← utf8Encode_of_narrow narrow, ← String.toByteArray_ofList]
    rfl
  rw [byteOrder, bytes first_narrow, bytes second_narrow]
  exact compare_map fun character member other listed =>
    compare_toUInt8 (first_narrow character member) (second_narrow other listed)

theorem byteOrder_eq_eq {first second : String} :
    byteOrder first second = .eq ↔ first = second := by
  rw [byteOrder, Std.compare_eq_iff_eq]
  constructor
  · intro same
    have bytes : first.toByteArray = second.toByteArray :=
      congrArg ByteArray.mk (Array.toList_inj.mp same)
    exact String.toByteArray_inj.mp bytes
  · rintro rfl
    rfl

/-! ## What stands behind numerals -/

/-- A text that is empty or begins with a mark before the point, and so before all digits. -/
def SortsFirst (text : List Char) : Prop := ∀ next ∈ text.head?, next < '.'

theorem SortsFirst.nil : SortsFirst [] := by simp [SortsFirst]

theorem SortsFirst.compare_cons {text : List Char} (first : SortsFirst text) {mark : Char}
    (late : '.' ≤ mark) (rest : List Char) : compare text (mark :: rest) = .lt := by
  cases text with
  | nil => rfl
  | cons next later =>
      have early : next.toNat < mark.toNat := Nat.lt_of_lt_of_le (first next rfl) late
      rw [List.compare_cons_cons, ← compare_toNat, Nat.compare_eq_lt.mpr early]
      rfl

/-! ## Numerals -/

theorem compare_places {unit high low high' low' : Nat} (low_lt : low < unit)
    (low_lt' : low' < unit) :
    compare (unit * high + low) (unit * high' + low') =
      (compare high high').then (compare low low') := by
  rcases Nat.lt_trichotomy high high' with less | rfl | greater
  · have step := Nat.mul_le_mul_left unit (Nat.succ_le_of_lt less)
    rw [Nat.mul_succ] at step
    rw [Nat.compare_eq_lt.mpr less, Ordering.lt_then, Nat.compare_eq_lt]
    omega
  · rw [Std.compare_self, Ordering.eq_then]
    simp only [Nat.compare_eq_ite_lt, Nat.add_lt_add_iff_left]
  · have step := Nat.mul_le_mul_left unit (Nat.succ_le_of_lt greater)
    rw [Nat.mul_succ] at step
    rw [Nat.compare_eq_gt.mpr greater, Ordering.gt_then, Nat.compare_eq_gt]
    omega

theorem compare_mul_left {unit : Nat} (positive : 0 < unit) (first second : Nat) :
    compare (unit * first) (unit * second) = compare first second := by
  have places : compare (unit * first + 0) (unit * second + 0) =
      (compare first second).then (compare 0 0) := compare_places positive positive
  rwa [Std.compare_self, Ordering.then_eq] at places

theorem compare_div_mod {unit : Nat} (positive : 0 < unit) (first second : Nat) :
    compare first second =
      (compare (first / unit) (second / unit)).then (compare (first % unit) (second % unit)) := by
  rw [← compare_places (Nat.mod_lt first positive) (Nat.mod_lt second positive),
    Nat.div_add_mod, Nat.div_add_mod]

namespace Decimal

theorem value_cons (digit : Char) (run : List Char) :
    value (digit :: run) = 10 ^ run.length * (digit.toNat - 48) + value run := by
  rw [value, Nat.ofDigitChars_cons, Nat.ofDigitChars_eq_ofDigitChars_zero, Nat.mul_zero,
    Nat.zero_add]
  rfl

theorem value_append (first second : List Char) :
    value (first ++ second) = 10 ^ second.length * value first + value second := by
  rw [value, Nat.ofDigitChars_append, Nat.ofDigitChars_eq_ofDigitChars_zero]
  rfl

theorem toNat_of_isDigit {digit : Char} (decimal : digit.isDigit = true) :
    48 ≤ digit.toNat ∧ digit.toNat ≤ 57 := by
  simp only [Char.isDigit, Bool.and_eq_true, decide_eq_true_eq] at decimal
  exact decimal

@[simp]
theorem narrow_padded (width number : Nat) : Narrow (padded width number) := by
  intro digit member
  have range := toNat_of_isDigit (isDigit_of_mem_padded member)
  have low : digit.toNat ≤ 127 := by omega
  exact Char.utf8Size_eq_one_iff.mpr low

theorem value_lt {run : List Char} (decimal : ∀ digit ∈ run, digit.isDigit = true) :
    value run < 10 ^ run.length := by
  induction run with
  | nil => decide
  | cons digit rest ih =>
      have later := ih fun other member => decimal other (List.mem_cons_of_mem digit member)
      have range := toNat_of_isDigit (decimal digit List.mem_cons_self)
      have step := Nat.mul_le_mul_left (10 ^ rest.length) (show digit.toNat - 48 ≤ 9 by omega)
      rw [value_cons, List.length_cons, Nat.pow_succ]
      omega

/-- Runs of as many digits are in the order of the numbers that they denote. -/
theorem compare_value {first second : List Char}
    (first_decimal : ∀ digit ∈ first, digit.isDigit = true)
    (second_decimal : ∀ digit ∈ second, digit.isDigit = true)
    (same : first.length = second.length) :
    compare first second = compare (value first) (value second) := by
  induction first generalizing second with
  | nil =>
      obtain rfl := List.length_eq_zero_iff.mp same.symm
      rfl
  | cons digit rest ih =>
      obtain ⟨digit', rest', rfl⟩ := List.exists_cons_of_length_eq_add_one same.symm
      have later : ∀ other ∈ rest, other.isDigit = true :=
        fun other member => first_decimal other (List.mem_cons_of_mem digit member)
      have later' : ∀ other ∈ rest', other.isDigit = true :=
        fun other member => second_decimal other (List.mem_cons_of_mem digit' member)
      have shorter : rest.length = rest'.length := by simpa using same
      have low := value_lt later
      have low' := value_lt later'
      have heads : compare (digit.toNat - 48) (digit'.toNat - 48) = compare digit digit' := by
        have range := toNat_of_isDigit (first_decimal digit List.mem_cons_self)
        have range' := toNat_of_isDigit (second_decimal digit' List.mem_cons_self)
        have less : digit.toNat - 48 < digit'.toNat - 48 ↔ digit.toNat < digit'.toNat := by omega
        have more : digit'.toNat - 48 < digit.toNat - 48 ↔ digit'.toNat < digit.toNat := by omega
        simp only [← compare_toNat, Nat.compare_eq_ite_lt, less, more]
      rw [← shorter] at low'
      rw [List.compare_cons_cons, ih later later' shorter, value_cons, value_cons, ← shorter,
        compare_places low low', heads]

/-- A run that ends where a longer one goes on is compared as if zeros were behind it, if the longer
one does not just go on with zeros. -/
theorem compare_longer {first second rest : List Char} {more : Nat}
    (first_decimal : ∀ digit ∈ first, digit.isDigit = true)
    (second_decimal : ∀ digit ∈ second, digit.isDigit = true)
    (longer : second.length = first.length + more) (goes_on : value second % 10 ^ more ≠ 0)
    (ends : SortsFirst rest) (other : List Char) :
    compare (first ++ rest) (second ++ other) =
      compare (10 ^ more * value first) (value second) := by
  have parts := List.take_append_drop first.length second
  have digits_before : ∀ digit ∈ second.take first.length, digit.isDigit = true :=
    fun digit member => second_decimal digit (List.mem_of_mem_take member)
  have digits_behind : ∀ digit ∈ second.drop first.length, digit.isDigit = true :=
    fun digit member => second_decimal digit (List.mem_of_mem_drop member)
  have width : first.length = (second.take first.length).length := by
    rw [List.length_take]
    omega
  have width_behind : (second.drop first.length).length = more := by
    rw [List.length_drop]
    omega
  have behind_lt := width_behind ▸ value_lt digits_behind
  have value_second : value second =
      10 ^ more * value (second.take first.length) + value (second.drop first.length) := by
    rw [← width_behind, ← value_append, parts]
  have behind_pos : 0 < value (second.drop first.length) := by
    rw [value_second, Nat.mul_add_mod, Nat.mod_eq_of_lt behind_lt] at goes_on
    omega
  have present : second.drop first.length ≠ [] := by
    intro none
    rw [none] at behind_pos
    exact Nat.lt_irrefl 0 behind_pos
  obtain ⟨digit, later, shape⟩ := List.exists_cons_of_ne_nil present
  have later_than_ends : compare rest (second.drop first.length ++ other) = .lt := by
    rw [shape, List.cons_append]
    refine ends.compare_cons ?_ (later ++ other)
    have range := toNat_of_isDigit (digits_behind digit (shape ▸ List.mem_cons_self))
    exact Nat.le_trans (by decide) range.1
  have unit_pos : 0 < 10 ^ more := Nat.pow_pos (by decide)
  calc compare (first ++ rest) (second ++ other)
      = compare (first ++ rest) (second.take first.length ++
          (second.drop first.length ++ other)) := by rw [← List.append_assoc, parts]
    _ = (compare (value first) (value (second.take first.length))).then .lt := by
        rw [compare_append width, compare_value first_decimal digits_before width,
          later_than_ends]
    _ = compare (10 ^ more * value first + 0) (value second) := by
        rw [value_second, compare_places unit_pos behind_lt, Nat.compare_eq_lt.mpr behind_pos]

theorem compare_padded {width first second : Nat} (positive : 0 < width)
    (first_fits : first < 10 ^ width) (second_fits : second < 10 ^ width)
    (rest other : List Char) :
    compare (padded width first ++ rest) (padded width second ++ other) =
      (compare first second).then (compare rest other) := by
  have same : (padded width first).length = (padded width second).length := by
    rw [length_padded positive first_fits, length_padded positive second_fits]
  rw [compare_append same, compare_value (fun _ => isDigit_of_mem_padded)
    (fun _ => isDigit_of_mem_padded) same, value_padded, value_padded]

end Decimal

end TableMapping

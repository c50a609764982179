/-!
# Numerals

Numbers written in decimal digits, and the number that a run of digits denotes. A padded numeral
denotes the number it was written for, however many zeros stand in front. A hexadecimal digit is
written in lower case, and read in either case.
-/

namespace TableMapping

/-! ## Decimal numerals -/

namespace Decimal

/-- The decimal digits of a number, most significant first, without leading zeros. -/
def digits (number : Nat) : List Char := Nat.toDigits 10 number

/-- The decimal digits of a number, filled up with leading zeros to at least `width`. -/
def padded (width number : Nat) : List Char := (digits number).leftpad width '0'

/-- An integer in decimal: a minus sign before a negative one, then its absolute value. -/
def signed (number : Int) : List Char :=
  if number < 0 then '-' :: digits number.natAbs else digits number.natAbs

/-- The number that a run of decimal digits denotes. -/
def value (run : List Char) : Nat := Nat.ofDigitChars 10 run 0

@[simp]
theorem value_digits (number : Nat) : value (digits number) = number :=
  Nat.ofDigitChars_ten_toDigits

theorem digits_injective : Function.Injective digits :=
  Function.LeftInverse.injective value_digits

theorem isDigit_of_mem_digits {number : Nat} {digit : Char} (member : digit ∈ digits number) :
    digit.isDigit = true :=
  Nat.isDigit_of_mem_toDigits (by decide) (by decide) member

theorem toList_toString (number : Nat) : (toString number).toList = digits number := by
  rw [Nat.toString_eq_ofList_toDigits, String.toList_ofList]
  rfl

@[simp]
theorem value_padded (width number : Nat) : value (padded width number) = number := by
  simp [value, padded, digits, List.leftpad, Nat.ofDigitChars_append,
    Nat.ofDigitChars_replicate_zero]

end Decimal

/-! ## Hexadecimal digits -/

namespace Hexadecimal

/-- The lower-case digit of a number below sixteen. -/
def digit (number : Fin 16) : Char := Nat.digitChar number

/-- The number that a hexadecimal digit of either case denotes. -/
def value? (character : Char) : Option (Fin 16) :=
  (List.finRange 16).find? fun number => digit number = character.toLower

@[simp]
theorem value?_digit (number : Fin 16) : value? (digit number) = some number := by
  revert number
  decide

end Hexadecimal

end TableMapping

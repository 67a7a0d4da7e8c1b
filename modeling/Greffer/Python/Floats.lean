import Mathlib.Algebra.Order.Ring.Rat
import Greffer.Python.Value

/-! # Floats, as far as they are compared

A float is a rational, an infinity or a NaN.  Every comparison with a NaN is false, and `max` and
`min` keep their first argument unless the second compares as better, so that what they make of a
NaN depends on where it stands.
-/
namespace Greffer

/-- A float. -/
inductive PyFloat where
  | fin (q : Rat)
  | inf (negative : Bool)
  | nan
  deriving DecidableEq

namespace PyFloat

/-- `a < b`. -/
def lt : PyFloat → PyFloat → Bool
  | .fin p, .fin q => decide (p < q)
  | .fin _, .inf negative => !negative
  | .inf negative, .fin _ => negative
  | .inf negative, .inf negative' => negative && !negative'
  | _, _ => false

/-- `max(a, b)`. -/
def max (a b : PyFloat) : PyFloat := if lt a b then b else a

/-- `min(a, b)`. -/
def min (a b : PyFloat) : PyFloat := if lt b a then b else a

/-- The least magnitude that is rounded to an infinity. -/
def overflowBound : Rat := 2 ^ 1024 - 2 ^ 970

/-- A decimal number as a float, but for rounding. -/
def ofRat (q : Rat) : PyFloat :=
  if overflowBound ≤ |q| then .inf (decide (q < 0)) else .fin q

/-- The value of decimal digits. -/
def digitsValue (digits : List Char) : Nat :=
  digits.foldl (fun n c => 10 * n + (c.toNat - '0'.toNat)) 0

/-- Digits that may be left out. -/
def someDigits : List Char → Option (List Char)
  | [] => some []
  | cs => PyValue.decimalDigits cs

/-- The digits before and after the point, of which there has to be one. -/
def mantissa (cs : List Char) : Option (List Char × List Char) := do
  let whole ← someDigits (cs.takeWhile (· ≠ '.'))
  let fraction ← someDigits ((cs.dropWhile (· ≠ '.')).drop 1)
  if whole.isEmpty && fraction.isEmpty then none else some (whole, fraction)

/-- What stands behind an `e`. -/
def exponent : List Char → Option Int
  | [] => some 0
  | _ :: '-' :: cs => (PyValue.decimalDigits cs).map fun ds => -(digitsValue ds : Int)
  | _ :: '+' :: cs => (PyValue.decimalDigits cs).map fun ds => (digitsValue ds : Int)
  | _ :: cs => (PyValue.decimalDigits cs).map fun ds => (digitsValue ds : Int)

/-- A number without its sign. -/
def unsigned (cs : List Char) : Option Rat := do
  let isE (c : Char) : Bool := c == 'e' || c == 'E'
  let (whole, fraction) ← mantissa (cs.takeWhile fun c => !isE c)
  let e ← exponent (cs.dropWhile fun c => !isE c)
  some (digitsValue (whole ++ fraction) * (10 : Rat) ^ (e - fraction.length))

/-- `float(s)` for an ASCII text. -/
def ofStr (s : String) : Option PyFloat :=
  let magnitude (negative : Bool) (cs : List Char) : Option PyFloat :=
    match String.ofList (cs.map Char.toLower) with
    | "inf" | "infinity" => some (.inf negative)
    | "nan" => some .nan
    | _ => (unsigned cs).map fun q => ofRat (if negative then -q else q)
  match PyValue.strip s.toList with
  | '-' :: cs => magnitude true cs
  | '+' :: cs => magnitude false cs
  | cs => magnitude false cs

/-- A value above a finite bound is cut to it; only a NaN gets through. -/
theorem min_fin (a : PyFloat) (bound : Rat) :
    a.min (.fin bound) = .nan ∧ a = .nan ∨ a.min (.fin bound) = .inf true ∨
      ∃ q, a.min (.fin bound) = .fin q ∧ q ≤ bound ∧ (q = bound ∨ a = .fin q) := by
  cases a with
  | fin q =>
    refine .inr (.inr ?_)
    by_cases h : bound < q
    · exact ⟨bound, by simp [PyFloat.min, lt, h], le_rfl, .inl rfl⟩
    · exact ⟨q, by simp [PyFloat.min, lt, h], not_lt.mp h, .inr rfl⟩
  | inf negative =>
    cases negative with
    | true => exact .inr (.inl rfl)
    | false => exact .inr (.inr ⟨bound, rfl, le_rfl, .inl rfl⟩)
  | nan => exact .inl ⟨rfl, rfl⟩

/-- What is at least a finite value, where it is finite. -/
theorem le_of_max_fin {a : PyFloat} {p q : Rat} (h : a.max (.fin p) = .fin q) : p ≤ q := by
  cases a with
  | fin r =>
    by_cases hlt : r < p
    · rw [PyFloat.max, lt, if_pos (decide_eq_true hlt)] at h
      cases h
      exact le_rfl
    · rw [PyFloat.max, lt, if_neg (by simpa using hlt)] at h
      cases h
      exact not_lt.mp hlt
  | inf negative =>
    cases negative with
    | true =>
      cases h
      exact le_rfl
    | false => cases h
  | nan => cases h

end PyFloat

end Greffer

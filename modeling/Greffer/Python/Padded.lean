import Mathlib.Data.List.GetD
import Mathlib.Data.List.Lex
import Mathlib.Order.PiLex

/-! # Tuples of different lengths

A tuple is compared with a longer one as if it went on with a default for ever.  `extended` is that
infinite sequence, in the lexicographic order, which is linear: whatever is compared through it is
ordered, and equal up to defaults at the end.
-/
namespace Greffer

variable {α : Type}

/-- The tuple, which goes on with the default for ever. -/
def extended (default : α) (v : List α) : Lex (ℕ → α) := toLex fun i => v.getD i default

theorem extended_cons_lt_iff [LinearOrder α] {default a b : α} {v w : List α} :
    extended default (a :: v) < extended default (b :: w) ↔
      a < b ∨ a = b ∧ extended default v < extended default w := by
  constructor
  · rintro ⟨i, hbefore, hlt⟩
    cases i with
    | zero => exact .inl hlt
    | succ i =>
      refine .inr ⟨hbefore 0 (Nat.succ_pos i), i, fun j hj => ?_, hlt⟩
      exact hbefore (j + 1) (Nat.succ_lt_succ hj)
  · rintro (hlt | ⟨rfl, i, hbefore, hlt⟩)
    · exact ⟨0, fun j hj => absurd hj (Nat.not_lt_zero j), hlt⟩
    · refine ⟨i + 1, fun j hj => ?_, hlt⟩
      cases j with
      | zero => rfl
      | succ j => exact hbefore j (Nat.lt_of_succ_lt_succ hj)

/-- Tuples are ordered up to defaults at the end. -/
instance extended_isStrictWeakOrder [LinearOrder α] (default : α) :
    IsStrictWeakOrder (List α) (Function.onFun (· < ·) (extended default)) :=
  have : IsStrictWeakOrder (Lex (ℕ → α)) (· < ·) := isStrictWeakOrder_of_isOrderConnected
  inferInstance

/-- **Tuples of one length** are ordered as the sequences are. -/
theorem lt_iff_extended_lt [LinearOrder α] (default : α) {v w : List α} (h : v.length = w.length) :
    v < w ↔ extended default v < extended default w := by
  induction v generalizing w with
  | nil =>
    obtain rfl := List.length_eq_zero_iff.mp h.symm
    exact iff_of_false (lt_irrefl _) (lt_irrefl _)
  | cons a v ih =>
    cases w with
    | nil => cases h
    | cons b w =>
      rw [extended_cons_lt_iff, List.cons_lt_cons_iff, ih (Nat.succ.inj h)]

/-- Defaults at the end make no difference. -/
theorem extended_append_replicate (default : α) (v : List α) (n : ℕ) :
    extended default (v ++ List.replicate n default) = extended default v := by
  refine congrArg toLex (funext fun i => ?_)
  by_cases hi : i < v.length
  · rw [List.getD_append _ _ _ _ hi]
  · have hdefault : v.getD i default = default := List.getD_eq_default _ _ (by omega)
    rw [List.getD_append_right _ _ _ _ (by omega), hdefault]
    by_cases hin : i - v.length < n
    · exact List.getD_replicate _ hin
    · exact List.getD_eq_default _ _ (by rw [List.length_replicate]; omega)

end Greffer

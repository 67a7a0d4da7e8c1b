import Greffer.Effects.Routine

/-! # Code that raises nothing of its own

`m.Within ok P` says two things of an action: it only makes the calls `ok`, and what it raises
satisfies `P` as long as what its calls raise does.  Code that neither raises nor hides anything is
within every `P`; for it **the frame rule also speaks of what is raised**.
-/
namespace Effects

variable {Call : Type} {Ans : Call → Type} {E W α β : Type}

/-- The calls of a program are `ok`, and while their exceptions satisfy `P`, so does its own. -/
def Prog.Within (ok : Call → Prop) (P : E → Prop) : Prog (Raises Ans E) (Except E α) → Prop
  | .pure r => ∀ e, r = .error e → P e
  | .call c next => ok c ∧ ∀ r, (∀ e, r = .error e → P e) → (next r).Within ok P

namespace Action

/-- `Prog.Within`, of an action. -/
def Within (ok : Call → Prop) (P : E → Prop) (m : Action Ans E α) : Prop := Prog.Within ok P m

variable {ok ok' : Call → Prop} {P : E → Prop} {m : Action Ans E α}

theorem within_pure (a : α) : (pure a : Action Ans E α).Within ok P := fun _ h => by cases h

theorem within_raise {e : E} (h : P e) : (raise e : Action Ans E α).Within ok P := by
  intro e' he
  cases he
  exact h

theorem within_perform {c : Call} (h : ok c) : (perform c : Action Ans E (Ans c)).Within ok P :=
  ⟨h, fun _ hr => hr⟩

theorem Within.mono (h : m.Within ok P) (himp : ∀ c, ok c → ok' c) : m.Within ok' P := by
  unfold Within at h ⊢
  induction m with
  | pure r => exact h
  | call c next ih => exact ⟨himp c h.1, fun r hr => ih r (h.2 r hr)⟩

/-- Two programs in a row, where the second also follows an exception of the first. -/
theorem Within.progBind {f : Except E α → Prog (Raises Ans E) (Except E β)}
    (h : m.Within ok P) (hok : ∀ a, (f (.ok a)).Within ok P)
    (herror : ∀ e, P e → (f (.error e)).Within ok P) : Prog.Within ok P (Prog.bind m f) := by
  unfold Within at h
  induction m with
  | pure r =>
    cases r with
    | ok a => exact hok a
    | error e => exact herror e (h e rfl)
  | call c next ih => exact ⟨h.1, fun r hr => ih r (h.2 r hr)⟩

theorem Within.bind {f : α → Action Ans E β} (h : m.Within ok P)
    (hf : ∀ a, (f a).Within ok P) : (m >>= f).Within ok P :=
  h.progBind hf fun _ he => within_raise he

theorem Within.tryExcept {h : E → Action Ans E α} (hm : m.Within ok P)
    (hh : ∀ e, P e → (h e).Within ok P) : (m.tryExcept h).Within ok P :=
  hm.progBind (fun a => within_pure a) hh

/-- What is within every `P` only makes the calls `ok`. -/
theorem Within.uses (h : m.Within ok fun _ => True) : m.Uses ok := by
  unfold Within at h
  induction m with
  | pure r => trivial
  | call c next ih => exact ⟨h.1, fun r => ih r (h.2 r fun _ _ => trivial)⟩

/-- **The frame rule.**  What every call preserves, the action preserves, and it raises nothing that
the calls do not. -/
theorem Within.always {M : Machine (Raises Ans E) W} {I : W → Prop} {w : W} (h : m.Within ok P)
    (hserve : ∀ w c r w', ok c → I w → M.serve w c r w' → I w' ∧ ∀ e, r = .error e → P e)
    (hw : I w) : m.Always M I (fun r _ => ∀ e, r = .error e → P e) w := by
  unfold Within at h
  induction m generalizing w with
  | pure r => exact ⟨hw, h⟩
  | call c next ih =>
    refine ⟨hw, fun r w' hs => ?_⟩
    obtain ⟨hI, hr⟩ := hserve w c r w' h.1 hw hs
    exact ih r (h.2 r hr) hI

end Action

end Effects

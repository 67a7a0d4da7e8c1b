import Greffer.Effects.Routine

/-! # Calls implemented by programs

A program over one set of calls becomes a program over another set once each of
its calls is implemented there.  The two levels are connected twice.  Read as
runs, a returning run of the lower program is a run of the upper one against the
machine whose one step is a whole run of an implementation (`through`).  Read as
texts, **implementing commutes with every construct** of the two monads, so that
the lower program is judged along the text of the upper one, each call replaced by
what implements it.

A machine can also keep a record of its steps beside its world (`recording`),
which changes none of its runs.
-/
namespace Effects

variable {Call Call' : Type} {Reply : Call → Type} {Reply' : Call' → Type} {W α β : Type}

namespace Prog
variable {impl : (c : Call) → Prog Reply' (Reply c)}

/-- The program, each of its calls replaced by what implements it. -/
def implement (impl : (c : Call) → Prog Reply' (Reply c)) : Prog Reply α → Prog Reply' α
  | .pure a => .pure a
  | .call c next => (impl c).bind fun r => (next r).implement impl

@[simp] theorem implement_pure (a : α) : (Prog.pure a : Prog Reply α).implement impl = .pure a := rfl

@[simp] theorem bind_pure (p : Prog Reply α) : p.bind .pure = p := by
  induction p with
  | pure a => rfl
  | call c next ih => exact congrArg (Prog.call c) (funext ih)

theorem implement_bind (p : Prog Reply α) (f : α → Prog Reply β) :
    (p.bind f).implement impl = (p.implement impl).bind fun a => (f a).implement impl := by
  induction p with
  | pure a => rfl
  | call c next ih =>
    rw [call_bind, implement, implement, bind_assoc]
    exact congrArg _ (funext ih)

theorem implement_self (p : Prog Reply α) : p.implement perform = p := by
  induction p with
  | pure a => rfl
  | call c next ih => exact congrArg (Prog.call c) (funext ih)

/-- **Implementing twice** is implementing by implementations. -/
theorem implement_implement {Call'' : Type} {Reply'' : Call'' → Type}
    {impl' : (c : Call') → Prog Reply'' (Reply' c)} (p : Prog Reply α) :
    (p.implement impl).implement impl' = p.implement fun c => (impl c).implement impl' := by
  induction p with
  | pure a => rfl
  | call c next ih =>
    rw [implement, implement_bind, implement]
    exact congrArg _ (funext ih)

end Prog

/-! ## Along the text -/

section Text
variable {Ans : Call → Type} {Ans' : Call' → Type} {E L : Type}
  {impl : (c : Call) → Action Ans' E (Ans c)}

namespace Action

/-- `Prog.implement`, of an action. -/
def implement (impl : (c : Call) → Action Ans' E (Ans c)) (m : Action Ans E α) : Action Ans' E α :=
  Prog.implement impl m

@[simp] theorem implement_pure (a : α) :
    (pure a : Action Ans E α).implement impl = pure a := rfl

@[simp] theorem implement_raise (e : E) :
    (raise e : Action Ans E α).implement impl = raise e := rfl

@[simp] theorem implement_perform (c : Call) :
    (perform c : Action Ans E (Ans c)).implement impl = impl c := Prog.bind_pure _

@[simp] theorem implement_bind (m : Action Ans E α) (f : α → Action Ans E β) :
    (m >>= f).implement impl = m.implement impl >>= fun a => (f a).implement impl := by
  refine (Prog.implement_bind _ _).trans (congrArg _ (funext ?_))
  rintro (e | a) <;> rfl

@[simp] theorem implement_tryExcept (m : Action Ans E α) (h : E → Action Ans E α) :
    (m.tryExcept h).implement impl = (m.implement impl).tryExcept fun e => (h e).implement impl := by
  refine (Prog.implement_bind _ _).trans (congrArg _ (funext ?_))
  rintro (e | a) <;> rfl

@[simp] theorem implement_ite (c : Prop) [Decidable c] (m m' : Action Ans E α) :
    (if c then m else m').implement impl =
      if c then m.implement impl else m'.implement impl := apply_ite _ _ _ _

end Action

namespace Routine

/-- `Prog.implement`, of a routine. -/
def implement (impl : (c : Call) → Action Ans' E (Ans c)) (m : Routine Ans E L α) :
    Routine Ans' E L α := fun l => Prog.implement impl (m l)

@[simp] theorem implement_pure (a : α) :
    (pure a : Routine Ans E L α).implement impl = pure a := rfl

@[simp] theorem implement_locals :
    (locals : Routine Ans E L L).implement impl = locals := rfl

@[simp] theorem implement_assign (f : L → L) :
    (assign f : Routine Ans E L Unit).implement impl = assign f := rfl

@[simp] theorem implement_monadLift (m : Action Ans E α) :
    (monadLift m : Routine Ans E L α).implement impl = monadLift (m.implement impl) :=
  funext fun _ => Prog.implement_bind _ _

@[simp] theorem implement_bind (m : Routine Ans E L α) (f : α → Routine Ans E L β) :
    (m >>= f).implement impl = m.implement impl >>= fun a => (f a).implement impl := by
  funext l
  refine (Prog.implement_bind _ _).trans (congrArg _ (funext ?_))
  rintro ⟨e | a, l⟩ <;> rfl

@[simp] theorem implement_tryExcept (m : Routine Ans E L α) (h : E → Routine Ans E L α) :
    (m.tryExcept h).implement impl = (m.implement impl).tryExcept fun e => (h e).implement impl := by
  funext l
  refine (Prog.implement_bind _ _).trans (congrArg _ (funext ?_))
  rintro ⟨e | a, l⟩ <;> rfl

@[simp] theorem implement_run (m : Routine Ans E L α) (l : L) :
    (m.run l).implement impl = (m.implement impl).run l := Prog.implement_bind _ _

@[simp] theorem implement_ite (c : Prop) [Decidable c] (m m' : Routine Ans E L α) :
    (if c then m else m').implement impl =
      if c then m.implement impl else m'.implement impl := apply_ite _ _ _ _

end Routine

variable {M : Machine (Raises Ans' E) W} {I : W → Prop} {ok : Call → Prop} {w : W}

/-! ### Calls that stand for calls -/

/-- **A program whose every call stands for one call below** is judged by what the machine
below does with that call. -/
theorem Prog.always_embed {f : Call → Call'} {p : Prog (fun c => Reply' (f c)) α}
    {M : Machine Reply' W} {J : W → Prop} {Q : α → W → Prop} :
    (p.implement fun c => Prog.perform (f c)).Always M J Q w ↔
      p.Always ⟨fun w c r w' => M.serve w (f c) r w'⟩ J Q w := by
  induction p generalizing w with
  | pure a => exact Iff.rfl
  | call c next ih =>
    refine and_congr_right fun _ => ?_
    exact forall_congr' fun r => forall_congr' fun w' => imp_congr_right fun _ => ih r

/-! ### Frames through implementations -/

theorem Prog.Uses.implement_always {impl : (c : Call) → Prog Reply' (Reply c)} {p : Prog Reply α}
    {M : Machine Reply' W} (h : p.Uses ok)
    (himpl : ∀ c w, ok c → I w → (impl c).Always M I (fun _ => I) w) (hw : I w) :
    (p.implement impl).Always M I (fun _ => I) w := by
  induction p generalizing w with
  | pure a => exact ⟨hw, hw⟩
  | call c next ih =>
    exact Prog.always_bind.mpr ((himpl c w h.1 hw).mono fun r w' _ hw' => ih r (h.2 r) hw')

/-- **Frame rule.**  What the implementation of every call of the footprint preserves,
the lower program preserves. -/
theorem Action.Uses.implement_always {m : Action Ans E α} (h : m.Uses ok)
    (himpl : ∀ c w, ok c → I w → (impl c).Always M I (fun _ => I) w) (hw : I w) :
    (m.implement impl).Always M I (fun _ => I) w := Prog.Uses.implement_always h himpl hw

theorem Routine.Uses.implement_always {m : Routine Ans E L α} {l : L} (h : m.Uses ok)
    (himpl : ∀ c w, ok c → I w → (impl c).Always M I (fun _ => I) w) (hw : I w) :
    (m.implement impl).Always M I (fun _ _ => I) l w :=
  Prog.Uses.implement_always (h l) himpl hw

end Text

/-! ## Runs -/

/-- One step is one whole run of the implementation of a call. -/
def Machine.through (M : Machine Reply' W) (impl : (c : Call) → Prog Reply' (Reply c)) :
    Machine Reply W where
  serve w c r w' := Run M w (impl c) w' (.pure r)

namespace Run
variable {M : Machine Reply' W}

/-- A returning run of a sequence returns from its first part on the way. -/
theorem of_bind {p : Prog Reply' α} {f : α → Prog Reply' β} {w w' : W} {b : β}
    (run : Run M w (p.bind f) w' (.pure b)) :
    ∃ a w₁, Run M w p w₁ (.pure a) ∧ Run M w₁ (f a) w' (.pure b) := by
  induction p generalizing w with
  | pure a => exact ⟨a, w, .refl _ _, run⟩
  | call c next ih =>
    cases run with
    | step served rest =>
      obtain ⟨a, w₁, first, second⟩ := ih _ rest
      exact ⟨a, w₁, .step served first, second⟩

/-- **Returning runs of the lower program are runs of the upper one.** -/
theorem of_implement {impl : (c : Call) → Prog Reply' (Reply c)} {p : Prog Reply α} {w w' : W}
    {a : α} (run : Run M w (p.implement impl) w' (.pure a)) :
    Run (M.through impl) w p w' (.pure a) := by
  induction p generalizing w with
  | pure b =>
    cases run
    exact .refl _ _
  | call c next ih =>
    obtain ⟨r, w₁, first, second⟩ := of_bind run
    exact .step (show (M.through impl).serve w c r w₁ from first) (ih r second)

end Run

/-! ## Keeping a record -/

section Record
variable {S : Type}

/-- The machine, with a record of type `S` kept beside its world: `note` writes what
the step was, its answer, and the worlds before and after it. -/
def Machine.recording (M : Machine Reply W) (note : S → W → (c : Call) → Reply c → W → S) :
    Machine Reply (W × S) where
  serve w c r w' := M.serve w.1 c r w'.1 ∧ w'.2 = note w.2 w.1 c r w'.1

/-- **A record can always be kept**: every run of the machine is one with a record. -/
theorem Run.recording {M : Machine Reply W} {note : S → W → (c : Call) → Reply c → W → S}
    {p q : Prog Reply α} {w w' : W} (run : Run M w p w' q) (s : S) :
    ∃ s', Run (M.recording note) (w, s) p (w', s') q := by
  induction run generalizing s with
  | refl w p => exact ⟨s, .refl _ _⟩
  | @step w w₁ w₂ c r next q served _ ih =>
    obtain ⟨s', rest⟩ := ih (note s w c r w₁)
    have recorded : (M.recording note).serve (w, s) c r (w₁, note s w c r w₁) := ⟨served, rfl⟩
    exact ⟨s', .step recorded rest⟩

end Record

end Effects

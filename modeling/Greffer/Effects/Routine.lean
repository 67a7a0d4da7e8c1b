import Greffer.Effects.Program

/-! # Exceptions and local variables

Two monads over `Prog`, for code written in an imperative language with
exceptions.  An `Action` may raise: every call it makes is answered with a value
or with an exception, and an exception propagates until something catches it.  A
`Routine` is an action with local variables `L` of its own, which it reads and
assigns; **assignments survive an exception**, so that a handler and a cleanup
block see the variables as the failing statement left them.

`tryExcept` and `tryFinally` are the two handlers.  Each construct has its rule
for `Always`, and the rules are simp lemmas: a routine's judgement unfolds along
its text, one statement at a time.
-/
namespace Effects

variable {Call : Type} {Ans : Call → Type} {E L L' W α β : Type}

/-- A reply: the answer, or the exception the call raised. -/
abbrev Raises (Ans : Call → Type) (E : Type) (c : Call) : Type := Except E (Ans c)

/-- The postcondition of a statement followed by more code: a value goes on to
`k`, an exception leaves for `Q`. -/
def onOk (k : α → W → Prop) (Q : Except E β → W → Prop) : Except E α → W → Prop
  | .ok a, w => k a w
  | .error e, w => Q (.error e) w

@[simp] theorem onOk_ok (k : α → W → Prop) (Q : Except E β → W → Prop) (a : α) (w : W) :
    onOk k Q (.ok a) w ↔ k a w := Iff.rfl

@[simp] theorem onOk_error (k : α → W → Prop) (Q : Except E β → W → Prop) (e : E) (w : W) :
    onOk k Q (.error e) w ↔ Q (.error e) w := Iff.rfl

/-! ## Actions -/

/-- Code that makes calls and may raise. -/
def Action (Ans : Call → Type) (E α : Type) : Type := Prog (Raises Ans E) (Except E α)

namespace Action

/-- Sequencing; an exception skips the rest. -/
def bind (m : Action Ans E α) (f : α → Action Ans E β) : Action Ans E β :=
  Prog.bind m fun
    | .ok a => f a
    | .error e => .pure (.error e)

instance : Monad (Action Ans E) where
  pure a := Prog.pure (.ok a)
  bind := Action.bind

/-- Raise `e`. -/
def raise (e : E) : Action Ans E α := Prog.pure (.error e)

/-- Make a call; its exception, if any, is raised. -/
def perform (c : Call) : Action Ans E (Ans c) := Prog.call c .pure

/-- Run `m` and hand over what became of it, raising nothing. -/
def outcome (m : Action Ans E α) : Action Ans E (Except E α) :=
  Prog.bind m fun r => .pure (.ok r)

/-- `try: m; except e: h e`. -/
def tryExcept (m : Action Ans E α) (h : E → Action Ans E α) : Action Ans E α :=
  Prog.bind m fun
    | .ok a => .pure (.ok a)
    | .error e => h e

/-- A computation that does not call out. -/
def ofExcept : Except E α → Action Ans E α := Prog.pure

variable (M : Machine (Raises Ans E) W)

/-- `Prog.Always`, for an action. -/
def Always (I : W → Prop) (Q : Except E α → W → Prop) (m : Action Ans E α) (w : W) : Prop :=
  Prog.Always M I Q m w

/-- `Prog.Uses`, for an action. -/
def Uses (ok : Call → Prop) (m : Action Ans E α) : Prop := Prog.Uses ok m

variable {M} {I : W → Prop} {Q R : Except E α → W → Prop} {w : W} {m : Action Ans E α}

theorem Always.imp {J : W → Prop} (h : m.Always M I Q w) (hI : ∀ w, I w → J w)
    (hQ : ∀ r w, I w → Q r w → R r w) : m.Always M J R w := Prog.Always.imp h hI hQ

theorem Always.mono (h : m.Always M I Q w) (hQ : ∀ r w, I w → Q r w → R r w) :
    m.Always M I R w := Prog.Always.mono h hQ

theorem Always.inv (h : m.Always M I Q w) : I w := Prog.Always.inv h

@[simp] theorem always_pure (a : α) :
    (pure a : Action Ans E α).Always M I Q w ↔ I w ∧ Q (.ok a) w := Iff.rfl

@[simp] theorem always_raise (e : E) :
    (raise e : Action Ans E α).Always M I Q w ↔ I w ∧ Q (.error e) w := Iff.rfl

@[simp] theorem always_ofExcept (r : Except E α) :
    (ofExcept r : Action Ans E α).Always M I Q w ↔ I w ∧ Q r w := Iff.rfl

@[simp] theorem always_perform (c : Call) {Q : Except E (Ans c) → W → Prop} :
    (perform c : Action Ans E (Ans c)).Always M I Q w ↔
      I w ∧ ∀ r w', M.serve w c r w' → I w' ∧ Q r w' := Iff.rfl

theorem always_perform_definite {h : W → (c : Call) → Raises Ans E c × W} (c : Call)
    {Q : Except E (Ans c) → W → Prop} :
    (perform c : Action Ans E (Ans c)).Always (.definite h) I Q w ↔
      I w ∧ I (h w c).2 ∧ Q (h w c).1 (h w c).2 := Prog.always_definite c _

@[simp] theorem always_bind {f : α → Action Ans E β} {Q : Except E β → W → Prop} :
    (m >>= f).Always M I Q w ↔
      m.Always M I (onOk (fun a w => (f a).Always M I Q w) Q) w := by
  refine Prog.always_bind.trans ⟨fun h => ?_, fun h => ?_⟩
  · refine Prog.Always.mono h ?_
    rintro (e | a) w - hw
    · exact hw.2
    · exact hw
  · refine Prog.Always.mono h ?_
    rintro (e | a) w hI hw
    · exact ⟨hI, hw⟩
    · exact hw

@[simp] theorem always_tryExcept {h : E → Action Ans E α} :
    (m.tryExcept h).Always M I Q w ↔
      m.Always M I (fun r w => match r with
        | .ok a => Q (.ok a) w
        | .error e => (h e).Always M I Q w) w := by
  refine Prog.always_bind.trans ⟨fun h => ?_, fun h => ?_⟩
  · refine Prog.Always.mono h ?_
    rintro (e | a) w - hw
    · exact hw
    · exact hw.2
  · refine Prog.Always.mono h ?_
    rintro (e | a) w hI hw
    · exact hw
    · exact ⟨hI, hw⟩

@[simp] theorem always_outcome {Q : Except E (Except E α) → W → Prop} :
    (m.outcome).Always M I Q w ↔ m.Always M I (fun r w => Q (.ok r) w) w := by
  refine Prog.always_bind.trans ⟨fun h => ?_, fun h => ?_⟩
  · exact Prog.Always.mono h fun r w _ hw => hw.2
  · exact Prog.Always.mono h fun r w hI hw => ⟨hI, hw⟩

/-- A pure last step does not bear on the invariant. -/
theorem always_invariant_bind_pure (f : α → β) :
    (m >>= fun a => pure (f a)).Always M I (fun _ _ => True) w ↔
      m.Always M I (fun _ _ => True) w := by
  rw [always_bind]
  refine ⟨fun h => h.mono fun _ _ _ _ => trivial, fun h => h.mono ?_⟩
  rintro (e | a) w hI -
  · trivial
  · exact ⟨hI, trivial⟩

theorem always_ite (c : Prop) [Decidable c] {m m' : Action Ans E α} :
    (if c then m else m').Always M I Q w ↔
      (c → m.Always M I Q w) ∧ (¬ c → m'.Always M I Q w) := by
  by_cases hc : c <;> simp [hc]

/-! ### What a value that is returned means -/

/-- Whenever the action returns a value, `P` holds of it. -/
def Yields (M : Machine (Raises Ans E) W) (P : α → W → Prop) (m : Action Ans E α) (w : W) : Prop :=
  m.Always M (fun _ => True) (fun r w => ∀ a, r = .ok a → P a w) w

section Yields
variable {P P' : α → W → Prop} {P₂ : β → W → Prop}

theorem Yields.mono (h : m.Yields M P w) (hP : ∀ a w, P a w → P' a w) : m.Yields M P' w :=
  Always.mono h fun _ w _ hr a ha => hP a w (hr a ha)

/-- What a value means adds to what is judged of the action. -/
theorem Always.yielding (h : m.Always M I Q w) (hm : m.Yields M P w) :
    m.Always M I (fun r w => Q r w ∧ ∀ a, r = .ok a → P a w) w :=
  Prog.Always.imp (Prog.Always.and h hm) (fun _ h => h.1) fun _ _ _ h => h

theorem yields_trivial (m : Action Ans E α) (w : W) : m.Yields M (fun _ _ => True) w :=
  Prog.always_iff_runs.mpr fun _ _ _ => ⟨trivial, fun _ _ _ _ => trivial⟩

theorem Yields.at_return {a : α} {w' : W} (h : m.Yields M P w)
    (run : Run M w m w' (.pure (.ok a))) : P a w' :=
  Prog.Always.at_return h run a rfl

theorem yields_pure {a : α} (h : P a w) : (pure a : Action Ans E α).Yields M P w :=
  always_pure a |>.mpr ⟨trivial, fun _ hb => Except.ok.inj hb ▸ h⟩

theorem yields_raise (e : E) : (raise e : Action Ans E α).Yields M P w :=
  always_raise e |>.mpr ⟨trivial, fun _ h => by cases h⟩

theorem yields_ofExcept {r : Except E α} (h : ∀ a, r = .ok a → P a w) :
    (ofExcept r : Action Ans E α).Yields M P w := ⟨trivial, h⟩

theorem yields_perform {c : Call} {P : Ans c → W → Prop}
    (h : ∀ a w', M.serve w c (.ok a) w' → P a w') :
    (perform c : Action Ans E (Ans c)).Yields M P w := by
  refine ⟨trivial, ?_⟩
  rintro r w' hs
  refine ⟨trivial, ?_⟩
  rintro a rfl
  exact h a w' hs

/-- A failure of the first part is one of the whole. -/
theorem Yields.bind {f : α → Action Ans E β} (h : m.Yields M P w)
    (hf : ∀ a w, P a w → (f a).Yields M P₂ w) : (m >>= f).Yields M P₂ w := by
  unfold Yields
  rw [always_bind]
  refine Always.mono h ?_
  rintro (e | a) w' - hr
  · exact fun _ hx => by cases hx
  · exact hf a w' (hr a rfl)

theorem yields_ite {c : Prop} [Decidable c] {m' : Action Ans E α} (h : c → m.Yields M P w)
    (h' : ¬ c → m'.Yields M P w) : (if c then m else m').Yields M P w :=
  (always_ite c).mpr ⟨h, h'⟩

theorem Yields.tryExcept {h : E → Action Ans E α} (hm : m.Yields M P w)
    (hh : ∀ e w, (h e).Yields M P w) : (m.tryExcept h).Yields M P w := by
  unfold Yields
  rw [always_tryExcept]
  refine Always.mono hm ?_
  rintro (e | a) w' - hr
  · exact hh e w'
  · exact hr

end Yields

/-! ### What an action returns -/

/-- However the action ends and whatever the environment, `Q` holds of its outcome. -/
def Returns (Q : Except E α → Prop) (m : Action Ans E α) : Prop := Prog.Returns Q m

theorem Returns.of_forall {Q : Except E α → Prop} (hQ : ∀ r, Q r) : m.Returns Q :=
  (Prog.returns_trivial m).mono fun r _ => hQ r

theorem returns_bind {Q : Except E β → Prop} {f : α → Action Ans E β} :
    (m >>= f).Returns Q ↔ m.Returns (fun r => match r with
      | .ok a => (f a).Returns Q
      | .error e => Q (.error e)) := by
  refine Prog.returns_bind.trans
    ⟨fun h => Prog.Returns.mono h ?_, fun h => Prog.Returns.mono h ?_⟩
  all_goals rintro (e | a) hx <;> exact hx

/-- An action that goes on only where it is told to. -/
theorem Returns.then {P : α → Prop} {Q : Except E β → Prop} {f : α → Action Ans E β}
    (hm : m.Returns fun r => ∀ a, r = .ok a → P a) (herror : ∀ e, Q (.error e))
    (hf : ∀ a, P a → (f a).Returns Q) : (m >>= f).Returns Q := by
  rw [returns_bind]
  refine Prog.Returns.mono hm ?_
  rintro (e | a) hP
  · exact herror e
  · exact hf a (hP a rfl)

theorem Returns.thenAny {Q : Except E β → Prop} {f : α → Action Ans E β}
    (herror : ∀ e, Q (.error e)) (hf : ∀ a, (f a).Returns Q) : (m >>= f).Returns Q :=
  Returns.then (P := fun _ => True) (.of_forall fun _ _ _ => trivial) herror fun a _ => hf a

/-! ### Footprints -/

theorem uses_pure {ok : Call → Prop} (a : α) : (pure a : Action Ans E α).Uses ok := trivial

theorem uses_raise {ok : Call → Prop} (e : E) : (raise e : Action Ans E α).Uses ok := trivial

theorem uses_ofExcept {ok : Call → Prop} (r : Except E α) :
    (ofExcept r : Action Ans E α).Uses ok := trivial

theorem uses_perform {ok : Call → Prop} {c : Call} (h : ok c) :
    (perform c : Action Ans E (Ans c)).Uses ok := ⟨h, fun _ => trivial⟩

theorem Uses.bind {ok : Call → Prop} {f : α → Action Ans E β} (first : m.Uses ok)
    (rest : ∀ a, (f a).Uses ok) : (m >>= f).Uses ok := by
  refine Prog.Uses.bind first ?_
  rintro (e | a)
  · trivial
  · exact rest a

/-- The calls of a sequence, where the second action starts from what the first returns. -/
theorem Uses.then {ok : Call → Prop} {P : α → Prop} {f : α → Action Ans E β} (first : m.Uses ok)
    (hm : m.Returns fun r => ∀ a, r = .ok a → P a) (rest : ∀ a, P a → (f a).Uses ok) :
    (m >>= f).Uses ok := by
  refine Prog.Uses.then first hm ?_
  rintro (e | a) hP
  · trivial
  · exact rest a (hP a rfl)

theorem Uses.tryExcept {ok : Call → Prop} {h : E → Action Ans E α} (first : m.Uses ok)
    (rest : ∀ e, (h e).Uses ok) : (m.tryExcept h).Uses ok := by
  refine Prog.Uses.bind first ?_
  rintro (e | a)
  · exact rest e
  · trivial

theorem Uses.outcome {ok : Call → Prop} (first : m.Uses ok) : m.outcome.Uses ok :=
  Prog.Uses.bind first fun _ => trivial

theorem Uses.mono {ok ok' : Call → Prop} (h : m.Uses ok) (himp : ∀ c, ok c → ok' c) :
    m.Uses ok' := Prog.Uses.mono h himp

/-- The frame rule, for an action. -/
theorem Uses.always {ok : Call → Prop} (h : m.Uses ok)
    (hserve : ∀ w c r w', ok c → I w → M.serve w c r w' → I w') (hw : I w) :
    m.Always M I (fun _ => I) w := Prog.Uses.always h hserve hw

end Action

/-! ## Routines -/

/-- Code with local variables `L` that makes calls and may raise. -/
def Routine (Ans : Call → Type) (E L α : Type) : Type :=
  L → Prog (Raises Ans E) (Except E α × L)

namespace Routine

/-- Sequencing; an exception skips the rest and keeps the variables. -/
def bind (m : Routine Ans E L α) (f : α → Routine Ans E L β) : Routine Ans E L β :=
  fun l => (m l).bind fun
    | (.ok a, l) => f a l
    | (.error e, l) => .pure (.error e, l)

instance : Monad (Routine Ans E L) where
  pure a := fun l => .pure (.ok a, l)
  bind := Routine.bind

/-- Raise `e`. -/
def raise (e : E) : Routine Ans E L α := fun l => .pure (.error e, l)

/-- The local variables. -/
def locals : Routine Ans E L L := fun l => .pure (.ok l, l)

/-- Assign to the local variables. -/
def assign (f : L → L) : Routine Ans E L Unit := fun l => .pure (.ok (), f l)

/-- Run an action, which does not touch the local variables. -/
def lift (m : Action Ans E α) : Routine Ans E L α := fun l =>
  Prog.bind m fun r => .pure (r, l)

instance : MonadLift (Action Ans E) (Routine Ans E L) where
  monadLift := Routine.lift

/-- `try: m; except e: h e`. -/
def tryExcept (m : Routine Ans E L α) (h : E → Routine Ans E L α) : Routine Ans E L α :=
  fun l => (m l).bind fun
    | (.ok a, l) => .pure (.ok a, l)
    | (.error e, l) => h e l

/-- `try: m; finally: f`.  The cleanup runs however `m` ended; its own exception
replaces what `m` left, and otherwise `m`'s outcome stands. -/
def tryFinally (m : Routine Ans E L α) (f : Routine Ans E L Unit) : Routine Ans E L α :=
  fun l => (m l).bind fun (r, l) => (f l).bind fun
    | (.ok (), l) => .pure (r, l)
    | (.error e, l) => .pure (.error e, l)

/-- The routine as an action, its variables being `l` at the start. -/
def run (m : Routine Ans E L α) (l : L) : Action Ans E α := Prog.bind (m l) fun x => .pure x.1

variable (M : Machine (Raises Ans E) W)

/-- `Prog.Always`, for a routine started with the local variables `l`; the
postcondition also speaks of the variables at the end. -/
def Always (I : W → Prop) (Q : Except E α → L → W → Prop) (m : Routine Ans E L α)
    (l : L) (w : W) : Prop :=
  (m l).Always M I (fun x w => Q x.1 x.2 w) w

/-- `Prog.Uses`, for a routine, whatever its local variables hold. -/
def Uses (ok : Call → Prop) (m : Routine Ans E L α) : Prop := ∀ l, (m l).Uses ok

/-- The postcondition of a statement followed by more code, as `onOk`. -/
def onOk (k : α → L → W → Prop) (Q : Except E β → L → W → Prop) :
    Except E α → L → W → Prop
  | .ok a, l, w => k a l w
  | .error e, l, w => Q (.error e) l w

@[simp] theorem onOk_ok (k : α → L → W → Prop) (Q : Except E β → L → W → Prop) (a : α)
    (l : L) (w : W) : Routine.onOk k Q (.ok a) l w ↔ k a l w := Iff.rfl

@[simp] theorem onOk_error (k : α → L → W → Prop) (Q : Except E β → L → W → Prop) (e : E)
    (l : L) (w : W) : Routine.onOk k Q (.error e) l w ↔ Q (.error e) l w := Iff.rfl

variable {M} {I : W → Prop} {Q R : Except E α → L → W → Prop} {l : L} {w : W}
  {m : Routine Ans E L α}

theorem Always.imp {J : W → Prop} (h : m.Always M I Q l w) (hI : ∀ w, I w → J w)
    (hQ : ∀ r l w, I w → Q r l w → R r l w) : m.Always M J R l w :=
  Prog.Always.imp h hI fun x w hIw hQw => hQ x.1 x.2 w hIw hQw

theorem Always.mono (h : m.Always M I Q l w) (hQ : ∀ r l w, I w → Q r l w → R r l w) :
    m.Always M I R l w := Prog.Always.mono h fun x w hI hw => hQ x.1 x.2 w hI hw

theorem Always.inv (h : m.Always M I Q l w) : I w := Prog.Always.inv h

theorem Always.reached (h : m.Always M I Q l w) :
    m.Always M I (fun r l' w' => Run M w (m l) w' (.pure (r, l')) ∧ Q r l' w') l w :=
  Prog.Always.reached h

@[simp] theorem always_pure (a : α) :
    (pure a : Routine Ans E L α).Always M I Q l w ↔ I w ∧ Q (.ok a) l w := Iff.rfl

@[simp] theorem always_raise (e : E) :
    (raise e : Routine Ans E L α).Always M I Q l w ↔ I w ∧ Q (.error e) l w := Iff.rfl

@[simp] theorem always_locals {Q : Except E L → L → W → Prop} :
    (locals : Routine Ans E L L).Always M I Q l w ↔ I w ∧ Q (.ok l) l w := Iff.rfl

@[simp] theorem always_assign (f : L → L) {Q : Except E Unit → L → W → Prop} :
    (assign f : Routine Ans E L Unit).Always M I Q l w ↔ I w ∧ Q (.ok ()) (f l) w := Iff.rfl

theorem always_run {Q : Except E α → W → Prop} :
    (m.run l).Always M I Q w ↔ m.Always M I (fun r _ w => Q r w) l w := by
  refine Prog.always_bind.trans ⟨fun h => ?_, fun h => ?_⟩
  · exact Prog.Always.mono h fun x w _ hw => hw.2
  · exact Prog.Always.mono h fun x w hI hw => ⟨hI, hw⟩

@[simp] theorem always_lift {m : Action Ans E α} :
    (lift m : Routine Ans E L α).Always M I Q l w ↔ m.Always M I (fun r w => Q r l w) w := by
  refine Prog.always_bind.trans ⟨fun h => ?_, fun h => ?_⟩
  · exact Prog.Always.mono h fun r w _ hw => hw.2
  · exact Prog.Always.mono h fun r w hI hw => ⟨hI, hw⟩

@[simp] theorem always_monadLift {m : Action Ans E α} :
    (monadLift m : Routine Ans E L α).Always M I Q l w ↔
      m.Always M I (fun r w => Q r l w) w := always_lift

@[simp] theorem always_bind {f : α → Routine Ans E L β} {Q : Except E β → L → W → Prop} :
    (m >>= f).Always M I Q l w ↔
      m.Always M I (Routine.onOk (fun a l w => (f a).Always M I Q l w) Q) l w := by
  refine Prog.always_bind.trans ⟨fun h => ?_, fun h => ?_⟩
  · refine Prog.Always.mono h ?_
    rintro ⟨e | a, l⟩ w - hw
    · exact hw.2
    · exact hw
  · refine Prog.Always.mono h ?_
    rintro ⟨e | a, l⟩ w hI hw
    · exact ⟨hI, hw⟩
    · exact hw

/-- An action that keeps `J`, before code that starts from `J`. -/
theorem lift_bind_frame {J : W → Prop} {m : Action Ans E α} {f : α → Routine Ans E L β}
    {Q : Except E β → L → W → Prop} (hJ : ∀ w, J w → I w)
    (hm : m.Always M J (fun _ _ => True) w) (herror : ∀ e w, J w → Q (.error e) l w)
    (hf : ∀ a w, J w → (f a).Always M I Q l w) :
    ((monadLift m : Routine Ans E L α) >>= f).Always M I Q l w := by
  rw [always_bind, always_monadLift]
  refine hm.imp hJ ?_
  rintro (e | a) w hw -
  · exact herror e w hw
  · exact hf a w hw

@[simp] theorem always_tryExcept {h : E → Routine Ans E L α} :
    (m.tryExcept h).Always M I Q l w ↔
      m.Always M I (fun r l w => match r with
        | .ok a => Q (.ok a) l w
        | .error e => (h e).Always M I Q l w) l w := by
  refine Prog.always_bind.trans ⟨fun h => ?_, fun h => ?_⟩
  · refine Prog.Always.mono h ?_
    rintro ⟨e | a, l⟩ w - hw
    · exact hw
    · exact hw.2
  · refine Prog.Always.mono h ?_
    rintro ⟨e | a, l⟩ w hI hw
    · exact hw
    · exact ⟨hI, hw⟩

@[simp] theorem always_tryFinally {f : Routine Ans E L Unit} :
    (m.tryFinally f).Always M I Q l w ↔
      m.Always M I (fun r l w => f.Always M I (fun r' l w => match r' with
        | .ok () => Q r l w
        | .error e => Q (.error e) l w) l w) l w := by
  refine Prog.always_bind.trans ⟨fun h => ?_, fun h => ?_⟩
  · refine Prog.Always.mono h fun x w _ hx => ?_
    refine Prog.Always.mono (Prog.always_bind.mp hx) ?_
    rintro ⟨e | a, l⟩ w - hw <;> exact hw.2
  · refine Prog.Always.mono h fun x w _ hx => ?_
    refine Prog.always_bind.mpr (Prog.Always.mono hx ?_)
    rintro ⟨e | a, l⟩ w hI hw <;> exact ⟨hI, hw⟩

/-! ### Invariants alone -/

theorem invariant_tryFinally {f : Routine Ans E L Unit}
    (hm : m.Always M I (fun _ _ _ => True) l w)
    (hf : ∀ l w, I w → f.Always M I (fun _ _ _ => True) l w) :
    (m.tryFinally f).Always M I (fun _ _ _ => True) l w := by
  rw [always_tryFinally]
  refine hm.mono fun r l w hI _ => (hf l w hI).mono ?_
  rintro (e | ⟨⟩) l w - - <;> trivial

theorem invariant_tryExcept {h : E → Routine Ans E L α}
    (hm : m.Always M I (fun _ _ _ => True) l w)
    (hh : ∀ e l w, I w → (h e).Always M I (fun _ _ _ => True) l w) :
    (m.tryExcept h).Always M I (fun _ _ _ => True) l w := by
  rw [always_tryExcept]
  refine hm.mono ?_
  rintro (e | a) l w hI -
  · exact hh e l w hI
  · trivial

theorem invariant_bind {f : α → Routine Ans E L β} (hm : m.Always M I (fun _ _ _ => True) l w)
    (hf : ∀ a l w, I w → (f a).Always M I (fun _ _ _ => True) l w) :
    (m >>= f).Always M I (fun _ _ _ => True) l w := by
  rw [always_bind]
  refine hm.mono ?_
  rintro (e | a) l w hI -
  · trivial
  · exact hf a l w hI

theorem always_ite (c : Prop) [Decidable c] {m m' : Routine Ans E L α} :
    (if c then m else m').Always M I Q l w ↔
      (c → m.Always M I Q l w) ∧ (¬ c → m'.Always M I Q l w) := by
  by_cases hc : c <;> simp [hc]

/-! ### The variables at the end -/

/-- However the routine ends and whatever the environment, `Q` holds of its outcome
and its variables. -/
def Returns (Q : Except E α → L → Prop) (m : Routine Ans E L α) (l : L) : Prop :=
  (m l).Returns fun x => Q x.1 x.2

section Returns
variable {Q R : Except E α → L → Prop}

/-- What the variables are at the end adds to what is judged of the world. -/
theorem Always.returning {P : Except E α → L → W → Prop} (h : m.Always M I P l w)
    (hm : m.Returns Q l) : m.Always M I (fun r l w => Q r l ∧ P r l w) l w :=
  Prog.Always.returning h hm

theorem Returns.mono (h : m.Returns Q l) (himp : ∀ r l, Q r l → R r l) : m.Returns R l :=
  Prog.Returns.mono h fun x => himp x.1 x.2

theorem returns_assign (f : L → L) {Q : Except E Unit → L → Prop} :
    (assign f : Routine Ans E L Unit).Returns Q l ↔ Q (.ok ()) (f l) := Iff.rfl

theorem returns_monadLift {m : Action Ans E α} :
    (monadLift m : Routine Ans E L α).Returns Q l ↔ m.Returns fun r => Q r l :=
  Prog.returns_bind

theorem returns_lift_of {m : Action Ans E α} (hQ : ∀ r, Q r l) :
    (monadLift m : Routine Ans E L α).Returns Q l :=
  returns_monadLift.mpr (.of_forall hQ)

theorem returns_bind {f : α → Routine Ans E L β} {Q : Except E β → L → Prop} :
    (m >>= f).Returns Q l ↔ m.Returns (fun r l => match r with
      | .ok a => (f a).Returns Q l
      | .error e => Q (.error e) l) l := by
  refine Prog.returns_bind.trans
    ⟨fun h => Prog.Returns.mono h ?_, fun h => Prog.Returns.mono h ?_⟩
  all_goals rintro ⟨e | a, l⟩ hx <;> exact hx

/-- An action that goes on only where it is told to, in a routine. -/
theorem returns_lift_then {P : α → Prop} {m : Action Ans E α} {f : α → Routine Ans E L β}
    {Q : Except E β → L → Prop} (hm : m.Returns fun r => ∀ a, r = .ok a → P a)
    (herror : ∀ e, Q (.error e) l) (hf : ∀ a, P a → (f a).Returns Q l) :
    ((monadLift m : Routine Ans E L α) >>= f).Returns Q l := by
  rw [returns_bind, returns_monadLift]
  refine Prog.Returns.mono hm ?_
  rintro (e | a) hP
  · exact herror e
  · exact hf a (hP a rfl)

theorem returns_lift_thenAny {m : Action Ans E α} {f : α → Routine Ans E L β}
    {Q : Except E β → L → Prop} (herror : ∀ e, Q (.error e) l) (hf : ∀ a, (f a).Returns Q l) :
    ((monadLift m : Routine Ans E L α) >>= f).Returns Q l :=
  returns_lift_then (P := fun _ => True) (.of_forall fun _ _ _ => trivial) herror fun a _ => hf a

theorem returns_tryExcept {h : E → Routine Ans E L α} :
    (m.tryExcept h).Returns Q l ↔ m.Returns (fun r l => match r with
      | .ok a => Q (.ok a) l
      | .error e => (h e).Returns Q l) l := by
  refine Prog.returns_bind.trans
    ⟨fun h => Prog.Returns.mono h ?_, fun h => Prog.Returns.mono h ?_⟩
  all_goals rintro ⟨e | a, l⟩ hx <;> exact hx

/-- The routine preserves `P`, of its variables. -/
def Keeps (P : L → Prop) (m : Routine Ans E L α) : Prop := ∀ l, P l → m.Returns (fun _ l => P l) l

variable {P : L → Prop}

theorem keeps_pure (a : α) : (pure a : Routine Ans E L α).Keeps P := fun _ h => h

theorem keeps_locals : (locals : Routine Ans E L L).Keeps P := fun _ h => h

theorem keeps_assign {f : L → L} (h : ∀ l, P l → P (f l)) :
    (assign f : Routine Ans E L Unit).Keeps P := h

theorem keeps_lift {m : Action Ans E α} : (monadLift m : Routine Ans E L α).Keeps P :=
  fun _ h => returns_lift_of fun _ => h

theorem Keeps.bind {f : α → Routine Ans E L β} (hm : m.Keeps P) (hf : ∀ a, (f a).Keeps P) :
    (m >>= f).Keeps P := by
  intro l h
  rw [returns_bind]
  refine (hm l h).mono ?_
  rintro (e | a) l' h'
  · exact h'
  · exact hf a l' h'

theorem Keeps.tryExcept {h : E → Routine Ans E L α} (hm : m.Keeps P) (hh : ∀ e, (h e).Keeps P) :
    (m.tryExcept h).Keeps P := by
  intro l hl
  rw [returns_tryExcept]
  refine (hm l hl).mono ?_
  rintro (e | a) l' h'
  · exact hh e l' h'
  · exact h'

theorem Keeps.tryFinally {f : Routine Ans E L Unit} (hm : m.Keeps P) (hf : f.Keeps P) :
    (m.tryFinally f).Keeps P := by
  intro l h
  refine Prog.returns_bind.mpr (Prog.Returns.mono (hm l h) ?_)
  rintro ⟨r, l₁⟩ h₁
  refine Prog.returns_bind.mpr (Prog.Returns.mono (hf l₁ h₁) ?_)
  rintro ⟨e | ⟨⟩, l₂⟩ h₂ <;> exact h₂

end Returns

/-! ### Footprints -/

theorem uses_pure {ok : Call → Prop} (a : α) : (pure a : Routine Ans E L α).Uses ok :=
  fun _ => trivial

theorem uses_raise {ok : Call → Prop} (e : E) : (raise e : Routine Ans E L α).Uses ok :=
  fun _ => trivial

theorem uses_locals {ok : Call → Prop} : (locals : Routine Ans E L L).Uses ok :=
  fun _ => trivial

theorem uses_assign {ok : Call → Prop} (f : L → L) :
    (assign f : Routine Ans E L Unit).Uses ok := fun _ => trivial

theorem uses_lift {ok : Call → Prop} {m : Action Ans E α} (h : m.Uses ok) :
    (lift m : Routine Ans E L α).Uses ok := fun _ => Prog.Uses.bind h fun _ => trivial

theorem uses_monadLift {ok : Call → Prop} {m : Action Ans E α} (h : m.Uses ok) :
    (monadLift m : Routine Ans E L α).Uses ok := uses_lift h

theorem Uses.bind {ok : Call → Prop} {f : α → Routine Ans E L β} (first : m.Uses ok)
    (rest : ∀ a, (f a).Uses ok) : (m >>= f).Uses ok := by
  intro l
  refine Prog.Uses.bind (first l) ?_
  rintro ⟨e | a, l⟩
  · trivial
  · exact rest a l

theorem Uses.tryExcept {ok : Call → Prop} {h : E → Routine Ans E L α} (first : m.Uses ok)
    (rest : ∀ e, (h e).Uses ok) : (m.tryExcept h).Uses ok := by
  intro l
  refine Prog.Uses.bind (first l) ?_
  rintro ⟨e | a, l⟩
  · exact rest e l
  · trivial

theorem Uses.tryFinally {ok : Call → Prop} {f : Routine Ans E L Unit} (first : m.Uses ok)
    (rest : f.Uses ok) : (m.tryFinally f).Uses ok := by
  intro l
  refine Prog.Uses.bind (first l) ?_
  rintro ⟨r, l⟩
  refine Prog.Uses.bind (rest l) ?_
  rintro ⟨e | ⟨⟩, l⟩ <;> trivial

/-- The frame rule, for a routine. -/
theorem Uses.always {ok : Call → Prop} (h : m.Uses ok)
    (hserve : ∀ w c r w', ok c → I w → M.serve w c r w' → I w') (hw : I w) :
    m.Always M I (fun _ _ => I) l w := Prog.Uses.always (h l) hserve hw

end Routine

end Effects

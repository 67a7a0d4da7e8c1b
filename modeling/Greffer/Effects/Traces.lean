import Greffer.Effects.Implement

/-! # What a program has heard

A program knows of its environment only what its calls were answered.  `p.Hears es a` says that
`p` returns `a` after hearing `es`, its calls in order, each with its answer; the environment may
have been anything.

A returning sequence falls into what its first part heard and what its second part heard
(`hears_bind`), so **what a value means can be read off along the text**: one inversion rule
for each construct.  The log is also a world of its own (`Machine.record`), which ties what
the program logic says of a run to what was heard in it (`Always.record`).
-/
namespace Effects

variable {Call : Type} {Reply : Call → Type} {W α β : Type}

/-- A call, with its answer. -/
abbrev Heard (Reply : Call → Type) : Type := (c : Call) × Reply c

namespace Prog

/-- The program returns `a` after its calls were answered so. -/
def Hears : Prog Reply α → List (Heard Reply) → α → Prop
  | .pure b, es, a => es = [] ∧ b = a
  | .call c next, es, a => ∃ r rest, es = ⟨c, r⟩ :: rest ∧ (next r).Hears rest a

variable {p : Prog Reply α} {f : α → Prog Reply β} {es : List (Heard Reply)} {a : α} {b : β}

@[simp] theorem hears_pure (b : α) : (Prog.pure b : Prog Reply α).Hears es a ↔ es = [] ∧ b = a :=
  Iff.rfl

/-- **A sequence hears what its two parts hear.** -/
theorem hears_bind : (p.bind f).Hears es b ↔
    ∃ a es₁ es₂, es = es₁ ++ es₂ ∧ p.Hears es₁ a ∧ (f a).Hears es₂ b := by
  induction p generalizing es with
  | pure a =>
    constructor
    · intro h
      exact ⟨a, [], es, rfl, ⟨rfl, rfl⟩, h⟩
    · rintro ⟨a', es₁, es₂, rfl, ⟨rfl, rfl⟩, h⟩
      exact h
  | call c next ih =>
    constructor
    · rintro ⟨r, rest, rfl, h⟩
      obtain ⟨a, es₁, es₂, rfl, hp, hf⟩ := (ih r).mp h
      exact ⟨a, ⟨c, r⟩ :: es₁, es₂, rfl, ⟨r, es₁, rfl, hp⟩, hf⟩
    · rintro ⟨a, es₁, es₂, rfl, ⟨r, rest, rfl, hp⟩, hf⟩
      exact ⟨r, rest ++ es₂, rfl, (ih r).mpr ⟨a, rest, es₂, rfl, hp, hf⟩⟩

/-- What a program hears are the calls it makes. -/
theorem Uses.heard {ok : Call → Prop} (h : p.Uses ok) (hears : p.Hears es a) :
    ∀ e ∈ es, ok e.1 := by
  induction p generalizing es with
  | pure b =>
    obtain ⟨rfl, -⟩ := hears
    intro e he
    cases he
  | call c next ih =>
    obtain ⟨r, rest, rfl, hrest⟩ := hears
    intro e he
    rcases List.mem_cons.mp he with rfl | he
    · exact h.1
    · exact ih r (h.2 r) hrest e he

theorem Returns.heard {ok : α → Prop} (h : p.Returns ok) (hears : p.Hears es a) : ok a := by
  induction p generalizing es with
  | pure b =>
    obtain ⟨-, rfl⟩ := hears
    exact h
  | call c next ih =>
    obtain ⟨r, rest, -, hrest⟩ := hears
    exact ih r (h r) hrest

/-- What a program hears of an environment that answers each call in one way, within `n` calls;
and what it returns, if it does. -/
def listen (h : (c : Call) → Reply c) : Nat → Prog Reply α → List (Heard Reply) × Option α
  | _, .pure a => ([], some a)
  | 0, .call _ _ => ([], none)
  | n + 1, .call c next =>
    let (es, a) := listen h n (next (h c))
    (⟨c, h c⟩ :: es, a)

theorem hears_listen {h : (c : Call) → Reply c} {n : Nat} (hreturns : (p.listen h n).2 = some a) :
    p.Hears (p.listen h n).1 a := by
  induction n generalizing p with
  | zero =>
    cases p with
    | pure b => exact ⟨rfl, Option.some.inj hreturns⟩
    | call c next => cases hreturns
  | succ n ih =>
    cases p with
    | pure b => exact ⟨rfl, Option.some.inj hreturns⟩
    | call c next => exact ⟨h c, _, rfl, ih hreturns⟩

/-- Every answer in the log is that environment's. -/
theorem answer_listen {h : (c : Call) → Reply c} {n : Nat} :
    ∀ e ∈ (p.listen h n).1, e.2 = h e.1 := by
  induction n generalizing p with
  | zero => cases p <;> simp [listen]
  | succ n ih =>
    cases p with
    | pure b => simp [listen]
    | call c next =>
      intro e he
      rcases List.mem_cons.mp he with rfl | he
      · rfl
      · exact ih e he

end Prog

/-! ## The record of a run -/

/-- The machine whose world is the record of what was asked and answered.  `ok` is what the
answers may be. -/
def Machine.record (ok : (c : Call) → Reply c → Prop) : Machine Reply (List (Heard Reply)) where
  serve es c r es' := ok c r ∧ es' = es ++ [⟨c, r⟩]

namespace Prog
variable {ok : (c : Call) → Reply c → Prop} {p : Prog Reply α} {es es' : List (Heard Reply)} {a : α}

/-- What a program hears is a run of it that is recorded. -/
theorem run_record (es : List (Heard Reply)) (hears : p.Hears es' a)
    (hok : ∀ e ∈ es', ok e.1 e.2) : Run (.record ok) es p (es ++ es') (.pure a) := by
  induction p generalizing es es' with
  | pure b =>
    obtain ⟨rfl, rfl⟩ := hears
    rw [List.append_nil]
    exact .refl _ _
  | call c next ih =>
    obtain ⟨r, rest, rfl, hrest⟩ := hears
    have hlater := ih r (es ++ [⟨c, r⟩]) hrest fun e he => hok e (List.mem_cons_of_mem _ he)
    rw [List.append_assoc, List.singleton_append] at hlater
    exact .step ⟨hok ⟨c, r⟩ List.mem_cons_self, rfl⟩ hlater

/-- **The record tells the world.**  Where the world of a machine can be read off the record,
what always holds holds of the record, which has grown by what the program heard. -/
theorem Always.record (M : Machine Reply W) {I : W → Prop} {Q : α → W → Prop}
    (view : List (Heard Reply) → W)
    (hview : ∀ es c r, ok c r → M.serve (view es) c r (view (es ++ [⟨c, r⟩])))
    (h : p.Always M I Q (view es)) :
    p.Always (.record ok) (fun es' => I (view es'))
      (fun a es' => (∃ heard, es' = es ++ heard ∧ p.Hears heard a) ∧ Q a (view es')) es := by
  induction p generalizing es with
  | pure a => exact ⟨h.1, ⟨[], (List.append_nil es).symm, rfl, rfl⟩, h.2⟩
  | call c next ih =>
    refine ⟨h.1, fun r es₁ hs => ?_⟩
    obtain ⟨hok, rfl⟩ := hs
    refine (ih r (h.2 r _ (hview es c r hok))).mono fun a es₂ _ hr => ?_
    obtain ⟨⟨heard, rfl, hheard⟩, hQ⟩ := hr
    refine ⟨⟨⟨c, r⟩ :: heard, ?_, r, heard, rfl, hheard⟩, hQ⟩
    rw [List.append_assoc, List.singleton_append]

end Prog

/-! ## Actions -/

namespace Action
variable {Ans : Call → Type} {E : Type} {m : Action Ans E α} {f : α → Action Ans E β}
  {es : List (Heard (Raises Ans E))} {a : α} {b : β}

/-- `Prog.Hears`, of an action that returns a value. -/
def Hears (m : Action Ans E α) (es : List (Heard (Raises Ans E))) (a : α) : Prop :=
  Prog.Hears m es (.ok a)

@[simp] theorem hears_pure (b : α) : (pure b : Action Ans E α).Hears es a ↔ es = [] ∧ b = a :=
  and_congr_right fun _ => ⟨Except.ok.inj, congrArg _⟩

@[simp] theorem not_hears_raise (e : E) : ¬ (raise e : Action Ans E α).Hears es a := by
  rintro ⟨-, h⟩
  cases h

@[simp] theorem hears_perform (c : Call) {a : Ans c} :
    (perform c : Action Ans E (Ans c)).Hears es a ↔ es = [⟨c, .ok a⟩] := by
  constructor
  · rintro ⟨r, rest, rfl, rfl, rfl⟩
    rfl
  · rintro rfl
    exact ⟨.ok a, [], rfl, rfl, rfl⟩

theorem hears_bind : (m >>= f).Hears es b ↔
    ∃ a es₁ es₂, es = es₁ ++ es₂ ∧ m.Hears es₁ a ∧ (f a).Hears es₂ b := by
  refine Prog.hears_bind.trans ⟨?_, ?_⟩
  · rintro ⟨e | a, es₁, es₂, hes, hm, hf⟩
    · cases hf.2
    · exact ⟨a, es₁, es₂, hes, hm, hf⟩
  · rintro ⟨a, es₁, es₂, hes, hm, hf⟩
    exact ⟨.ok a, es₁, es₂, hes, hm, hf⟩

theorem hears_map {g : α → β} :
    (m >>= fun a => pure (g a)).Hears es b ↔ ∃ a, m.Hears es a ∧ g a = b := by
  rw [hears_bind]
  constructor
  · rintro ⟨a, es₁, es₂, rfl, hm, hg⟩
    obtain ⟨rfl, hb⟩ := (hears_pure _).mp hg
    rw [List.append_nil]
    exact ⟨a, hm, hb⟩
  · rintro ⟨a, hm, hb⟩
    exact ⟨a, es, [], (List.append_nil _).symm, hm, (hears_pure _).mpr ⟨rfl, hb⟩⟩

theorem hears_ite {c : Prop} [Decidable c] {m' : Action Ans E α} :
    (if c then m else m').Hears es a ↔ c ∧ m.Hears es a ∨ ¬ c ∧ m'.Hears es a := by
  by_cases hc : c <;> simp [hc]

/-- A value comes from the code that is tried, or from the handler. -/
theorem hears_tryExcept {h : E → Action Ans E α} : (m.tryExcept h).Hears es a ↔
    m.Hears es a ∨ ∃ e es₁ es₂, es = es₁ ++ es₂ ∧ Prog.Hears m es₁ (.error e) ∧
      (h e).Hears es₂ a := by
  refine Prog.hears_bind.trans ⟨?_, ?_⟩
  · rintro ⟨e | b, es₁, es₂, rfl, hm, hrest⟩
    · exact .inr ⟨e, es₁, es₂, rfl, hm, hrest⟩
    · obtain ⟨rfl, hb⟩ := hrest
      cases hb
      rw [List.append_nil]
      exact .inl hm
  · rintro (hm | ⟨e, es₁, es₂, rfl, hm, hh⟩)
    · exact ⟨.ok a, es, [], (List.append_nil _).symm, hm, rfl, rfl⟩
    · exact ⟨.error e, es₁, es₂, rfl, hm, hh⟩

end Action

/-! ## Routines -/

namespace Routine
variable {Ans : Call → Type} {E L : Type} {m : Routine Ans E L α} {f : α → Routine Ans E L β}
  {es : List (Heard (Raises Ans E))} {a : α} {b : β} {l l' : L}

/-- `Prog.Hears`, of a routine that starts with the variables `l` and returns a value. -/
def Hears (m : Routine Ans E L α) (l : L) (es : List (Heard (Raises Ans E))) (a : α) (l' : L) :
    Prop := Prog.Hears (m l) es (.ok a, l')

/-- What a routine keeps of its variables, it keeps in what it returns with. -/
theorem Keeps.heard {P : L → Prop} {r : Except E α} (h : m.Keeps P) (hl : P l)
    (hears : Prog.Hears (m l) es (r, l')) : P l' := by
  have hreturns : (m l).Returns fun x => P x.2 := h l hl
  exact hreturns.heard hears

theorem hears_run : (m.run l).Hears es a ↔ ∃ l', m.Hears l es a l' := by
  refine Prog.hears_bind.trans ⟨?_, ?_⟩
  · rintro ⟨⟨r, l'⟩, es₁, es₂, rfl, hm, rfl, rfl⟩
    rw [List.append_nil]
    exact ⟨l', hm⟩
  · rintro ⟨l', hm⟩
    exact ⟨_, es, [], (List.append_nil _).symm, hm, rfl, rfl⟩

@[simp] theorem hears_pure (b : α) :
    (pure b : Routine Ans E L α).Hears l es a l' ↔ es = [] ∧ b = a ∧ l = l' := by
  constructor
  · rintro ⟨rfl, h⟩
    cases h
    exact ⟨rfl, rfl, rfl⟩
  · rintro ⟨rfl, rfl, rfl⟩
    exact ⟨rfl, rfl⟩

@[simp] theorem hears_monadLift {m : Action Ans E α} :
    (monadLift m : Routine Ans E L α).Hears l es a l' ↔ m.Hears es a ∧ l = l' := by
  refine Prog.hears_bind.trans ⟨?_, ?_⟩
  · rintro ⟨r, es₁, es₂, rfl, hm, rfl, h⟩
    cases h
    rw [List.append_nil]
    exact ⟨hm, rfl⟩
  · rintro ⟨hm, rfl⟩
    exact ⟨.ok a, es, [], (List.append_nil _).symm, hm, rfl, rfl⟩

theorem hears_bind : (m >>= f).Hears l es b l' ↔
    ∃ a l₁ es₁ es₂, es = es₁ ++ es₂ ∧ m.Hears l es₁ a l₁ ∧ (f a).Hears l₁ es₂ b l' := by
  refine Prog.hears_bind.trans ⟨?_, ?_⟩
  · rintro ⟨⟨e | a, l₁⟩, es₁, es₂, hes, hm, hf⟩
    · cases hf.2
    · exact ⟨a, l₁, es₁, es₂, hes, hm, hf⟩
  · rintro ⟨a, l₁, es₁, es₂, hes, hm, hf⟩
    exact ⟨(.ok a, l₁), es₁, es₂, hes, hm, hf⟩

theorem hears_lift_bind {m : Action Ans E α} {f : α → Routine Ans E L β} :
    ((monadLift m : Routine Ans E L α) >>= f).Hears l es b l' ↔
      ∃ a es₁ es₂, es = es₁ ++ es₂ ∧ m.Hears es₁ a ∧ (f a).Hears l es₂ b l' := by
  rw [hears_bind]
  constructor
  · rintro ⟨a, l₁, es₁, es₂, hes, hm, hf⟩
    obtain ⟨haction, rfl⟩ := hears_monadLift.mp hm
    exact ⟨a, es₁, es₂, hes, haction, hf⟩
  · rintro ⟨a, es₁, es₂, hes, hm, hf⟩
    exact ⟨a, l, es₁, es₂, hes, hears_monadLift.mpr ⟨hm, rfl⟩, hf⟩

theorem hears_ite {c : Prop} [Decidable c] {m' : Routine Ans E L α} :
    (if c then m else m').Hears l es a l' ↔ c ∧ m.Hears l es a l' ∨ ¬ c ∧ m'.Hears l es a l' := by
  by_cases hc : c <;> simp [hc]

theorem hears_tryExcept {h : E → Routine Ans E L α} : (m.tryExcept h).Hears l es a l' ↔
    m.Hears l es a l' ∨ ∃ e l₁ es₁ es₂, es = es₁ ++ es₂ ∧
      Prog.Hears (m l) es₁ (.error e, l₁) ∧ (h e).Hears l₁ es₂ a l' := by
  refine Prog.hears_bind.trans ⟨?_, ?_⟩
  · rintro ⟨⟨e | b, l₁⟩, es₁, es₂, rfl, hm, hrest⟩
    · exact .inr ⟨e, l₁, es₁, es₂, rfl, hm, hrest⟩
    · obtain ⟨rfl, hb⟩ := hrest
      cases hb
      rw [List.append_nil]
      exact .inl hm
  · rintro (hm | ⟨e, l₁, es₁, es₂, rfl, hm, hh⟩)
    · exact ⟨(.ok a, l'), es, [], (List.append_nil _).symm, hm, rfl, rfl⟩
    · exact ⟨(.error e, l₁), es₁, es₂, rfl, hm, hh⟩

end Routine

end Effects

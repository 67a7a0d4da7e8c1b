import Greffer.Effects.Routine

/-! # What a program touches

A program's calls touch things: files, rows, resources of any kind.  `touching` is the
machine whose world lists what has been touched so far, and a program **touches only** what
satisfies a predicate if the list does, wherever a run is stopped.  Replies may be
constrained by what an honest environment answers.

For a program whose calls can be judged one by one the footprint is enough
(`touchesOnly_of_uses`).  Where a later call depends on an earlier reply, `Secures` carries
what is known of the value that a part returns.
-/
namespace Effects

variable {Call : Type} {Reply : Call → Type} {α β τ : Type}

/-- The calls are answered honestly, and what they touch is recorded. -/
def touching (touched : Call → List τ) (honest : (c : Call) → Reply c → Prop) :
    Machine Reply (List τ) where
  serve w c r w' := honest c r ∧ w' = w ++ touched c

/-- Whatever a run of the program touches satisfies `ok`. -/
def Prog.TouchesOnly (touched : Call → List τ) (honest : (c : Call) → Reply c → Prop)
    (ok : τ → Prop) (p : Prog Reply α) : Prop :=
  ∀ w q, Run (touching touched honest) [] p w q → ∀ t ∈ w, ok t

section
variable {touched : Call → List τ} {honest : (c : Call) → Reply c → Prop} {ok : τ → Prop}
  {p : Prog Reply α}

theorem Prog.touchesOnly_of_always
    (h : p.Always (touching touched honest) (fun w => ∀ t ∈ w, ok t) (fun _ _ => True) []) :
    p.TouchesOnly touched honest ok :=
  fun _ _ run => h.at_stop run

/-- **Judged call by call.** -/
theorem Prog.touchesOnly_of_uses (h : p.Uses fun c => ∀ t ∈ touched c, ok t) :
    p.TouchesOnly touched honest ok := by
  refine Prog.touchesOnly_of_always ((h.always ?_ ?_).mono fun _ _ _ _ => trivial)
  · intro w c r w' hc hw hs
    rw [hs.2]
    intro t ht
    exact (List.mem_append.mp ht).elim (hw t) (hc t)
  · exact fun t ht => (by cases ht)

end

namespace Action
variable {Ans : Call → Type} {E : Type}

/-- The action touches only what satisfies `ok`, and a value that it returns satisfies `P`. -/
def Secures (touched : Call → List τ) (honest : (c : Call) → Raises Ans E c → Prop)
    (ok : τ → Prop) (P : α → Prop) (m : Action Ans E α) : Prop :=
  ∀ w, (∀ t ∈ w, ok t) → m.Always (touching touched honest) (fun w => ∀ t ∈ w, ok t)
    (fun r _ => ∀ a, r = .ok a → P a) w

variable {touched : Call → List τ} {honest : (c : Call) → Raises Ans E c → Prop}
  {ok : τ → Prop} {P : α → Prop} {Q : β → Prop} {m : Action Ans E α}

theorem secures_pure {a : α} (h : P a) :
    (pure a : Action Ans E α).Secures touched honest ok P :=
  fun _ hw => ⟨hw, fun _ heq => Except.ok.inj heq ▸ h⟩

theorem secures_raise (e : E) : (raise e : Action Ans E α).Secures touched honest ok P :=
  fun _ hw => ⟨hw, fun _ heq => by cases heq⟩

theorem secures_ofExcept {r : Except E α} (h : ∀ a, r = .ok a → P a) :
    (ofExcept r : Action Ans E α).Secures touched honest ok P :=
  fun _ hw => ⟨hw, h⟩

/-- **One call.** -/
theorem secures_perform {c : Call} {P : Ans c → Prop} (hc : ∀ t ∈ touched c, ok t)
    (h : ∀ a, honest c (.ok a) → P a) :
    (perform c : Action Ans E (Ans c)).Secures touched honest ok P := by
  refine fun w hw => ⟨hw, fun r w' hs => ?_⟩
  have hw' : ∀ t ∈ w', ok t := by
    rw [hs.2]
    intro t ht
    exact (List.mem_append.mp ht).elim (hw t) (hc t)
  refine ⟨hw', ?_⟩
  rintro a rfl
  exact h a hs.1

theorem secures_aside {c : Call} (hc : touched c = []) :
    (perform c : Action Ans E (Ans c)).Secures touched honest ok fun _ => True :=
  secures_perform (by rw [hc]; exact fun _ ht => by cases ht) fun _ _ => trivial

theorem secures_at {c : Call} {t : τ} (hc : touched c = [t]) (h : ok t) :
    (perform c : Action Ans E (Ans c)).Secures touched honest ok fun _ => True :=
  secures_perform (by rw [hc]; exact fun _ ht => List.mem_singleton.mp ht ▸ h) fun _ _ => trivial

/-- **A sequence**: the rest is judged for the values that the first part can return. -/
theorem Secures.bind {f : α → Action Ans E β} (h : m.Secures touched honest ok P)
    (hf : ∀ a, P a → (f a).Secures touched honest ok Q) :
    (m >>= f).Secures touched honest ok Q := by
  intro w hw
  rw [always_bind]
  refine (h w hw).mono fun r w' hw' hr => ?_
  cases r with
  | error e => exact fun _ heq => by cases heq
  | ok a => exact hf a (hr a rfl) w' hw'

theorem Secures.mono {P' : α → Prop} (h : m.Secures touched honest ok P)
    (himp : ∀ a, P a → P' a) : m.Secures touched honest ok P' :=
  fun w hw => (h w hw).mono fun _ _ _ hr a ha => himp a (hr a ha)

theorem Secures.outcome (h : m.Secures touched honest ok P) :
    m.outcome.Secures touched honest ok fun _ => True := by
  intro w hw
  rw [always_outcome]
  exact (h w hw).mono fun _ _ _ _ _ _ => trivial

theorem Secures.touchesOnly (h : m.Secures touched honest ok P) :
    Prog.TouchesOnly touched honest ok m :=
  Prog.touchesOnly_of_always
    (Prog.Always.mono (h [] fun _ ht => by cases ht) fun _ _ _ _ => trivial)

end Action

end Effects

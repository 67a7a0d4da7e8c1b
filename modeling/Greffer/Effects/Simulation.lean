import Greffer.Effects.Implement

/-! # Simulation through an implementation

Where a program is given by the calls it makes, and each call is implemented by calls of a machine
below, a relation between the worlds of the two levels is kept by every run if each implementation
keeps it.  Every run of the lower program, wherever it is stopped, then stands for a run of the
upper one: in the middle of an implementation for one that has made the call already, or has not.
-/
namespace Effects

variable {Call Call' : Type} {Reply : Call → Type} {Reply' : Call' → Type} {V W α : Type}

/-- In the middle of a call: the world below still goes with the world above, or already with one
that the call may leave. -/
def Midway (N : Machine Reply V) (J : V → W → Prop) (v : V) (c : Call) (w : W) : Prop :=
  J v w ∨ ∃ r v', N.serve v c r v' ∧ J v' w

/-- The world below goes with some run of the program above. -/
def StandsForRun (N : Machine Reply V) (J : V → W → Prop) (v : V) (p : Prog Reply α) (w : W) :
    Prop :=
  ∃ v' q, Run N v p v' q ∧ J v' w

/-- The world below goes with a run of the program above that returns this. -/
def StandsForReturn (N : Machine Reply V) (R : V → W → Prop) (v : V) (p : Prog Reply α) (a : α)
    (w : W) : Prop :=
  ∃ v', Run N v p v' (.pure a) ∧ R v' w

section Stands
variable {N : Machine Reply V} {R J : V → W → Prop} {v v' : V} {w : W} {c : Call} {r : Reply c}
  {next : Reply c → Prog Reply α}

theorem Midway.standsFor (h : Midway N J v c w) : StandsForRun N J v (.call c next) w := by
  rcases h with hbefore | ⟨r, v', served, hafter⟩
  · exact ⟨v, _, .refl v _, hbefore⟩
  · exact ⟨v', _, .step served (.refl v' _), hafter⟩

theorem StandsForRun.call (served : N.serve v c r v') (h : StandsForRun N J v' (next r) w) :
    StandsForRun N J v (.call c next) w := by
  obtain ⟨v'', q, run, hJ⟩ := h
  exact ⟨v'', q, .step served run, hJ⟩

theorem StandsForReturn.call {a : α} (served : N.serve v c r v')
    (h : StandsForReturn N R v' (next r) a w) : StandsForReturn N R v (.call c next) a w := by
  obtain ⟨v'', run, hR⟩ := h
  exact ⟨v'', .step served run, hR⟩

end Stands

/-- **A simulation.**  `R` holds between the calls, `J` also in the middle of one. -/
theorem Prog.implement_simulates {N : Machine Reply V} {M : Machine Reply' W}
    {impl : (c : Call) → Prog Reply' (Reply c)} {R J : V → W → Prop} {p : Prog Reply α} {v : V}
    {w : W} (hR : ∀ v w, R v w → J v w)
    (himpl : ∀ c v w, R v w →
      (impl c).Always M (Midway N J v c) (fun r w' => ∃ v', N.serve v c r v' ∧ R v' w') w)
    (h : R v w) :
    (p.implement impl).Always M (StandsForRun N J v p) (StandsForReturn N R v p) w := by
  induction p generalizing v w with
  | pure a => exact ⟨⟨v, _, .refl v _, hR v w h⟩, v, .refl v _, h⟩
  | call c next ih =>
    rw [implement, always_bind]
    refine (himpl c v w h).imp (fun w' hmid => hmid.standsFor) ?_
    rintro r w' - ⟨v', served, h'⟩
    exact (ih r h').imp (fun w'' hruns => hruns.call served) fun a w'' _ hreturns =>
      hreturns.call served

theorem Action.implement_simulates {Ans : Call → Type} {Ans' : Call' → Type} {E : Type}
    {N : Machine (Raises Ans E) V} {M : Machine (Raises Ans' E) W}
    {impl : (c : Call) → Action Ans' E (Ans c)} {R J : V → W → Prop} {m : Action Ans E α} {v : V}
    {w : W} (hR : ∀ v w, R v w → J v w)
    (himpl : ∀ c v w, R v w →
      (impl c).Always M (Midway N J v c) (fun r w' => ∃ v', N.serve v c r v' ∧ R v' w') w)
    (h : R v w) :
    (m.implement impl).Always M (StandsForRun N J v m) (StandsForReturn N R v m) w :=
  Prog.implement_simulates hR himpl h

end Effects

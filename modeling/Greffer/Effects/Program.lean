import Mathlib.Logic.Relation

/-! # Programs that call their environment

A `Prog` is a terminating program seen from outside: it either has returned, or
it makes one call and continues with whatever the environment answers.  What the
answers may be, and what a call does to the world, is not part of the program; a
`Machine` says it.  A run (`Run`) is a sequence of calls served by the machine,
stopped anywhere — so a crash between two calls is simply a run that goes no
further, and every prefix of a run is a run.

`Always` is the program logic: `p.Always M I Q w` says that from the world `w`
the invariant `I` holds at every point a run of `p` can be stopped at, and that
`Q` holds of the value and the world when `p` returns.  It is defined by
recursion on the program, composes along `bind` (`always_bind`), and is exactly
the corresponding statement about runs (`always_iff_runs`).
-/
namespace Effects

/-- A terminating program over the calls `Call`, which continues after the call
`c` with any reply of type `Reply c`. -/
inductive Prog {Call : Type} (Reply : Call → Type) (α : Type) : Type where
  | pure (a : α)
  | call (c : Call) (next : Reply c → Prog Reply α)

variable {Call : Type} {Reply : Call → Type} {W α β γ : Type}

namespace Prog

/-- Sequencing: `f` continues where the first program returns. -/
def bind : Prog Reply α → (α → Prog Reply β) → Prog Reply β
  | .pure a, f => f a
  | .call c next, f => .call c fun r => (next r).bind f

instance : Monad (Prog Reply) where
  pure := .pure
  bind := .bind

/-- Make one call and return its reply. -/
def perform (c : Call) : Prog Reply (Reply c) := .call c .pure

@[simp] theorem pure_bind (a : α) (f : α → Prog Reply β) : (Prog.pure a).bind f = f a := rfl

@[simp] theorem call_bind (c : Call) (next : Reply c → Prog Reply α) (f : α → Prog Reply β) :
    (Prog.call c next).bind f = .call c fun r => (next r).bind f := rfl

theorem bind_assoc (p : Prog Reply α) (f : α → Prog Reply β) (g : β → Prog Reply γ) :
    (p.bind f).bind g = p.bind fun a => (f a).bind g := by
  induction p with
  | pure a => rfl
  | call c next ih => exact congrArg (Prog.call c) (funext ih)

end Prog

/-- What the environment does: `serve w c r w'` when the call `c` made in the
world `w` may be answered `r` and leave the world `w'`. -/
structure Machine (Reply : Call → Type) (W : Type) where
  serve : W → (c : Call) → Reply c → W → Prop

namespace Machine

/-- The machine whose every step also meets `ok`: its runs are the runs of `M`
all of whose steps meet the condition. -/
def restrict (M : Machine Reply W) (ok : W → (c : Call) → Reply c → W → Prop) :
    Machine Reply W where
  serve w c r w' := M.serve w c r w' ∧ ok w c r w'

/-- The machine that answers every call in one way. -/
def definite (h : W → (c : Call) → Reply c × W) : Machine Reply W where
  serve w c r w' := (r, w') = h w c

end Machine

/-- Runs: from the world `w` with the program `p` to the world `w'` with what is
left of the program.  A run may stop anywhere. -/
inductive Run (M : Machine Reply W) {α : Type} : W → Prog Reply α → W → Prog Reply α → Prop
  | refl (w : W) (p : Prog Reply α) : Run M w p w p
  | step {w w' w'' : W} {c : Call} {r : Reply c} {next : Reply c → Prog Reply α}
      {q : Prog Reply α} (served : M.serve w c r w') (rest : Run M w' (next r) w'' q) :
      Run M w (.call c next) w'' q

namespace Run
variable {M : Machine Reply W}

theorem trans {w w' w'' : W} {p q s : Prog Reply α} (first : Run M w p w' q)
    (second : Run M w' q w'' s) : Run M w p w'' s := by
  induction first with
  | refl _ _ => exact second
  | step served _ ih => exact .step served (ih second)

/-- A run of the first program is a run of the sequence. -/
theorem bind {w w' : W} {p q : Prog Reply α} (run : Run M w p w' q) (f : α → Prog Reply β) :
    Run M w (p.bind f) w' (q.bind f) := by
  induction run with
  | refl _ _ => exact .refl _ _
  | step served _ ih => exact .step served ih

end Run

namespace Prog
variable (M : Machine Reply W)

/-- From the world `w`, `I` holds wherever a run of the program may stop, and
`Q` holds of its value and the world when it returns. -/
def Always (I : W → Prop) (Q : α → W → Prop) : Prog Reply α → W → Prop
  | .pure a, w => I w ∧ Q a w
  | .call c next, w => I w ∧ ∀ r w', M.serve w c r w' → (next r).Always I Q w'

variable {M} {I J : W → Prop} {Q R : α → W → Prop} {w w' : W} {p q : Prog Reply α}

@[simp] theorem always_pure (a : α) : (Prog.pure a).Always M I Q w ↔ I w ∧ Q a w := Iff.rfl

@[simp] theorem always_call (c : Call) (next : Reply c → Prog Reply α) :
    (Prog.call c next).Always M I Q w ↔
      I w ∧ ∀ r w', M.serve w c r w' → (next r).Always M I Q w' := Iff.rfl

/-- Against a definite environment a call has one continuation. -/
theorem always_definite {h : W → (c : Call) → Reply c × W} (c : Call)
    (next : Reply c → Prog Reply α) : (Prog.call c next).Always (.definite h) I Q w ↔
      I w ∧ (next (h w c).1).Always (.definite h) I Q (h w c).2 := by
  refine and_congr_right fun _ => ⟨fun hall => hall _ _ rfl, ?_⟩
  rintro hone r w' hs
  obtain ⟨rfl, rfl⟩ := Prod.mk.inj (show (r, w') = ((h w c).1, (h w c).2) from hs)
  exact hone

theorem Always.inv (h : p.Always M I Q w) : I w := by
  cases p with
  | pure a => exact h.1
  | call c next => exact h.1

/-- **Sequencing.**  The second program is judged where the first returns. -/
theorem always_bind {f : α → Prog Reply β} {Q : β → W → Prop} :
    (p.bind f).Always M I Q w ↔ p.Always M I (fun a w => (f a).Always M I Q w) w := by
  induction p generalizing w with
  | pure a => exact ⟨fun h => ⟨h.inv, h⟩, fun h => h.2⟩
  | call c next ih =>
    simp only [call_bind, always_call]
    exact and_congr_right fun _ => forall_congr' fun r => forall_congr' fun w' =>
      imp_congr_right fun _ => ih r

/-- **Consequence**, for the invariant and the postcondition at once. -/
theorem Always.imp (h : p.Always M I Q w) (hI : ∀ w, I w → J w)
    (hQ : ∀ a w, I w → Q a w → R a w) : p.Always M J R w := by
  induction p generalizing w with
  | pure a => exact ⟨hI _ h.1, hQ _ _ h.1 h.2⟩
  | call c next ih => exact ⟨hI _ h.1, fun r w' hs => ih r (h.2 r w' hs)⟩

theorem Always.mono (h : p.Always M I Q w) (hQ : ∀ a w, I w → Q a w → R a w) :
    p.Always M I R w := h.imp (fun _ hw => hw) hQ

theorem Always.and (h : p.Always M I Q w) (h' : p.Always M J R w) :
    p.Always M (fun w => I w ∧ J w) (fun a w => Q a w ∧ R a w) w := by
  induction p generalizing w with
  | pure a => exact ⟨⟨h.1, h'.1⟩, h.2, h'.2⟩
  | call c next ih =>
    exact ⟨⟨h.1, h'.1⟩, fun r w' hs => ih r (h.2 r w' hs) (h'.2 r w' hs)⟩

/-- What is left of the program at any point of a run is still judged the same. -/
theorem Always.along (h : p.Always M I Q w) (run : Run M w p w' q) : q.Always M I Q w' := by
  induction run with
  | refl _ _ => exact h
  | step served _ ih => exact ih (h.2 _ _ served)

/-- What holds against a machine holds against each definite environment it allows. -/
theorem Always.of_serve {h : W → (c : Call) → Reply c × W} (hp : p.Always M I Q w)
    (hserve : ∀ w c, M.serve w c (h w c).1 (h w c).2) : p.Always (.definite h) I Q w := by
  induction p generalizing w with
  | pure a => exact hp
  | call c next ih => exact (always_definite c next).mpr ⟨hp.1, ih _ (hp.2 _ _ (hserve w c))⟩

/-- **Soundness**: the invariant holds at every point of every run. -/
theorem Always.at_stop (h : p.Always M I Q w) (run : Run M w p w' q) : I w' :=
  (h.along run).inv

theorem Always.at_return {a : α} (h : p.Always M I Q w) (run : Run M w p w' (.pure a)) :
    Q a w' := (h.along run).2

/-- **The logic says exactly what it means about runs.** -/
theorem always_iff_runs : p.Always M I Q w ↔
    ∀ w' q, Run M w p w' q → I w' ∧ ∀ a, q = .pure a → Q a w' := by
  constructor
  · intro h w' q run
    refine ⟨h.at_stop run, ?_⟩
    rintro a rfl
    exact h.at_return run
  · intro h
    induction p generalizing w with
    | pure a =>
      obtain ⟨hI, hQ⟩ := h _ _ (.refl _ _)
      exact ⟨hI, hQ a rfl⟩
    | call c next ih =>
      exact ⟨(h _ _ (.refl _ _)).1, fun r w' hs => ih r fun w'' q run => h w'' q (.step hs run)⟩

theorem Always.reached (h : p.Always M I Q w) :
    p.Always M I (fun a w' => Run M w p w' (.pure a) ∧ Q a w') w := by
  refine always_iff_runs.mpr fun w' q run => ⟨h.at_stop run, ?_⟩
  rintro a rfl
  exact ⟨run, h.at_return run⟩

/-! ## Footprints -/

/-- Every call the program can make satisfies `ok`. -/
def Uses (ok : Call → Prop) : Prog Reply α → Prop
  | .pure _ => True
  | .call c next => ok c ∧ ∀ r, (next r).Uses ok

theorem Uses.bind {ok : Call → Prop} {f : α → Prog Reply β} (first : p.Uses ok)
    (rest : ∀ a, (f a).Uses ok) : (p.bind f).Uses ok := by
  induction p with
  | pure a => exact rest a
  | call c next ih => exact ⟨first.1, fun r => ih r (first.2 r)⟩

theorem Uses.mono {ok ok' : Call → Prop} (h : p.Uses ok) (himp : ∀ c, ok c → ok' c) :
    p.Uses ok' := by
  induction p with
  | pure a => trivial
  | call c next ih => exact ⟨himp c h.1, fun r => ih r (h.2 r)⟩

/-- **Frame rule.**  What every call of the footprint preserves, the program
preserves, wherever it is stopped. -/
theorem Uses.always {ok : Call → Prop} (h : p.Uses ok)
    (hserve : ∀ w c r w', ok c → I w → M.serve w c r w' → I w') (hw : I w) :
    p.Always M I (fun _ => I) w := by
  induction p generalizing w with
  | pure a => exact ⟨hw, hw⟩
  | call c next ih =>
    exact ⟨hw, fun r w' hs => ih r (h.2 r) (hserve w c r w' h.1 hw hs)⟩

/-! ## What a program returns -/

/-- Every value the program can return satisfies `ok`, whatever the environment. -/
def Returns (ok : α → Prop) : Prog Reply α → Prop
  | .pure a => ok a
  | .call _ next => ∀ r, (next r).Returns ok

/-- The calls of a sequence, where the second program starts from what the first returns. -/
theorem Uses.then {ok : Call → Prop} {P : α → Prop} {f : α → Prog Reply β} (first : p.Uses ok)
    (hp : p.Returns P) (rest : ∀ a, P a → (f a).Uses ok) : (p.bind f).Uses ok := by
  induction p with
  | pure a => exact rest a hp
  | call c next ih => exact ⟨first.1, fun r => ih r (first.2 r) (hp r)⟩

theorem returns_bind {ok : β → Prop} {f : α → Prog Reply β} :
    (p.bind f).Returns ok ↔ p.Returns fun a => (f a).Returns ok := by
  induction p with
  | pure a => rfl
  | call c next ih => exact forall_congr' fun r => ih r

theorem Returns.mono {ok ok' : α → Prop} (h : p.Returns ok) (himp : ∀ a, ok a → ok' a) :
    p.Returns ok' := by
  induction p with
  | pure a => exact himp a h
  | call c next ih => exact fun r => ih r (h r)

theorem returns_trivial (p : Prog Reply α) : p.Returns fun _ => True := by
  induction p with
  | pure a => trivial
  | call c next ih => exact fun r => ih r

/-- What a program returns adds to what is judged of it. -/
theorem Always.returning {ok : α → Prop} (h : p.Always M I Q w) (hp : p.Returns ok) :
    p.Always M I (fun a w => ok a ∧ Q a w) w := by
  induction p generalizing w with
  | pure a => exact ⟨h.1, hp, h.2⟩
  | call c next ih => exact ⟨h.1, fun r w' hs => ih r (h.2 r w' hs) (hp r)⟩

/-! ## Running a program against a definite environment -/

/-- The world and what is left of the program after at most `n` calls, each
answered by `h`. -/
def evalFor (h : W → (c : Call) → Reply c × W) : Nat → Prog Reply α → W → W × Prog Reply α
  | 0, p, w => (w, p)
  | _ + 1, .pure a, w => (w, .pure a)
  | n + 1, .call c next, w => evalFor h n (next (h w c).1) (h w c).2

/-- A definite environment that does only what the machine allows gives a run; it has to do so
where `S` holds, and to stay there. -/
theorem run_evalFor_of {h : W → (c : Call) → Reply c × W} {S : W → Prop}
    (hserve : ∀ w c, S w → M.serve w c (h w c).1 (h w c).2 ∧ S (h w c).2) (n : Nat)
    (p : Prog Reply α) {w : W} (hw : S w) :
    Run M w p (p.evalFor h n w).1 (p.evalFor h n w).2 := by
  induction n generalizing p w with
  | zero => exact .refl _ _
  | succ n ih =>
    cases p with
    | pure a => exact .refl _ _
    | call c next => exact .step (hserve w c hw).1 (ih _ (hserve w c hw).2)

theorem run_evalFor {h : W → (c : Call) → Reply c × W}
    (hserve : ∀ w c, M.serve w c (h w c).1 (h w c).2) (n : Nat) (p : Prog Reply α) (w : W) :
    Run M w p (p.evalFor h n w).1 (p.evalFor h n w).2 :=
  run_evalFor_of (S := fun _ => True) (fun w c _ => ⟨hserve w c, trivial⟩) n p trivial

end Prog

end Effects

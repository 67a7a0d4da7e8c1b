import Greffer.Cli.Update

/-! # The node of a local update

The world of a crash: the node's compose file and the process that rewrites it.  It knows whether the
old references are in the file, whether the gate has returned ready, whether the handler of a SIGTERM
is installed and whether the process is inside its `try`.  **One signal may arrive**, at any call or
at any of the points between; where a SIGTERM finds no handler, the process is dead.

`Stepped` says once what one call after the rewrite may do, guards included; the judgements of the
update rest on it alone.
-/
namespace Greffer.Cli
open Effects
open Greffer.Updater (GateOutcome)

/-! ## The node -/

/-- The compose file and the process. -/
structure Node where
  text : PyText
  /-- The rewriting of the image tags has begun. -/
  began : Bool := false
  /-- The references are still there, or have been put back. -/
  back : Bool := true
  /-- The health gate has returned ready. -/
  ready : Bool := false
  /-- The handler of a SIGTERM is installed. -/
  handler : Bool := false
  inTry : Bool := false
  /-- The signal has arrived. -/
  signalled : Bool := false
  dead : Bool := false

/-- The process is at a point. -/
def Node.passed (n : Node) : Point → Node
  | .rewritten => n
  | .entering => { n with inTry := true }
  | .leaving => { n with inTry := false }

/-- A failure of a call. -/
inductive Fails : Interruption → Prop where
  | osError : Fails .osError
  | raised (text : String) : Fails (.raised text)

/-- What a call does to which no signal comes. -/
def Works (n : Node) (c : UpdateCall) (r : Raises UpdateCall.Answer Interruption c) (n' : Node) :
    Prop :=
  match c, r with
  | .retag target, .ok refs => refs = capturedRefs n.text ∧
      n' = { n with text := retagText target n.text, began := true, back := false }
  | .retag _, .error e => Fails e ∧ n' = { n with began := true }
  | .setImageRefs refs, .ok _ => n' = { n with text := putBack refs n.text, back := true }
  | .installHandler, .ok prev => n' = { n with handler := true } ∨ prev = false ∧ n' = n
  | .restoreHandler, .ok _ => n' = { n with handler := false }
  | .point p, .ok _ => n' = n.passed p
  | .gateReturned outcome, .ok _ => n' = { n with ready := n.ready || decide (outcome = .ready) }
  -- these raise nothing of their own
  | .installHandler, .error _ | .restoreHandler, .error _ | .point _, .error _
  | .gateReturned _, .error _ => False
  | _, .ok _ => n' = n
  | _, .error e => Fails e ∧ n' = n

/-- Where a signal finds the node that arrives at a call: the call may have done its work or not.  A
`try` that is only about to be entered is not entered, and one that was left is left. -/
def Found (n : Node) : UpdateCall → Node → Prop
  | .point .leaving, m => m = n.passed .leaving
  | .point _, m => m = n
  | c, m => m = n ∨ ∃ a, Works n c (.ok a) m

/-- A signal arrives: a KeyboardInterrupt, or a SIGTERM with or without a handler. -/
inductive Strikes {c : UpdateCall} (m : Node) : Raises UpdateCall.Answer Interruption c → Node → Prop
  | interrupt : Strikes m (.error .interrupt) { m with signalled := true }
  | terminated (h : m.handler = true) :
      Strikes m (.error .terminated) { m with signalled := true }
  | killed (h : m.handler = false) :
      Strikes m (.error .killed) { m with signalled := true, dead := true }

/-- A call of a process that is there, with at most one signal in a run; a dead process does nothing
any more. -/
def nodeMachine : Machine (Raises UpdateCall.Answer Interruption) Node where
  serve n c r n' :=
    if n.dead = true then r = .error .killed ∧ n' = n
    else Works n c r n' ∨ n.signalled = false ∧ ∃ m, Found n c m ∧ Strikes m r n'

/-- **The condition on a step.**  While the new references are in the file without the gate having
returned ready, no SIGTERM comes without a handler, and outside the `try` nothing is raised but by
the handler. -/
def Sheltered (_ : Node) (c : UpdateCall) (r : Raises UpdateCall.Answer Interruption c) (n' : Node) :
    Prop :=
  n'.back = false → n'.ready = false →
    r ≠ .error .killed ∧ (n'.inTry = false → ∀ e, r = .error e → e = .terminated)

/-- What the process exits with. -/
def exitCode : Except Interruption Int → Int
  | .ok code => code
  | .error (.systemExit code) => code
  | .error .interrupt => 130
  | .error .terminated | .error .killed => 143
  | .error _ => 1

/-! ## What one step does -/

/-- The machine whose steps meet the condition. -/
abbrev shelteredMachine : Machine (Raises UpdateCall.Answer Interruption) Node :=
  nodeMachine.restrict Sheltered

/-- The old references are there, or the gate has returned ready. -/
def Settled (n : Node) : Prop := n.back = true ∨ n.ready = true

/-- No call raises `SystemExit`. -/
def NotExit (e : Interruption) : Prop := ∀ code, e ≠ .systemExit code

/-- The calls that come after the rewrite: the references they put back are the captured ones. -/
def Tame (refs : Refs) : UpdateCall → Prop
  | .retag _ => False
  | .setImageRefs given => given = refs
  | _ => True

/-- What a tame step may do to the file and to the gate's verdict. -/
structure Follows (refs : Refs) (n n' : Node) : Prop where
  text : n'.text = n.text ∧ n'.back = n.back ∨ n'.text = putBack refs n.text ∧ n'.back = true
  ready : n.ready = true → n'.ready = true

section Step
variable {n m n' : Node} {c : UpdateCall} {r : Raises UpdateCall.Answer Interruption c}
  {refs : Refs}

theorem Follows.settled (h : Follows refs n n') (hn : Settled n) : Settled n' := by
  rcases hn with hback | hready
  · rcases h.text with ⟨-, hsame⟩ | ⟨-, hput⟩
    · exact .inl (hsame.trans hback)
    · exact .inl hput
  · exact .inr (h.ready hready)

theorem follows_refl (n : Node) : Follows refs n n := ⟨.inl ⟨rfl, rfl⟩, id⟩

theorem follows_of_eq (h : m = n) : Follows refs n m := by
  subst h
  exact follows_refl m

theorem follows_of_works (hc : Tame refs c) (h : Works n c r m) : Follows refs n m := by
  cases c
  case retag => exact hc.elim
  case setImageRefs given =>
    cases r with
    | error e => exact follows_of_eq h.2
    | ok _ =>
      cases h
      cases (show given = refs from hc)
      exact ⟨.inr ⟨rfl, rfl⟩, id⟩
  case installHandler =>
    cases r with
    | error e => exact h.elim
    | ok prev =>
      rcases h with rfl | ⟨-, rfl⟩
      · exact ⟨.inl ⟨rfl, rfl⟩, id⟩
      · exact follows_refl _
  case restoreHandler =>
    cases r with
    | error e => exact h.elim
    | ok _ =>
      cases h
      exact ⟨.inl ⟨rfl, rfl⟩, id⟩
  case point p =>
    cases r with
    | error e => exact h.elim
    | ok _ =>
      cases h
      cases p <;> exact ⟨.inl ⟨rfl, rfl⟩, id⟩
  case gateReturned outcome =>
    cases r with
    | error e => exact h.elim
    | ok _ =>
      cases h
      exact ⟨.inl ⟨rfl, rfl⟩, fun hready => by simp [hready]⟩
  all_goals
    cases r with
    | error e => exact follows_of_eq h.2
    | ok _ =>
      cases h
      exact follows_refl _

theorem follows_of_found (hc : Tame refs c) (h : Found n c m) : Follows refs n m := by
  cases c
  case point p =>
    cases p with
    | leaving =>
      cases h
      exact ⟨.inl ⟨rfl, rfl⟩, id⟩
    | rewritten =>
      cases h
      exact follows_refl _
    | entering =>
      cases h
      exact follows_refl _
  all_goals
    rcases h with rfl | ⟨a, hworks⟩
    · exact follows_refl _
    · exact follows_of_works hc hworks

theorem Strikes.follows (hn : Follows refs n m) (h : Strikes m r n') : Follows refs n n' := by
  cases h <;> exact ⟨hn.text, hn.ready⟩

theorem Strikes.inTry (h : Strikes m r n') : n'.inTry = m.inTry := by
  cases h <;> rfl

theorem not_exit_of_works {e : Interruption} (h : Works n c (.error e) m) : Fails e := by
  cases c
  case installHandler => exact h.elim
  case restoreHandler => exact h.elim
  case point => exact h.elim
  case gateReturned => exact h.elim
  all_goals exact h.1

/-- **One step after the rewrite.** -/
structure Stepped (refs : Refs) (n : Node) {c : UpdateCall}
    (r : Raises UpdateCall.Answer Interruption c) (n' : Node) : Prop where
  follows : Follows refs n n'
  /-- A process that is dead was dead, or is killed here. -/
  dies : n'.dead = true → n' = n ∨ r = .error .killed
  /-- A dead process is left as it is. -/
  stays : n.dead = true → n' = n ∧ r = .error .killed
  raises : ∀ e, r = .error e → NotExit e
  /-- A SIGTERM that is handled comes once. -/
  handles : r = .error .terminated → n.signalled = false ∧ n'.signalled = true
  signalled : n.signalled = true → n'.signalled = true
  shelters : Sheltered n c r n'

theorem works_signalled (h : Works n c r m) :
    m.signalled = n.signalled ∧ m.dead = n.dead := by
  cases c
  case installHandler =>
    cases r with
    | error e => exact h.elim
    | ok prev =>
      rcases h with rfl | ⟨-, rfl⟩
      · exact ⟨rfl, rfl⟩
      · exact ⟨rfl, rfl⟩
  case point p =>
    cases r with
    | error e => exact h.elim
    | ok _ =>
      cases h
      cases p <;> exact ⟨rfl, rfl⟩
  all_goals
    cases r with
    | error e => first | exact h.elim | exact h.2 ▸ ⟨rfl, rfl⟩
    | ok _ => first | exact h ▸ ⟨rfl, rfl⟩ | exact h.2 ▸ ⟨rfl, rfl⟩

theorem found_dead (h : Found n c m) : m.dead = n.dead := by
  cases c
  case point p =>
    cases p <;> cases h <;> rfl
  all_goals
    rcases h with rfl | ⟨a, hworks⟩
    · rfl
    · exact (works_signalled hworks).2

theorem stepped (hc : Tame refs c) (h : shelteredMachine.serve n c r n') : Stepped refs n r n' := by
  obtain ⟨hserve, hshelter⟩ := h
  have hserve' : if n.dead = true then r = .error .killed ∧ n' = n
    else Works n c r n' ∨ n.signalled = false ∧ ∃ m, Found n c m ∧ Strikes m r n' := hserve
  split at hserve'
  case isTrue hdead =>
    obtain ⟨rfl, rfl⟩ := hserve'
    refine ⟨follows_refl _, fun _ => .inl rfl, fun _ => ⟨rfl, rfl⟩, ?_, ?_, id, hshelter⟩
    · rintro e he code rfl
      cases he
    · intro he
      cases he
  case isFalse hdead =>
    rcases hserve' with hworks | ⟨hsignalled, m, hfound, hstrikes⟩
    · obtain ⟨hsig, hd⟩ := works_signalled hworks
      refine ⟨follows_of_works hc hworks, fun h => absurd (hd.symm.trans h) hdead,
        fun h => absurd h hdead, ?_, ?_, fun h => hsig.trans h, hshelter⟩
      · rintro e rfl code rfl
        cases not_exit_of_works hworks
      · rintro rfl
        cases not_exit_of_works hworks
    · have hsame : n'.signalled = true := by cases hstrikes <;> rfl
      refine ⟨hstrikes.follows (follows_of_found hc hfound), ?_, fun h => absurd h hdead, ?_,
        fun _ => ⟨hsignalled, hsame⟩, fun _ => hsame, hshelter⟩
      · intro hdies
        cases hstrikes with
        | killed => exact .inr rfl
        | interrupt => exact absurd ((found_dead hfound).symm.trans hdies) hdead
        | terminated => exact absurd ((found_dead hfound).symm.trans hdies) hdead
      · rintro e he code rfl
        cases hstrikes <;> cases he

end Step

end Greffer.Cli

import Greffer.Cli.Node
import Greffer.Cli.PutBack

/-! # What is left of the compose file

A local update rewrites the image references of the compose file before it knows whether the node
comes up with them, and relies on a cleanup to put the old ones back.  The references do not come
back from everywhere: `Sheltered` is what a step has to be for that.  While the new references are
in the file and the gate has not returned ready, a SIGTERM finds the handler installed, and outside
the `try` nothing else is raised.

`crash_consistent` says that this is enough, and `interrupted_after_rewrite` is a run without it: the
interrupt comes when the file is rewritten and the `try` is not entered.
-/
namespace Greffer.Cli
open Effects
open Greffer.Updater (GateOutcome)

/-! ## After the rewrite -/

/-- The file is the rewritten one, with the captured references put back so many times; and a dead
process has left a settled node. -/
structure Rewritten (text : PyText) (target : String) (n : Node) : Prop where
  orbit : ∃ k, n.text = (putBack (capturedRefs text))^[k] (retagText target text) ∧
    (n.back = true → 0 < k)
  alive : n.dead = true → Settled n

section Window
variable {text : PyText} {target : String} {n n' : Node} {c : UpdateCall}
  {r : Raises UpdateCall.Answer Interruption c} {l : Locals}

theorem Rewritten.step (hn : Rewritten text target n)
    (h : Stepped (capturedRefs text) n r n') : Rewritten text target n' := by
  refine ⟨?_, fun hdead => ?_⟩
  · obtain ⟨k, htext, hk⟩ := hn.orbit
    rcases h.follows.text with ⟨hsame, hback⟩ | ⟨hput, -⟩
    · exact ⟨k, hsame.trans htext, fun hb => hk (hback.symm.trans hb)⟩
    · refine ⟨k + 1, ?_, fun _ => Nat.succ_pos k⟩
      rw [hput, htext, Function.iterate_succ_apply']
  · rcases h.dies hdead with rfl | hkilled
    · exact hn.alive hdead
    · by_contra hunsettled
      unfold Settled at hunsettled
      simp only [not_or, Bool.not_eq_true] at hunsettled
      exact (h.shelters hunsettled.1 hunsettled.2).1 hkilled

/-- Outside the `try`, what is raised is raised by a handler, or the node is settled. -/
theorem settled_of_raised {e : Interruption} (h : Stepped (capturedRefs text) n r n')
    (hout : n'.inTry = false) (he : r = .error e) : e = .terminated ∨ Settled n' := by
  by_contra hne
  unfold Settled at hne
  simp only [not_or, Bool.not_eq_true] at hne
  exact hne.1 ((h.shelters hne.2.1 hne.2.2).2 hout e he)

/-- The calls of the window are tame. -/
abbrev TameCall (text : PyText) : UpdateCall → Prop := Tame (capturedRefs text)

theorem tame_of_observing (h : Observing c) : TameCall text c := by
  cases c <;> trivial

/-- Code after the rewrite, within the tame calls: it raises no exit of its own. -/
theorem rewritten_along {α : Type} {m : Step α} (hm : m.Within (TameCall text) NotExit)
    (hn : Rewritten text target n) :
    m.Always shelteredMachine (Rewritten text target)
      (fun r _ => ∀ e, r = .error e → NotExit e) n :=
  hm.always (fun _ _ _ _ hc hw hserve =>
    ⟨hw.step (stepped hc hserve), (stepped hc hserve).raises⟩) hn

/-! ### The handler -/

variable {I : Node → Prop} {α : Type} {refs : Refs}

theorem always_disarm {Q : Except Interruption Unit → Locals → Node → Prop} :
    (disarm refs).Always shelteredMachine I Q l n ↔
      I n ∧ (l.gatePassed = true → Q (.ok ()) l n) ∧
        (l.gatePassed = false → ∀ r n', shelteredMachine.serve n (.setImageRefs refs) r n' →
          I n' ∧ Q r l n') := by
  have hcall : (run (.setImageRefs refs)).Always shelteredMachine I (fun r n => Q r l n) n ↔
      I n ∧ ∀ r n', shelteredMachine.serve n (.setImageRefs refs) r n' → I n' ∧ Q r l n' :=
    Action.always_perform _
  unfold disarm
  rw [Routine.always_bind, Routine.always_locals, Routine.onOk_ok, Routine.always_ite,
    Routine.always_monadLift, hcall, Routine.always_pure]
  cases l.gatePassed <;> simp

theorem always_onSigterm {Q : Except Interruption α → Locals → Node → Prop} :
    (onSigterm refs : Task α).Always shelteredMachine I Q l n ↔
      I n ∧ (l.gatePassed = true → Q (.error (.systemExit exitOk)) l n) ∧
        (l.gatePassed = false → ∀ r n', shelteredMachine.serve n (.setImageRefs refs) r n' →
          I n' ∧ ((∀ e, r = .error e → Q (.error e) l n') ∧
            (r = .ok () → Q (.error (.systemExit 143)) l n'))) := by
  unfold onSigterm
  rw [Routine.always_bind, always_disarm]
  refine and_congr_right fun hn => and_congr ?_ ?_
  · refine imp_congr_right fun hpassed => ?_
    rw [Routine.onOk_ok, Routine.always_bind, Routine.always_locals, Routine.onOk_ok,
      Routine.always_raise]
    simp [hn, hpassed]
  · refine imp_congr_right fun hpassed => forall₃_congr fun r n' hserve =>
      and_congr_right fun hn' => ?_
    cases r with
    | error e => simp
    | ok _ =>
      rw [Routine.onOk_ok, Routine.always_bind, Routine.always_locals, Routine.onOk_ok,
        Routine.always_raise]
      simp [hn', hpassed]

theorem always_handled {m : Task α} {Q : Except Interruption α → Locals → Node → Prop} :
    (handled refs m).Always shelteredMachine I Q l n ↔
      m.Always shelteredMachine I (fun r l n =>
        (r = .error .terminated → (onSigterm refs : Task α).Always shelteredMachine I Q l n) ∧
          (r ≠ .error .terminated → Q r l n)) l n := by
  unfold handled
  rw [Routine.always_tryExcept]
  refine ⟨fun h => h.mono ?_, fun h => h.mono ?_⟩
  · intro r l n hI hr
    cases r with
    | ok a => exact ⟨fun h => (by cases h), fun _ => hr⟩
    | error e =>
      cases e with
      | terminated => exact ⟨fun _ => hr, fun h => absurd rfl h⟩
      | _ => exact ⟨fun h => (by cases h), fun _ => hr.2⟩
  · intro r l n hI hr
    cases r with
    | ok a => exact hr.2 (fun h => by cases h)
    | error e =>
      cases e with
      | terminated => exact hr.1 rfl
      | _ => exact ⟨hI, hr.2 (fun h => by cases h)⟩

/-- An exit with zero means that the gate has returned ready. -/
def Honest (r : Except Interruption Int) (n : Node) : Prop :=
  exitCode r = 0 → n.ready = true

theorem honest_of_error {e : Interruption} (he : NotExit e) : Honest (.error e) n := by
  intro hzero
  cases e with
  | systemExit code => exact absurd rfl (he code)
  | _ => cases hzero

/-- What is known of the gate is known to the process. -/
def Informed (l : Locals) (n : Node) : Prop := l.gatePassed = true → n.ready = true

end Window

/-! ### Outside the `try` -/

section Outside
variable {text : PyText} {target : String} {n n' : Node} {c : UpdateCall}
  {r : Raises UpdateCall.Answer Interruption c} {l : Locals}

/-- The process is outside the `try`, if it is there at all. -/
def Out (n : Node) : Prop := n.dead = true ∨ n.inTry = false

theorem works_inTry {m : Node} (hc : c ≠ .point .entering) (h : Works n c r m)
    (hn : n.inTry = false) : m.inTry = false := by
  cases c
  case installHandler =>
    cases r with
    | error e => exact h.elim
    | ok prev =>
      rcases h with rfl | ⟨-, rfl⟩
      · exact hn
      · exact hn
  case point p =>
    cases r with
    | error e => exact h.elim
    | ok _ =>
      cases h
      cases p with
      | rewritten => exact hn
      | entering => exact absurd rfl hc
      | leaving => rfl
  all_goals
    cases r with
    | error e => first | exact h.elim | exact h.2 ▸ hn
    | ok _ => first | exact h ▸ hn | exact h.2 ▸ hn

theorem found_inTry {m : Node} (h : Found n c m) (hn : n.inTry = false) : m.inTry = false := by
  cases c
  case point p =>
    cases p with
    | leaving =>
      cases h
      rfl
    | rewritten => exact h ▸ hn
    | entering => exact h ▸ hn
  all_goals
    rcases h with rfl | ⟨a, hworks⟩
    · exact hn
    · exact works_inTry (fun h => by cases h) hworks hn

/-- A step stays outside, unless it is the entering of the `try`. -/
theorem out_of_served (h : shelteredMachine.serve n c r n')
    (hc : c ≠ .point .entering ∨ ∃ e, r = .error e) (hn : Out n) : Out n' := by
  have hserve : if n.dead = true then r = .error .killed ∧ n' = n
    else Works n c r n' ∨ n.signalled = false ∧ ∃ m, Found n c m ∧ Strikes m r n' := h.1
  split at hserve
  case isTrue hdead => exact .inl (hserve.2 ▸ hdead)
  case isFalse hdead =>
    have hin : n.inTry = false := hn.resolve_left hdead
    rcases hserve with hworks | ⟨-, m, hfound, hstrikes⟩
    · refine .inr ?_
      rcases hc with hne | ⟨e, rfl⟩
      · exact works_inTry hne hworks hin
      · by_cases hpoint : c = .point .entering
        · subst hpoint
          exact hworks.elim
        · exact works_inTry hpoint hworks hin
    · exact .inr (hstrikes.inTry.trans (found_inTry hfound hin))

/-- At the `finally`, the `try` is left. -/
theorem out_of_leaving {r : Raises UpdateCall.Answer Interruption (.point .leaving)}
    (h : shelteredMachine.serve n (.point .leaving) r n') : Out n' := by
  have hserve : if n.dead = true then r = .error .killed ∧ n' = n
    else Works n (.point .leaving) r n' ∨
      n.signalled = false ∧ ∃ m, Found n (.point .leaving) m ∧ Strikes m r n' := h.1
  split at hserve
  case isTrue hdead => exact .inl (hserve.2 ▸ hdead)
  case isFalse hdead =>
    rcases hserve with hworks | ⟨-, m, rfl, hstrikes⟩
    · cases r with
      | error e => exact hworks.elim
      | ok _ => exact .inr (by rw [show n' = n.passed .leaving from hworks]; rfl)
    · exact .inr hstrikes.inTry

/-- What is raised outside: the node is settled, or a handler is about to run. -/
def Aftermath (e : Interruption) (n : Node) : Prop :=
  NotExit e ∧ (Settled n ∨ e = .terminated ∧ n.signalled = true)

theorem aftermath_of_raised {e : Interruption} (hn : Rewritten text target n)
    (h : Stepped (capturedRefs text) n r n') (hout : Out n') (he : r = .error e) :
    Aftermath e n' := by
  refine ⟨h.raises e he, ?_⟩
  rcases hout with hdead | hin
  · exact .inl ((hn.step h).alive hdead)
  · rcases settled_of_raised h hin he with rfl | hsettled
    · exact .inr ⟨rfl, (h.handles he).2⟩
    · exact .inl hsettled

theorem works_of_ok {a : c.Answer} (h : shelteredMachine.serve n c (.ok a) n') :
    Works n c (.ok a) n' := by
  have hserve : if n.dead = true then
      (.ok a : Raises UpdateCall.Answer Interruption c) = .error .killed ∧ n' = n
    else Works n c (.ok a) n' ∨ n.signalled = false ∧
      ∃ m, Found n c m ∧ Strikes m (.ok a : Raises UpdateCall.Answer Interruption c) n' := h.1
  split at hserve
  case isTrue => cases hserve.1
  case isFalse =>
    rcases hserve with hworks | ⟨-, m, -, hstrikes⟩
    · exact hworks
    · cases hstrikes

theorem settled_of_putBack {refs : Refs}
    (h : shelteredMachine.serve n (.setImageRefs refs) (.ok ()) n') : Settled n' := by
  cases works_of_ok h
  exact .inl rfl

/-- A gate that has returned ready is known to have. -/
theorem ready_of_returned
    (h : shelteredMachine.serve n (.gateReturned .ready) (.ok ()) n') : n'.ready = true := by
  cases works_of_ok h
  simp

/-- A SIGTERM that is handled found the handler; the calls that do not install one leave it. -/
theorem handler_of_terminated
    (h : shelteredMachine.serve n (.point .rewritten) (.error .terminated) n') :
    n.handler = true := by
  have hserve : if n.dead = true then
      (.error .terminated : Raises UpdateCall.Answer Interruption (.point .rewritten)) =
        .error .killed ∧ n' = n
    else Works n (.point .rewritten) (.error .terminated) n' ∨ n.signalled = false ∧
      ∃ m, Found n (.point .rewritten) m ∧
        Strikes m (.error .terminated : Raises UpdateCall.Answer Interruption (.point .rewritten))
          n' := h.1
  split at hserve
  case isTrue => cases hserve.1
  case isFalse =>
    rcases hserve with hworks | ⟨-, m, hfound, hstrikes⟩
    · exact hworks.elim
    · cases hfound
      cases hstrikes
      assumption

/-! ### The handler, judged -/

variable {α : Type} {p : Prop}

/-- `p` is only so if the gate has returned ready. -/
def Knows (p : Prop) (n : Node) : Prop := p → n.ready = true

theorem Knows.step (hn : Knows p n) (h : Stepped (capturedRefs text) n r n') : Knows p n' :=
  fun hp => h.follows.ready (hn hp)

theorem Informed.step (hl : Informed l n) (h : Stepped (capturedRefs text) n r n') :
    Informed l n' := Knows.step hl h

/-- **Outside the `try`, the handler settles the node.** -/
theorem onSigterm_settles {Q : Except Interruption α → Locals → Node → Prop}
    (hn : Rewritten text target n) (hout : Out n) (hsig : Settled n ∨ n.signalled = true)
    (hl : Informed l n) (hp : Knows p n)
    (hQ : ∀ e n, Informed l n → Settled n → Knows p n → Honest (.error e) n → Q (.error e) l n) :
    (onSigterm (capturedRefs text) : Task α).Always shelteredMachine (Rewritten text target)
      Q l n := by
  rw [always_onSigterm]
  refine ⟨hn, fun hpassed => ?_, fun _ r n' hserve => ?_⟩
  · exact hQ _ _ hl (.inr (hl hpassed)) hp fun _ => hl hpassed
  · have hstep : Stepped (capturedRefs text) n r n' := stepped rfl hserve
    refine ⟨hn.step hstep, ?_, ?_⟩
    · rintro e rfl
      have hafter := aftermath_of_raised hn hstep
        (out_of_served hserve (.inl fun h => by cases h) hout) rfl
      refine hQ _ _ (hl.step hstep) ?_ (hp.step hstep) (honest_of_error hafter.1)
      rcases hafter.2 with hsettled | ⟨rfl, -⟩
      · exact hsettled
      · rcases hsig with hsettled | hsignalled
        · exact hstep.follows.settled hsettled
        -- the one signal has arrived before
        · exact absurd (hstep.handles rfl).1 (by simp [hsignalled])
    · rintro rfl
      exact hQ _ _ (hl.step hstep) (settled_of_putBack hserve) (hp.step hstep) fun h => by cases h

/-- Inside the `try`, the handler exits with zero only if the gate has returned ready. -/
theorem onSigterm_honest (hn : Rewritten text target n) (hl : Informed l n) :
    (onSigterm (capturedRefs text) : Task Int).Always shelteredMachine (Rewritten text target)
      (fun r l n => Informed l n ∧ Honest r n) l n := by
  rw [always_onSigterm]
  refine ⟨hn, fun hpassed => ⟨hl, fun _ => hl hpassed⟩, fun _ r n' hserve => ?_⟩
  have hstep : Stepped (capturedRefs text) n r n' := stepped rfl hserve
  refine ⟨hn.step hstep, ?_, ?_⟩
  · rintro e rfl
    exact ⟨hl.step hstep, honest_of_error (hstep.raises e rfl)⟩
  · rintro rfl
    exact ⟨hl.step hstep, fun h => by cases h⟩

/-! ### The cleanup -/

/-- **The cleanup settles the node**, and forgets nothing of the gate. -/
theorem cleanup_settles {prev : Bool} (hn : Rewritten text target n) (hl : Informed l n)
    (hp : Knows p n) :
    (handled (capturedRefs text) (cleanup (capturedRefs text) prev)).Always shelteredMachine
      (Rewritten text target) (fun r _ n => Settled n ∧ Knows p n ∧
        ∀ e, r = .error e → Honest (.error e) n) l n := by
  -- before the handler: outside, and settled unless it is about to run
  have hbody : (cleanup (capturedRefs text) prev).Always shelteredMachine (Rewritten text target)
      (fun r l n => Out n ∧ Informed l n ∧ Knows p n ∧ (r = .ok () → Settled n) ∧
        ∀ e, r = .error e → Aftermath e n) l n := by
    unfold cleanup
    rw [Routine.always_bind, Routine.always_monadLift]
    refine (Action.always_perform _).mpr ⟨hn, fun r n₁ hserve => ?_⟩
    have hstep : Stepped (capturedRefs text) n r n₁ := stepped trivial hserve
    have hn₁ := hn.step hstep
    have hout₁ := out_of_leaving hserve
    refine ⟨hn₁, ?_⟩
    cases r with
    | error e =>
      refine ⟨hout₁, hl.step hstep, hp.step hstep, fun h => (by cases h), ?_⟩
      rintro e' he
      cases he
      exact aftermath_of_raised hn hstep hout₁ rfl
    | ok _ =>
      have hl₁ : Informed l n₁ := hl.step hstep
      have hp₁ : Knows p n₁ := hp.step hstep
      -- the handler is restored in a settled node
      have hrestore (n₂ : Node) (hn₂ : Rewritten text target n₂) (hout₂ : Out n₂)
          (hl₂ : Informed l n₂) (hp₂ : Knows p n₂) (hsettled : Settled n₂) :
          (if prev then (monadLift (run .restoreHandler) : Task Unit) else pure ()).Always
            shelteredMachine (Rewritten text target)
            (fun r l n => Out n ∧ Informed l n ∧ Knows p n ∧ (r = .ok () → Settled n) ∧
              ∀ e, r = .error e → Aftermath e n) l n₂ := by
        rw [Routine.always_ite]
        refine ⟨fun _ => ?_,
          fun _ => ⟨hn₂, hout₂, hl₂, hp₂, fun _ => hsettled, fun e he => (by cases he)⟩⟩
        rw [Routine.always_monadLift]
        refine (Action.always_perform _).mpr ⟨hn₂, fun r n₃ hserve => ?_⟩
        have hstep : Stepped (capturedRefs text) n₂ r n₃ := stepped trivial hserve
        have hout₃ := out_of_served hserve (.inl fun h => by cases h) hout₂
        exact ⟨hn₂.step hstep, hout₃, hl₂.step hstep, hp₂.step hstep,
          fun _ => hstep.follows.settled hsettled,
          fun e he => aftermath_of_raised hn₂ hstep hout₃ he⟩
      rw [Routine.onOk_ok, Routine.always_bind, always_disarm]
      refine ⟨hn₁, fun hpassed => ?_, fun _ r n₂ hserve => ?_⟩
      · exact hrestore n₁ hn₁ hout₁ hl₁ hp₁ (.inr (hl₁ hpassed))
      · have hstep : Stepped (capturedRefs text) n₁ r n₂ := stepped rfl hserve
        have hout₂ := out_of_served hserve (.inl fun h => by cases h) hout₁
        refine ⟨hn₁.step hstep, ?_⟩
        cases r with
        | error e =>
          refine ⟨hout₂, hl₁.step hstep, hp₁.step hstep, fun h => (by cases h), ?_⟩
          rintro e' he
          cases he
          exact aftermath_of_raised hn₁ hstep hout₂ rfl
        | ok _ =>
          exact hrestore n₂ (hn₁.step hstep) hout₂ (hl₁.step hstep) (hp₁.step hstep)
            (settled_of_putBack hserve)
  rw [always_handled]
  refine hbody.mono ?_
  rintro r _ n hn ⟨hout, hl, hp, hok, herror⟩
  constructor
  · rintro rfl
    have hsig : Settled n ∨ n.signalled = true := by
      rcases (herror _ rfl).2 with hsettled | ⟨-, hsignalled⟩
      · exact .inl hsettled
      · exact .inr hsignalled
    refine onSigterm_settles hn hout hsig hl hp fun e n _ hsettled hp hhonest => ?_
    refine ⟨hsettled, hp, ?_⟩
    rintro e' he
    cases he
    exact hhonest
  · intro hne
    refine ⟨?_, hp, fun e he => honest_of_error (herror e he).1⟩
    cases r with
    | ok _ => exact hok rfl
    | error e =>
      rcases (herror e rfl).2 with hsettled | ⟨rfl, -⟩
      · exact hsettled
      · exact absurd rfl hne

end Outside

/-! ## Inside the `try` -/

section Inside
variable {text : PyText} {target : String} {n n' : Node} {l : Locals} (g : GateRequest)

theorem rollback_within :
    (rollback g (capturedRefs text)).Within (TameCall text) NotExit := by
  unfold rollback
  have hput : TameCall text (.setImageRefs (capturedRefs text)) := rfl
  refine (Action.within_perform hput).bind fun _ => ?_
  refine (Action.within_perform trivial).bind fun up => ?_
  refine Action.Within.bind ?_ fun healthy => ?_
  · split
    · exact (rollbackHealth_observes g).mono fun _ => tame_of_observing
    · exact Action.within_pure _
  · split
    · exact (Action.within_perform trivial).bind fun _ => Action.within_pure _
    · exact (Action.within_perform trivial).bind fun _ => Action.within_pure _

theorem rollback_returns (refs : Refs) :
    (rollback g refs).Returns fun r => ∀ code, r = .ok code → code ≠ 0 := by
  refine .thenAny (fun _ _ h => by cases h) fun _ => .thenAny (fun _ _ h => by cases h) fun up => ?_
  refine .thenAny (fun _ _ h => by cases h) fun healthy => ?_
  split
  · refine .thenAny (fun _ _ h => by cases h) fun _ => ?_
    rintro code h
    cases h
    decide
  · refine .thenAny (fun _ _ h => by cases h) fun _ => ?_
    rintro code h
    cases h
    decide

/-- What the body of the `try` is judged by. -/
abbrev TryHonest : Except Interruption Int → Locals → Node → Prop :=
  fun r l n => Informed l n ∧ Honest r n

theorem informed_of_not_passed (hl : l.gatePassed = false) : Informed l n := by
  intro hpassed
  rw [hl] at hpassed
  cases hpassed

/-- Code that knows nothing of the gate, before more of the body. -/
theorem honest_after {α : Type} {m : Step α} {f : α → Task Int}
    (hm : m.Within (TameCall text) NotExit) (hn : Rewritten text target n)
    (hl : l.gatePassed = false)
    (hf : ∀ a n, Rewritten text target n →
      (f a).Always shelteredMachine (Rewritten text target) TryHonest l n) :
    ((monadLift m : Task α) >>= f).Always shelteredMachine (Rewritten text target)
      TryHonest l n := by
  rw [Routine.always_bind, Routine.always_monadLift]
  refine (rewritten_along hm hn).mono ?_
  intro r n hn hr
  cases r with
  | error e => exact ⟨informed_of_not_passed hl, honest_of_error (hr e rfl)⟩
  | ok a => exact hf a n hn

theorem rollback_honest (hn : Rewritten text target n) (hl : l.gatePassed = false) :
    (monadLift (rollback g (capturedRefs text)) : Task Int).Always shelteredMachine
      (Rewritten text target) TryHonest l n := by
  rw [Routine.always_monadLift]
  refine (Prog.Always.returning (rewritten_along (rollback_within g) hn)
    (rollback_returns g (capturedRefs text))).mono ?_
  intro r n hn hr
  refine ⟨informed_of_not_passed hl, ?_⟩
  cases r with
  | error e => exact honest_of_error (hr.2 e rfl)
  | ok code => exact fun hzero => absurd hzero (hr.1 code rfl)

/-- A statement that reports and a code that is not zero. -/
theorem refusal_honest (m : Message) {code : Int} (hcode : code ≠ 0)
    (hn : Rewritten text target n) (hl : l.gatePassed = false) :
    ((monadLift (say m) : Task Unit) >>= fun _ => pure code).Always shelteredMachine
      (Rewritten text target) TryHonest l n :=
  honest_after (Action.within_perform trivial) hn hl fun _ _ hn =>
    ⟨hn, informed_of_not_passed hl, fun hzero => absurd hzero hcode⟩

/-- **The body of the `try` exits with zero only if the gate has returned ready.** -/
theorem attempt_honest (hn : Rewritten text target n) (hl : l.gatePassed = false) :
    (attempt g (capturedRefs text)).Always shelteredMachine (Rewritten text target)
      TryHonest l n := by
  unfold attempt
  refine honest_after (Action.within_perform trivial) hn hl fun pull n hn => ?_
  rw [Routine.always_ite]
  refine ⟨fun _ => refusal_honest _ (by decide) hn hl, fun _ => ?_⟩
  refine honest_after (Action.within_perform trivial) hn hl fun up n hn => ?_
  rw [Routine.always_ite]
  refine ⟨fun _ => rollback_honest g hn hl, fun _ => ?_⟩
  refine honest_after ((healthGate_observes g).mono fun _ => tame_of_observing) hn hl
    fun outcome n hn => ?_
  rw [Routine.always_bind, Routine.always_monadLift]
  refine (Action.always_perform _).mpr ⟨hn, fun r n₁ hserve => ?_⟩
  have hstep : Stepped (capturedRefs text) n r n₁ := stepped trivial hserve
  have hn₁ := hn.step hstep
  refine ⟨hn₁, ?_⟩
  cases r with
  | error e => exact ⟨informed_of_not_passed hl, honest_of_error (hstep.raises e rfl)⟩
  | ok _ =>
    rw [Routine.onOk_ok, Routine.always_ite]
    refine ⟨fun hready => ?_, fun _ => ?_⟩
    · subst hready
      have hknown : n₁.ready = true := ready_of_returned hserve
      rw [Routine.always_bind, Routine.always_assign, Routine.onOk_ok, Routine.always_bind,
        Routine.always_monadLift]
      refine ⟨hn₁, (Action.always_perform _).mpr ⟨hn₁, fun r n₂ hserve => ?_⟩⟩
      have hstep₂ : Stepped (capturedRefs text) n₁ r n₂ := stepped trivial hserve
      have hknown₂ : n₂.ready = true := hstep₂.follows.ready hknown
      refine ⟨hn₁.step hstep₂, ?_⟩
      cases r with
      | error e => exact ⟨fun _ => hknown₂, fun _ => hknown₂⟩
      | ok _ => exact ⟨hn₁.step hstep₂, fun _ => hknown₂, fun _ => hknown₂⟩
    · exact honest_after (Action.within_perform trivial) hn₁ hl
        fun _ n hn => rollback_honest g hn hl

/-! ## The window -/

/-- **From the `try` on**, the node is settled at the end. -/
theorem try_settles {prev : Bool} (hn : Rewritten text target n) (hl : l.gatePassed = false) :
    (Routine.tryFinally (handled (capturedRefs text) (attempt g (capturedRefs text)))
      (handled (capturedRefs text) (cleanup (capturedRefs text) prev))).Always shelteredMachine
      (Rewritten text target) (fun r _ n => Settled n ∧ Honest r n) l n := by
  rw [Routine.always_tryFinally]
  have hbody : (handled (capturedRefs text) (attempt g (capturedRefs text))).Always
      shelteredMachine (Rewritten text target) TryHonest l n := by
    rw [always_handled]
    refine (attempt_honest g hn hl).mono ?_
    intro r l n hn hr
    exact ⟨fun _ => onSigterm_honest hn hr.1, fun _ => hr⟩
  refine hbody.mono ?_
  intro r l n hn hr
  refine (cleanup_settles (p := exitCode r = 0) hn hr.1 hr.2).mono ?_
  rintro (e | _) l n - ⟨hsettled, hknows, herror⟩
  · exact ⟨hsettled, herror e rfl⟩
  · exact ⟨hsettled, hknows⟩

/-- The node right after the rewrite. -/
structure Exposed (text : PyText) (target : String) (n : Node) : Prop extends
    Rewritten text target n where
  handler : n.handler = false
  inTry : n.inTry = false
  ready : n.ready = false

/-- **From the rewrite on**, the node is settled at the end. -/
theorem exposed_settles (hn : Exposed text target n) (hl : l.gatePassed = false) :
    ((monadLift (run (.point .rewritten)) : Task Unit) >>= fun _ =>
      handled (capturedRefs text) (do
        let prev ← run .installHandler
        run (.point .entering)
        return prev) >>= fun prev =>
      Routine.tryFinally (handled (capturedRefs text) (attempt g (capturedRefs text)))
        (handled (capturedRefs text) (cleanup (capturedRefs text) prev))).Always shelteredMachine
      (Rewritten text target) (fun r _ n => Settled n ∧ Honest r n) l n := by
  rw [Routine.always_bind, Routine.always_monadLift]
  refine (Action.always_perform _).mpr ⟨hn.toRewritten, fun r n₁ hserve => ?_⟩
  have hstep : Stepped (capturedRefs text) n r n₁ := stepped trivial hserve
  have hn₁ := hn.toRewritten.step hstep
  have hout₁ := out_of_served hserve (.inl fun h => by cases h) (.inr hn.inTry)
  refine ⟨hn₁, ?_⟩
  cases r with
  | error e =>
    have hafter := aftermath_of_raised hn.toRewritten hstep hout₁ rfl
    refine ⟨?_, honest_of_error hafter.1⟩
    rcases hafter.2 with hsettled | ⟨rfl, -⟩
    · exact hsettled
    -- no handler is installed
    · exact absurd (handler_of_terminated hserve) (by simp [hn.handler])
  | ok _ =>
    rw [Routine.onOk_ok, Routine.always_bind, always_handled, Routine.always_bind,
      Routine.always_monadLift]
    refine (Action.always_perform _).mpr ⟨hn₁, fun r n₂ hserve => ?_⟩
    have hstep₂ : Stepped (capturedRefs text) n₁ r n₂ := stepped trivial hserve
    have hn₂ := hn₁.step hstep₂
    have hout₂ := out_of_served hserve (.inl fun h => by cases h) hout₁
    have hl₂ (n : Node) : Informed l n := informed_of_not_passed hl
    -- what is raised before the `try` is settled, by the handler if need be
    have hraised (n : Node) (e : Interruption) (hn : Rewritten text target n) (hout : Out n)
        (hafter : Aftermath e n) :
        ((.error e : Except Interruption Bool) = .error .terminated →
          (onSigterm (capturedRefs text) : Task Bool).Always shelteredMachine
            (Rewritten text target) (Routine.onOk (fun prev l n =>
              (Routine.tryFinally (handled (capturedRefs text) (attempt g (capturedRefs text)))
                (handled (capturedRefs text) (cleanup (capturedRefs text) prev))).Always
                shelteredMachine (Rewritten text target) (fun r _ n => Settled n ∧ Honest r n) l n)
              (fun r _ n => Settled n ∧ Honest r n)) l n) ∧
        ((.error e : Except Interruption Bool) ≠ .error .terminated → Settled n ∧
          Honest (.error e) n) := by
      constructor
      · intro he
        cases he
        have hsig : Settled n ∨ n.signalled = true := by
          rcases hafter.2 with hsettled | ⟨-, hsignalled⟩
          · exact .inl hsettled
          · exact .inr hsignalled
        exact onSigterm_settles (p := False) hn hout hsig (hl₂ n) False.elim
          fun e n _ hsettled _ hhonest => ⟨hsettled, hhonest⟩
      · intro hne
        refine ⟨?_, honest_of_error hafter.1⟩
        rcases hafter.2 with hsettled | ⟨rfl, -⟩
        · exact hsettled
        · exact absurd rfl hne
    refine ⟨hn₂, ?_⟩
    cases r with
    | error e => exact hraised n₂ e hn₂ hout₂ (aftermath_of_raised hn₁ hstep₂ hout₂ rfl)
    | ok prev =>
      rw [Routine.onOk_ok, Routine.always_bind, Routine.always_monadLift]
      refine (Action.always_perform _).mpr ⟨hn₂, fun r n₃ hserve => ?_⟩
      have hstep₃ : Stepped (capturedRefs text) n₂ r n₃ := stepped trivial hserve
      have hn₃ := hn₂.step hstep₃
      refine ⟨hn₃, ?_⟩
      cases r with
      | error e =>
        have hout₃ := out_of_served hserve (.inr ⟨e, rfl⟩) hout₂
        exact hraised n₃ e hn₃ hout₃ (aftermath_of_raised hn₂ hstep₃ hout₃ rfl)
      | ok _ => exact ⟨hn₃, fun h => (by cases h), fun _ => try_settles g hn₃ hl⟩

end Inside

/-! ## Before the rewrite, and after the window -/

section Whole
variable {text : PyText} {n n' : Node} {c : UpdateCall}
  {r : Raises UpdateCall.Answer Interruption c} {l : Locals}

/-- Calls that have nothing to do with the file. -/
def Early : UpdateCall → Prop
  | .retag _ | .setImageRefs _ | .installHandler | .restoreHandler | .point _ | .gateReturned _ =>
    False
  | _ => True

/-- The file and what is known of it are as they were. -/
structure SameFile (n n' : Node) : Prop where
  text : n'.text = n.text
  began : n'.began = n.began
  back : n'.back = n.back
  ready : n'.ready = n.ready
  handler : n'.handler = n.handler
  inTry : n'.inTry = n.inTry

theorem works_early (hc : Early c) (h : Works n c r n') : n' = n := by
  cases c <;> first
    | exact hc.elim
    | cases r with
      | error e => exact h.2
      | ok a => exact h

theorem sameFile_of_served (hc : Early c) (h : shelteredMachine.serve n c r n') :
    SameFile n n' := by
  have hserve : if n.dead = true then r = .error .killed ∧ n' = n
    else Works n c r n' ∨ n.signalled = false ∧ ∃ m, Found n c m ∧ Strikes m r n' := h.1
  have hrefl : SameFile n n := ⟨rfl, rfl, rfl, rfl, rfl, rfl⟩
  split at hserve
  case isTrue => exact hserve.2 ▸ hrefl
  case isFalse =>
    rcases hserve with hworks | ⟨-, m, hfound, hstrikes⟩
    · exact works_early hc hworks ▸ hrefl
    · have hm : m = n := by
        cases c
        case point => exact hc.elim
        all_goals
          rcases hfound with rfl | ⟨a, hworks⟩
          · rfl
          · exact works_early hc hworks
      subst hm
      cases hstrikes <;> exact ⟨rfl, rfl, rfl, rfl, rfl, rfl⟩

theorem raises_of_early (hc : Early c) (h : shelteredMachine.serve n c r n') :
    ∀ e, r = .error e → NotExit e := by
  have htame : Tame [] c := by
    cases c <;> first | exact hc.elim | trivial
  exact (stepped htame h).raises

theorem early_of_observing (h : Observing c) : Early c := by
  cases c <;> trivial

/-- Nothing has begun. -/
structure Steady (text : PyText) (n : Node) : Prop where
  text : n.text = text
  began : n.began = false
  ready : n.ready = false
  handler : n.handler = false
  inTry : n.inTry = false

theorem Steady.same (hn : Steady text n) (h : SameFile n n') : Steady text n' :=
  ⟨h.text.trans hn.text, h.began.trans hn.began, h.ready.trans hn.ready,
    h.handler.trans hn.handler, h.inTry.trans hn.inTry⟩

/-- The image references are the old ones, or the gate has returned ready. -/
def Restored (text : PyText) (n : Node) : Prop :=
  imageRefs n.text = imageRefs text ∨ n.ready = true

/-- **What the claim asks of a run that is over**: the references, and an exit with zero. -/
structure Consistent (text : PyText) (r : Except Interruption Int) (n : Node) : Prop where
  restored : Restored text n
  honest : n.began = true → Honest r n

/-- A process that is dead has left the file as the claim asks. -/
def Safe (text : PyText) (n : Node) : Prop := n.dead = true → Restored text n

theorem Steady.safe (hn : Steady text n) : Safe text n := fun _ => .inl (by rw [hn.text])

theorem Steady.consistent (hn : Steady text n) (r : Except Interruption Int) :
    Consistent text r n :=
  ⟨.inl (by rw [hn.text]), fun hbegan => absurd hbegan (by simp [hn.began])⟩

theorem Restored.same (hn : Restored text n) (h : SameFile n n') : Restored text n' := by
  unfold Restored
  rw [h.text, h.ready]
  exact hn

theorem Consistent.same {r : Except Interruption Int} (hn : Consistent text r n)
    (h : SameFile n n') : Consistent text r n' := by
  refine ⟨hn.restored.same h, fun hbegan hzero => ?_⟩
  rw [h.ready]
  exact hn.honest (h.began.symm.trans hbegan) hzero

variable {target : String}

/-- References that were put back into a restorable file are the old ones. -/
theorem Rewritten.restored (hn : Rewritten text target n) (hrestorable : Restorable text)
    (htarget : isValidImageTag target = true) (hsettled : Settled n) : Restored text n := by
  rcases hsettled with hback | hready
  · obtain ⟨k, htext, hk⟩ := hn.orbit
    obtain ⟨j, rfl⟩ : ∃ j, k = j + 1 := ⟨k - 1, by have := hk hback; omega⟩
    exact .inl (by rw [htext, hrestorable target htarget j])
  · exact .inr hready

/-- **The rewriting.**  It happens as a whole or not at all, and no signal comes right after it. -/
theorem retag_spec {r : Raises UpdateCall.Answer Interruption (.retag target)}
    (hn : Steady text n) (h : shelteredMachine.serve n (.retag target) r n') :
    (∀ refs, r = .ok refs → refs = capturedRefs text ∧ Exposed text target n') ∧
      ∀ e, r = .error e → NotExit e ∧ n'.text = text := by
  have hserve : if n.dead = true then r = .error .killed ∧ n' = n
    else Works n (.retag target) r n' ∨
      n.signalled = false ∧ ∃ m, Found n (.retag target) m ∧ Strikes m r n' := h.1
  split at hserve
  case isTrue =>
    obtain ⟨rfl, rfl⟩ := hserve
    refine ⟨fun refs h => (by cases h), fun e he => ?_⟩
    cases he
    exact ⟨fun code h => (by cases h), hn.text⟩
  case isFalse hdead =>
    rcases hserve with hworks | ⟨-, m, hfound, hstrikes⟩
    · cases r with
      | error e =>
        obtain ⟨hfails, rfl⟩ := hworks
        refine ⟨fun refs h => (by cases h), fun e' he => ?_⟩
        cases he
        refine ⟨fun code h => ?_, hn.text⟩
        subst h
        cases hfails
      | ok refs =>
        obtain ⟨rfl, rfl⟩ := hworks
        refine ⟨fun refs h => ?_, fun e he => (by cases he)⟩
        cases h
        rw [hn.text]
        refine ⟨rfl, ⟨⟨⟨0, rfl, fun h => (by cases h)⟩, fun h => absurd h hdead⟩, hn.handler,
          hn.inTry, hn.ready⟩⟩
    · rcases hfound with rfl | ⟨refs, hworks⟩
      · have hsame : n'.text = m.text := by cases hstrikes <;> rfl
        refine ⟨fun refs h => ?_, fun e he => ⟨fun code h => ?_, hsame.trans hn.text⟩⟩
        · subst h
          cases hstrikes
        · subst h
          subst he
          cases hstrikes
      -- the references are rewritten, and nothing shelters them
      · obtain ⟨rfl, rfl⟩ := hworks
        exfalso
        cases hstrikes with
        | interrupt =>
          have := (h.2 rfl hn.ready).2 hn.inTry _ rfl
          cases this
        | terminated hhandler =>
          have hnone : n.handler = true := hhandler
          rw [hn.handler] at hnone
          cases hnone
        | killed => exact (h.2 rfl hn.ready).1 rfl

/-- What a routine of the run is judged by. -/
abbrev RunConsistent (text : PyText) : Except Interruption Int → Locals → Node → Prop :=
  fun r _ n => Consistent text r n

theorem mutate_consistent {g : GateRequest} (hrestorable : Restorable text) (hn : Steady text n)
    (hl : l.gatePassed = false) :
    (mutate g).Always shelteredMachine (Safe text) (RunConsistent text) l n := by
  unfold mutate
  rw [Routine.always_bind, Routine.always_monadLift]
  unfold setImageTag
  rw [Action.always_ite]
  refine ⟨fun htarget => ?_, fun _ => ⟨hn.safe, hn.consistent _⟩⟩
  refine (Action.always_perform _).mpr ⟨hn.safe, fun r n' hserve => ?_⟩
  obtain ⟨hok, herror⟩ := retag_spec hn hserve
  cases r with
  | error e =>
    obtain ⟨hexit, htext⟩ := herror e rfl
    have hrestored : Restored text n' := .inl (by rw [htext])
    exact ⟨fun _ => hrestored, hrestored, fun _ => honest_of_error hexit⟩
  | ok refs =>
    obtain ⟨rfl, hexposed⟩ := hok refs rfl
    have hrestored (n : Node) (hn : Rewritten text g.target n) (hsettled : Settled n) :
        Restored text n := hn.restored hrestorable htarget hsettled
    refine ⟨fun hdead => hrestored n' hexposed.toRewritten (hexposed.alive hdead), ?_⟩
    rw [Routine.onOk_ok]
    exact (exposed_settles g hexposed hl).imp (fun n hn hdead => hrestored n hn (hn.alive hdead))
      fun r l n hn hr => ⟨hrestored n hn hr.1, fun _ => hr.2⟩

/-! ## Along the text -/

/-- Early code leaves the file alone. -/
theorem steady_along {α : Type} {m : Step α} (hm : m.Within Early NotExit) (hn : Steady text n) :
    m.Always shelteredMachine (Steady text) (fun _ _ => True) n :=
  (hm.always (fun _ _ _ _ hc hw hserve =>
    ⟨hw.same (sameFile_of_served hc hserve), raises_of_early hc hserve⟩) hn).mono
      fun _ _ _ _ => trivial

theorem consistent_after {α : Type} {m : Step α} {f : α → Task Int}
    (hm : m.Within Early NotExit) (hn : Steady text n)
    (hf : ∀ a n, Steady text n →
      (f a).Always shelteredMachine (Safe text) (RunConsistent text) l n) :
    ((monadLift m : Task α) >>= f).Always shelteredMachine (Safe text) (RunConsistent text) l n :=
  Routine.lift_bind_frame (fun _ hn => hn.safe) (steady_along hm hn)
    (fun _ _ hn => hn.consistent _) hf

/-- The release of the lock leaves the file alone, and its exceptions are no exits. -/
theorem release_consistent (lock : LockHandle) {r : Except Interruption Int}
    (hn : Consistent text r n) :
    (monadLift (releaseUpdateLock lock) : Task Unit).Always shelteredMachine (Safe text)
      (fun r' l n => match r' with
        | .ok () => RunConsistent text r l n
        | .error e => RunConsistent text (.error e) l n) l n := by
  rw [Routine.always_monadLift]
  have hwithin : (releaseUpdateLock lock).Within Early NotExit :=
    releaseUpdateLock_within trivial lock
  have halways : (releaseUpdateLock lock).Always shelteredMachine (Consistent text r)
      (fun r _ => ∀ e, r = .error e → NotExit e) n :=
    hwithin.always (fun _ _ _ _ hc hw hserve =>
      ⟨hw.same (sameFile_of_served hc hserve), raises_of_early hc hserve⟩) hn
  refine halways.imp (fun _ hn _ => hn.restored) ?_
  rintro (e | ⟨⟩) n hn herror
  · exact ⟨hn.restored, fun _ => honest_of_error (herror e rfl)⟩
  · exact hn

theorem underLock_consistent {req : UpdateRequest} {p : Plan} (hrestorable : Restorable text)
    (hn : Steady text n) (hl : l.gatePassed = false) :
    (underLock req p).Always shelteredMachine (Safe text) (RunConsistent text) l n := by
  refine consistent_after (Action.within_perform trivial) hn fun locked n hn => ?_
  refine consistent_after ((recheck_observes req p locked).mono fun _ => early_of_observing) hn
    fun code n hn => ?_
  cases code with
  | some code => exact ⟨hn.safe, hn.consistent _⟩
  | none => exact mutate_consistent hrestorable hn hl

theorem carryOut_consistent {req : UpdateRequest} {p : Plan} (hrestorable : Restorable text)
    (hn : Steady text n) (hl : l.gatePassed = false) :
    (carryOut req p).Always shelteredMachine (Safe text) (RunConsistent text) l n := by
  refine consistent_after ((preflight_observes req p).mono fun _ => early_of_observing) hn
    fun code n hn => ?_
  cases code with
  | some code => exact ⟨hn.safe, hn.consistent _⟩
  | none =>
    refine consistent_after
      (acquireUpdateLock_within (fun _ => early_of_observing) trivial trivial _) hn
      fun lock n hn => ?_
    cases lock with
    | none =>
      refine consistent_after
        ((updateLockPath_observes _).mono fun _ => early_of_observing) hn fun path n hn => ?_
      exact consistent_after (Action.within_perform trivial) hn
        fun _ n hn => ⟨hn.safe, hn.consistent _⟩
    | some lock =>
      dsimp only
      rw [Routine.always_tryFinally]
      refine (underLock_consistent hrestorable hn hl).mono fun r l n _ hr => ?_
      refine (release_consistent lock hr).mono ?_
      rintro (e | ⟨⟩) l n - hend
      · exact hend
      · exact hend

theorem updateTask_consistent {req : UpdateRequest} (hrestorable : Restorable text)
    (hn : Steady text n) (hl : l.gatePassed = false) :
    (updateTask req).Always shelteredMachine (Safe text) (RunConsistent text) l n := by
  have hsay (m : Message) (code : Int) (n : Node) (hn : Steady text n) :
      ((monadLift (say m) : Task Unit) >>= fun _ => pure code).Always shelteredMachine (Safe text)
        (RunConsistent text) l n :=
    consistent_after (Action.within_perform trivial) hn fun _ n hn => ⟨hn.safe, hn.consistent _⟩
  refine consistent_after (Action.within_perform trivial) hn fun env n hn => ?_
  refine consistent_after ((resolveMode_observes env).mono fun _ => early_of_observing) hn
    fun mode n hn => ?_
  refine consistent_after (Action.within_perform trivial) hn fun manifest n hn => ?_
  refine consistent_after (Action.within_perform trivial) hn fun currentVersion n hn => ?_
  split
  · exact hsay _ _ n hn
  · unfold withTarget
    split
    · exact hsay _ _ n hn
    · exact carryOut_consistent hrestorable hn hl

/-- The process is over: it has been killed, or it has returned. -/
def Over (n : Node) (rest : Prog (Raises UpdateCall.Answer Interruption) (Except Interruption Int)) :
    Prop := n.dead = true ∨ ∃ r, rest = .pure r

theorem runUpdate_consistent (req : UpdateRequest) {text : PyText} (hrestorable : Restorable text) :
    (runUpdate req).Always shelteredMachine (Safe text) (Consistent text) { text := text } :=
  Routine.always_run.mpr (updateTask_consistent hrestorable ⟨rfl, rfl, rfl, rfl, rfl⟩ rfl)

/-- However the process has ended, the references are what the routine leaves or what it keeps at
every call. -/
theorem restored_over {req : UpdateRequest} {text : PyText} {n' : Node}
    {rest : Prog (Raises UpdateCall.Answer Interruption) (Except Interruption Int)}
    (halways : (runUpdate req).Always shelteredMachine (Safe text) (Consistent text)
      { text := text })
    (hrun : Run shelteredMachine { text := text } (runUpdate req) n' rest) (hover : Over n' rest) :
    imageRefs n'.text = imageRefs text ∨ n'.ready = true := by
  rcases hover with hdead | ⟨r, rfl⟩
  · exact Prog.Always.at_stop halways hrun hdead
  · exact (Prog.Always.at_return halways hrun).restored

/-- **A local update is crash-consistent**, in every run whose steps are sheltered, from every
restorable file: when it is over, the image references are the old ones unless the gate has returned
ready, and after the rewriting has begun an exit with zero means that it has. -/
theorem crash_consistent {req : UpdateRequest} {text : PyText} {n' : Node}
    {rest : Prog (Raises UpdateCall.Answer Interruption) (Except Interruption Int)}
    (hrestorable : Restorable text)
    (hrun : Run shelteredMachine { text := text } (runUpdate req) n' rest) (hover : Over n' rest) :
    (imageRefs n'.text = imageRefs text ∨ n'.ready = true) ∧
      ∀ r, rest = .pure r → n'.began = true → exitCode r = 0 → n'.ready = true := by
  have halways := runUpdate_consistent req hrestorable
  refine ⟨restored_over halways hrun hover, ?_⟩
  rintro r rfl hbegan
  exact (Prog.Always.at_return halways hrun).honest hbegan

/-- What the lines of a file have to be for its references to come back: lines that end as lines do,
and one reference for each repository. -/
theorem regular_restored {req : UpdateRequest} {text : PyText} {n' : Node}
    {rest : Prog (Raises UpdateCall.Answer Interruption) (Except Interruption Int)}
    (hregular : Regular text)
    (hrun : Run shelteredMachine { text := text } (runUpdate req) n' rest) (hover : Over n' rest) :
    imageRefs n'.text = imageRefs text ∨ n'.ready = true :=
  restored_over (runUpdate_consistent req (restorable_of_regular hregular)) hrun hover

end Whole

/-! ## Two runs -/

/-- A compose file. -/
def nodeText : PyText := "services:\n  greffer:\n    image: greffon/greffer:0.5.0\n".toList

/-- What the operator asks for. -/
def nodeRequest : UpdateRequest :=
  { cfg := "/root/.greffer", target := some "0.7.0", confirmNoRollback := true }

/-- How a node answers that is fine, but whose registry is not there. -/
def nodeAnswer (n : Node) : (c : UpdateCall) → Raises UpdateCall.Answer Interruption c × Node
  | .readEnv => (.ok { grefferId := some "g1", grefferMode := some "proxy" }, n)
  | .composeServicesRunning _ => (.ok [], n)
  | .fetchManifest _ => (.ok (some { latest := some "0.7.0" }), n)
  | .execGrefferVersion => (.ok (some "0.5.0"), n)
  | .dataVolumeIsNamed => (.ok true, n)
  | .containerImageId _ => (.ok (some "sha256:old"), n)
  | .imageId _ => (.ok none, n)
  | .importFcntl => (.ok true, n)
  | .dataVolumeMountpoint => (.ok (some "/var/lib/docker/volumes/greffon-data/_data"), n)
  | .openLock _ | .flock | .closeLock | .sleep _ | .report _ => (.ok (), n)
  | .retag target => (.ok (capturedRefs n.text),
      { n with text := retagText target n.text, began := true, back := false })
  | .setImageRefs refs => (.ok (), { n with text := putBack refs n.text, back := true })
  | .installHandler => (.ok true, { n with handler := true })
  | .restoreHandler => (.ok (), { n with handler := false })
  | .composePull _ _ | .composeUp _ | .healthz => (.ok { returncode := 1, stdout := () }, n)
  | .now => (.ok 0, n)
  | .serviceContainerId _ => (.ok none, n)
  | .restartCount _ => (.ok 0, n)
  | .readyz => (.ok { returncode := 1, stdout := none }, n)
  | .point p => (.ok (), n.passed p)
  | .gateReturned outcome => (.ok (), { n with ready := n.ready || decide (outcome = .ready) })

theorem nodeAnswer_works (n : Node) (c : UpdateCall) :
    Works n c (nodeAnswer n c).1 (nodeAnswer n c).2 ∧ (nodeAnswer n c).2.dead = n.dead ∧
      ∀ e, (nodeAnswer n c).1 ≠ .error e := by
  cases c
  case retag => exact ⟨⟨rfl, rfl⟩, rfl, fun e h => by cases h⟩
  case installHandler => exact ⟨.inl rfl, rfl, fun e h => by cases h⟩
  case point p => cases p <;> exact ⟨rfl, rfl, fun e h => by cases h⟩
  all_goals exact ⟨rfl, rfl, fun e h => by cases h⟩

/-- The same node, where the interrupt comes right after the rewriting. -/
def interruptedAnswer (n : Node) :
    (c : UpdateCall) → Raises UpdateCall.Answer Interruption c × Node
  | .point .rewritten =>
    if n.signalled then nodeAnswer n (.point .rewritten)
    else (.error .interrupt, { n with signalled := true })
  | c => nodeAnswer n c

/-- At the point behind the rewriting, the interrupt comes; nowhere else anything does. -/
theorem interruptedAnswer_cases (n : Node) (c : UpdateCall) :
    interruptedAnswer n c = nodeAnswer n c ∨
      c = .point .rewritten ∧ n.signalled = false := by
  cases c
  case point p =>
    cases p with
    | rewritten =>
      cases h : n.signalled with
      | true =>
        refine .inl ?_
        unfold interruptedAnswer
        rw [if_pos h]
      | false => exact .inr ⟨rfl, rfl⟩
    | entering => exact .inl rfl
    | leaving => exact .inl rfl
  all_goals exact .inl rfl

/-- **The interrupt comes when the file is rewritten and the `try` is not entered.**  The process
exits, and the references are the new ones. -/
theorem interrupted_after_rewrite : (∃ n' : Node,
    Run nodeMachine { text := nodeText } (runUpdate nodeRequest) n' (.pure (.error .interrupt)) ∧
      ¬ (imageRefs n'.text = imageRefs nodeText ∨ n'.ready = true)) := by
  have hserve : ∀ (n : Node) (c : UpdateCall), n.dead = false →
      nodeMachine.serve n c (interruptedAnswer n c).1 (interruptedAnswer n c).2 ∧
        (interruptedAnswer n c).2.dead = false := by
    intro n c hdead
    have halive : ¬ n.dead = true := by simp [hdead]
    unfold nodeMachine
    simp only [if_neg halive]
    rcases interruptedAnswer_cases n c with hsame | ⟨rfl, hsignalled⟩
    · obtain ⟨hworks, hlives, -⟩ := nodeAnswer_works n c
      rw [hsame]
      exact ⟨.inl hworks, hlives.trans hdead⟩
    · have hstrikes : interruptedAnswer n (.point .rewritten) =
          (.error .interrupt, { n with signalled := true }) := by
        unfold interruptedAnswer
        simp [hsignalled]
      rw [hstrikes]
      exact ⟨.inr ⟨hsignalled, n, rfl, .interrupt⟩, hdead⟩
  have hfresh : ({ text := nodeText } : Node).dead = false := rfl
  refine ⟨_, Prog.run_evalFor_of (S := fun n : Node => n.dead = false) hserve 14
    (runUpdate nodeRequest) hfresh, ?_⟩
  decide

theorem nodeText_restorable : Restorable nodeText := by
  have hlines : keptLines nodeText = ["services:\n".toList, "  greffer:\n".toList,
      "    image: greffon/greffer:0.5.0\n".toList] := by decide
  have hrefs : imageRefs nodeText =
      [("greffon/greffer".toList, "greffon/greffer:0.5.0".toList)] := by decide
  refine restorable_of_regular ⟨linedText_of_newlineEnded (by decide) ?_, ?_⟩
  · rw [hlines]
    exact ⟨fun _ => by decide, fun _ => by decide, trivial⟩
  · rw [hrefs]
    intro e he e' he' _
    rw [List.mem_singleton.mp he, List.mem_singleton.mp he']

/-- The images cannot be pulled, and the references are the old ones again. -/
theorem crash_consistent_unpulled :
    (∃ (n' : Node) (r : Except Interruption Int), n'.began = true ∧ exitCode r = 1 ∧
    ((imageRefs n'.text = imageRefs nodeText ∨ n'.ready = true) ∧
      ∀ r', (.pure r : Prog (Raises UpdateCall.Answer Interruption) (Except Interruption Int)) =
        .pure r' → n'.began = true → exitCode r' = 0 → n'.ready = true)) := by
  have hserve : ∀ (n : Node) (c : UpdateCall), n.dead = false →
      shelteredMachine.serve n c (nodeAnswer n c).1 (nodeAnswer n c).2 ∧
        (nodeAnswer n c).2.dead = false := by
    intro n c hdead
    have halive : ¬ n.dead = true := by simp [hdead]
    obtain ⟨hworks, hsame, hok⟩ := nodeAnswer_works n c
    refine ⟨⟨?_, fun _ _ => ⟨hok _, fun _ e he => absurd he (hok e)⟩⟩, hsame.trans hdead⟩
    unfold nodeMachine
    simp only [if_neg halive]
    exact .inl hworks
  have hfresh : ({ text := nodeText } : Node).dead = false := rfl
  have hrun := Prog.run_evalFor_of (S := fun n : Node => n.dead = false) hserve 22
    (runUpdate nodeRequest) hfresh
  exact ⟨_, .ok 1, by decide, rfl, crash_consistent nodeText_restorable hrun (.inr ⟨_, rfl⟩)⟩

end Greffer.Cli

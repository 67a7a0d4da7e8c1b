import Greffer.Health.Watchdog

/-! # No wedged worker is overlooked

A probe that is asked for after a long-lived worker has ended is fatal, in whatever thread it is
made and however late it comes back.  An earlier one that was abandoned may still deliver a clean
verdict, but nobody waits for that any more: each thread awaits the probe it asked for last.

So all that the watchdog sees from its first probe after the end on is fatal, and by the time two
of its readings lie the grace apart, the next thing it does is to restart the process
(`dead_worker_restarts`).
-/
namespace Greffer.Health
open Effects

/-! ## What a probe finds -/

/-- What the thread of a probe has got: its ticket, and whether it found the worker alive. -/
structure Look where
  ticket : Option Ticket := none
  passed : Bool := false

/-- A result that is fatal. -/
def Fatal (result : Except Exn Readiness) : Prop :=
  ∃ readiness, result = .ok readiness ∧ readiness.fatal = true

/-- The record of a look at the worker `name`: a verdict that is not fatal is delivered for the
own ticket and once the worker was found alive.  Only docker's calls are reckoned to fail. -/
def looking (name : String) (k : Role) : Reliance k.Reply Look where
  after s
    | .take, .ok ticket => ⟨some ticket, false⟩
    | .taskDone name', .ok false => if name' = name then { s with passed := true } else s
    | _, _ => s
  allowed s
    | .deliver ticket result => s.ticket = some ticket ∧ (s.passed = true ∨ Fatal result)
    | _ => True
  may _
    | .workerTasks, r => ∃ tasks, r = .ok tasks ∧ name ∈ tasks
    | .readPingClient, r | .storePingClient _, r | .taskDone _, r | .registeredIsSet, r =>
      ∃ a, r = .ok a
    | _, _ => True

section Look
variable {name : String} {k : Role} {s : Look}

/-- The look at docker ends well or badly, and leaves the record alone. -/
theorem dockerOk_looking :
    dockerOk.Relies (looking name k) (fun r s' => (∃ b, r = .ok b) ∧ s' = s) s := by
  -- whatever is answered before, the client is dropped in the end
  have hdrop : Action.Relies (looking name k) (fun r s' => (∃ b, r = .ok b) ∧ s' = s)
      (do ask (.storePingClient none); return false : Watching Bool) s :=
    Action.relies_call trivial (fun e he => let ⟨a, ha⟩ := he; nomatch ha) fun _ _ => ⟨⟨_, rfl⟩, rfl⟩
  have hping : pingClient.Relies (looking name k) (fun _ s' => s' = s) s := by
    unfold pingClient
    refine Action.relies_call trivial (fun _ _ => rfl) fun client _ => ?_
    cases client with
    | none => exact rfl
    | some client => exact ⟨trivial, fun _ _ => rfl⟩
  have hmake : makeClient.Relies (looking name k) (fun _ s' => s' = s) s := by
    unfold makeClient
    refine Action.relies_call trivial (fun _ _ => rfl) fun client _ => ?_
    cases client with
    | some client => exact rfl
    | none =>
      exact Action.relies_call trivial (fun _ _ => rfl) fun _ _ => ⟨trivial, fun _ _ => rfl⟩
  unfold dockerOk
  rw [Action.relies_tryExcept]
  refine Action.relies_call trivial (fun _ _ => hdrop) fun _ _ => ?_
  rw [Action.relies_bind]
  refine hmake.mono ?_
  rintro (e | u) s' rfl
  · exact hdrop
  · rw [onOk_ok, Action.relies_bind]
    refine hping.mono ?_
    rintro (e | u) s' rfl
    · exact hdrop
    · exact ⟨⟨true, rfl⟩, rfl⟩

/-- The worker is reported dead, or was found alive. -/
theorem deadWorkers_looking {tasks : List String} (htask : name ∈ tasks) (names : List String) :
    (deadWorkers tasks names).Relies (looking name k) (fun r s' => ∃ dead, r = .ok dead ∧
      s'.ticket = s.ticket ∧ (s.passed = true → s'.passed = true) ∧
        (name ∈ names → name ∈ dead ∨ s'.passed = true)) s := by
  induction names generalizing s with
  | nil => exact ⟨[], rfl, rfl, id, nofun⟩
  | cons name' rest ih =>
    unfold deadWorkers
    rw [Action.relies_ite]
    refine ⟨fun _ => ?_, fun hnot => ?_⟩
    · refine Action.relies_call trivial (fun e he => let ⟨a, ha⟩ := he; nomatch ha) ?_
      intro done _
      rw [Action.relies_bind]
      refine ih.mono ?_
      rintro r s' ⟨dead, rfl, hticket, hpassed, hfound⟩
      rw [onOk_ok]
      cases done with
      | true =>
        refine ⟨name' :: dead, rfl, hticket, hpassed, fun hmem => ?_⟩
        rcases List.mem_cons.mp hmem with rfl | hmem
        · exact .inl List.mem_cons_self
        · exact (hfound hmem).imp_left (List.mem_cons_of_mem _)
      | false =>
        by_cases hname : name' = name
        · simp only [looking, if_pos hname] at hticket hpassed
          exact ⟨dead, rfl, hticket, fun _ => hpassed trivial, fun _ => .inr (hpassed trivial)⟩
        · simp only [looking, if_neg hname] at hticket hpassed
          refine ⟨dead, rfl, hticket, hpassed, fun hmem => ?_⟩
          rcases List.mem_cons.mp hmem with rfl | hmem
          · exact absurd rfl hname
          · exact hfound hmem
    · refine ih.mono ?_
      rintro r s' ⟨dead, rfl, hticket, hpassed, hfound⟩
      refine ⟨dead, rfl, hticket, hpassed, fun hmem => ?_⟩
      rcases List.mem_cons.mp hmem with rfl | hmem
      · exact absurd htask hnot
      · exact hfound hmem

/-- **A probe's verdict is fatal, or it found the worker alive.** -/
theorem evaluateReadiness_looking (hname : name ∈ fatalWorkers) :
    evaluateReadiness.Relies (looking name k) (fun r s' => s'.ticket = s.ticket ∧
      (s'.passed = true ∨ Fatal r)) s := by
  unfold evaluateReadiness
  rw [Action.relies_bind]
  refine dockerOk_looking.mono ?_
  rintro _ _ ⟨⟨reachable, rfl⟩, rfl⟩
  rw [onOk_ok]
  refine Action.relies_call trivial (fun e he => let ⟨a, ha, _⟩ := he; nomatch ha) ?_
  rintro tasks ⟨tasks', htasks, htask⟩
  cases htasks
  rw [Action.relies_bind]
  refine (deadWorkers_looking htask fatalWorkers).mono ?_
  rintro _ s' ⟨dead, rfl, hticket, -, hfound⟩
  rw [onOk_ok]
  refine Action.relies_call trivial (fun e he => let ⟨a, ha⟩ := he; nomatch ha) ?_
  intro registered _
  refine ⟨hticket, (hfound hname).symm.imp_right fun hdead => ⟨_, rfl, ?_⟩⟩
  -- what is reported dead makes the verdict fatal
  cases dead with
  | nil => cases hdead
  | cons first others => simp [assess]

theorem probeThread_looking (hname : name ∈ fatalWorkers) :
    probeThread.Relies (looking name k) (fun _ _ => True) s := by
  unfold probeThread
  refine Action.relies_call trivial (fun _ _ => trivial) fun ticket _ => ?_
  rw [Action.relies_bind, Action.relies_outcome]
  refine (evaluateReadiness_looking hname).mono ?_
  rintro r s' ⟨hticket, hverdict⟩
  exact ⟨⟨hticket, hverdict⟩, fun _ _ => trivial⟩

theorem probe_looking : probe.Relies (looking name k) (fun _ _ => True) s := by
  unfold probe
  refine Action.relies_call trivial (fun _ _ => trivial) fun ticket _ => ?_
  refine Action.relies_call trivial (fun _ _ => trivial) fun readiness _ => ?_
  cases readiness <;> trivial

theorem readyz_looking (settings : HealthSettings) :
    (readyz settings).Relies (looking name k) (fun _ _ => True) s := by
  unfold readyz
  rw [Action.relies_bind]
  refine probe_looking.mono ?_
  rintro (e | readiness) s' -
  · trivial
  · exact ⟨trivial, fun _ _ => trivial⟩

theorem watchdogRound_looking (settings : HealthSettings) (fatalSince : Option Rat) :
    (watchdogRound settings fatalSince).Relies (looking name k) (fun _ _ => True) s := by
  unfold watchdogRound
  refine Action.relies_call trivial (fun _ _ => trivial) fun _ _ => ?_
  rw [Action.relies_bind]
  refine probe_looking.mono ?_
  rintro (e | readiness) s' -
  · trivial
  · rw [onOk_ok, Action.relies_ite]
    refine ⟨fun _ => ?_, fun _ => trivial⟩
    unfold onFatal
    refine Action.relies_call trivial (fun _ _ => trivial) fun now _ => ?_
    cases fatalSince with
    | none => trivial
    | some since =>
      dsimp only
      rw [Action.relies_ite]
      exact ⟨fun _ => ⟨trivial, fun r _ => by cases r <;> trivial⟩, fun _ => trivial⟩

end Look

/-! ## What the node keeps of it -/

/-- A verdict that is not fatal is of a probe that was asked for before the worker ended. -/
structure KeptLooks (name : String) (w : Node) : Prop where
  task : name ∈ w.tasks
  asked : ∀ asked ∈ w.submitted, asked ≤ w.clock
  verdict : ∀ ticket result, w.delivered ticket = some result →
    ∃ asked, w.submitted[ticket]? = some asked ∧
      ∀ ended, w.ended name = some ended → ended < asked → Fatal result

/-- A thread's ticket was asked for, and if it found the worker alive, that was before the end. -/
def AgreesLook (name : String) (_ : Nat) (s : Look) (w : Node) : Prop :=
  ∀ ticket, s.ticket = some ticket → ∃ asked, w.submitted[ticket]? = some asked ∧
    (s.passed = true → ∀ ended, w.ended name = some ended → asked ≤ ended)

/-- How a node goes on: time passes, what has ended stays so, and probes are asked for. -/
structure GoesOn (w w' : Node) : Prop where
  clock : w.clock ≤ w'.clock
  ended : ∀ name t, w.ended name = some t → w'.ended name = some t
  submitted : w.submitted <+: w'.submitted

theorem GoesOn.refl (w : Node) : GoesOn w w := ⟨le_rfl, fun _ _ h => h, List.prefix_rfl⟩

theorem GoesOn.trans {w w' w'' : Node} (h : GoesOn w w') (h' : GoesOn w' w'') : GoesOn w w'' :=
  ⟨h.clock.trans h'.clock, fun name t hended => h'.ended name t (h.ended name t hended),
    h.submitted.trans h'.submitted⟩

theorem GoesOn.asked {w w' : Node} (h : GoesOn w w') {ticket : Ticket} {asked : Rat}
    (hasked : w.submitted[ticket]? = some asked) : w'.submitted[ticket]? = some asked := by
  obtain ⟨more, hmore⟩ := h.submitted
  rw [← hmore, List.getElem?_append_left (List.getElem?_eq_some_iff.mp hasked).1, hasked]

theorem GoesOn.of_serve {settings : HealthSettings} {w w' : Node} {c : HealthCall}
    {r : Raises HealthCall.Answer Exn c} (served : serve settings w c r w') : GoesOn w w' := by
  obtain ⟨hclock, hended, -, hsubmitted⟩ := times_of_serve served
  refine ⟨hclock.ge, fun name t h => by rw [hended]; exact h, ?_⟩
  rcases hsubmitted with h | ⟨-, h⟩
  · exact h ▸ List.prefix_rfl
  · exact h ▸ List.prefix_append _ _

theorem GoesOn.of_drift {w w' : Node} (h : Drifts w w') : GoesOn w w' := by
  have hsubmitted : w'.submitted = w.submitted := (Drifts.same h).2.2
  exact ⟨h.clock, h.stays, hsubmitted ▸ List.prefix_rfl⟩

/-- The node goes on along every run. -/
theorem goesOn {settings : HealthSettings} {p q : Crew Role.Reply Role.Label Node}
    {es : List (Node × Event Role.Reply)}
    (rounds : (node settings).Rounds Starts (blocks settings) p es q) : GoesOn p.world q.world :=
  rounds.respects GoesOn.refl GoesOn.trans GoesOn.of_serve GoesOn.of_drift

variable {settings : HealthSettings} {name : String}

/-- What is asked for stays asked for at that time. -/
theorem AgreesLook.goesOn {w w' : Node} {n : Nat} {s : Look} (h : AgreesLook name n s w)
    (hgoes : GoesOn w w') (hended : ∀ t, w'.ended name = some t → w.ended name = some t ∨ w.clock ≤ t)
    (hasked : ∀ asked ∈ w.submitted, asked ≤ w.clock) : AgreesLook name n s w' := by
  intro ticket hticket
  obtain ⟨asked, hat, hpassed⟩ := h ticket hticket
  refine ⟨asked, hgoes.asked hat, fun hp ended he => ?_⟩
  rcases hended ended he with hbefore | hnow
  · exact hpassed hp ended hbefore
  · exact (hasked asked (List.mem_of_getElem? hat)).trans hnow

/-- The thread that looks keeps its record true. -/
theorem AgreesLook.after {w w' : Node} {n : Nat} {k : Role} {s : Look} {c : HealthCall}
    {r : Raises HealthCall.Answer Exn c} (served : serve settings w c r w')
    (h : AgreesLook name n s w) (hasked : ∀ asked ∈ w.submitted, asked ≤ w.clock) :
    AgreesLook name n ((looking name k).after s c r) w' := by
  have hstays : AgreesLook name n s w' :=
    h.goesOn (.of_serve served) (fun t ht => .inl ((times_of_serve served).2.1 ▸ ht)) hasked
  cases c with
  | take =>
    obtain ⟨ticket, rfl, hlt, -, rfl⟩ := served
    intro ticket' hticket
    cases hticket
    exact ⟨_, List.getElem?_eq_getElem hlt, nofun⟩
  | taskDone name' =>
    obtain ⟨rfl, rfl⟩ := served
    cases halive : w'.ended name' with
    | some t => exact h
    | none =>
      by_cases hname : name' = name
      · subst hname
        simp only [looking, Option.isSome_none]
        intro ticket hticket
        obtain ⟨asked, hat, -⟩ := h ticket hticket
        refine ⟨asked, hat, fun _ ended he => ?_⟩
        rw [halive] at he
        cases he
      · simp only [looking, Option.isSome_none, if_neg hname]
        exact h
  | _ => exact hstays

theorem KeptLooks.serve {w w' : Node} {n : Nat} {k : Role} {s : Look} {c : HealthCall}
    {r : Raises HealthCall.Answer Exn c} (served : serve settings w c r w')
    (h : KeptLooks name w) (hagree : AgreesLook name n s w)
    (hallowed : (looking name k).allowed s c) : KeptLooks name w' := by
  obtain ⟨hclock, hended, htasks, hsubmitted⟩ := times_of_serve served
  have hgoes : GoesOn w w' := .of_serve served
  refine ⟨htasks ▸ h.task, fun asked hmem => ?_, fun ticket result hresult => ?_⟩
  · rw [hclock]
    rcases hsubmitted with hsame | ⟨-, hmore⟩
    · exact h.asked asked (hsame ▸ hmem)
    · rcases List.mem_append.mp (hmore ▸ hmem) with hold | hnew
      · exact h.asked asked hold
      · exact (List.mem_singleton.mp hnew).le
  · rw [hended]
    rcases delivered_cases served hresult with hbefore | rfl
    · obtain ⟨asked, hat, hverdict⟩ := h.verdict ticket result hbefore
      exact ⟨asked, hgoes.asked hat, hverdict⟩
    · -- the verdict is delivered now
      obtain ⟨hticket, hfound⟩ := hallowed
      obtain ⟨asked, hat, hpassed⟩ := hagree ticket hticket
      refine ⟨asked, hgoes.asked hat, fun ended he hlate => ?_⟩
      rcases hfound with hp | hfatal
      · exact absurd (hpassed hp ended he) (not_le.mpr hlate)
      · exact hfatal

theorem KeptLooks.drift {w w' : Node} (hdrift : Drifts w w') (h : KeptLooks name w) :
    KeptLooks name w' := by
  obtain ⟨-, hdelivered, hsubmitted⟩ := Drifts.same hdrift
  have htasks : w'.tasks = w.tasks := by rw [hdrift.rest]
  refine ⟨htasks ▸ h.task, fun asked hmem => ?_, fun ticket result hresult => ?_⟩
  · exact (h.asked asked (hsubmitted ▸ hmem)).trans hdrift.clock
  · obtain ⟨asked, hat, hverdict⟩ := h.verdict ticket result (hdelivered ▸ hresult)
    refine ⟨asked, hsubmitted ▸ hat, fun ended he hlate => ?_⟩
    rcases hdrift.ends name ended he with hbefore | ⟨hnow, -⟩
    · exact hverdict ended hbefore hlate
    · exact absurd ((h.asked asked (List.mem_of_getElem? hat)).trans hnow) (not_le.mpr hlate)

/-- The node answers a look as its thread reckons. -/
theorem may_look {w w' : Node} {k : Role} {s : Look} {c : HealthCall}
    {r : Raises HealthCall.Answer Exn c} (served : serve settings w c r w')
    (h : KeptLooks name w) : (looking name k).may s c r := by
  cases c with
  | workerTasks =>
    obtain ⟨rfl, -⟩ := served
    exact ⟨_, rfl, h.task⟩
  | readPingClient | storePingClient | taskDone | registeredIsSet =>
    obtain ⟨rfl, -⟩ := served
    exact ⟨_, rfl⟩
  | _ => trivial

theorem relied_looking (settings : HealthSettings) (hname : name ∈ fatalWorkers) :
    Relied (node settings) Starts (blocks settings) (looking name) (fun _ _ _ => True)
      (AgreesLook name) (fun _ w => KeptLooks name w) where
  block := by
    intro k l s _
    cases k with
    | watchdog =>
      refine Action.relies_block.mpr ((watchdogRound_looking settings l).mono ?_)
      rintro (e | next) s' - <;> trivial
    | readyz => exact Action.relies_once.mpr ((readyz_looking settings).mono fun _ _ _ => trivial)
    | probe =>
      exact Action.relies_once.mpr ((probeThread_looking hname).mono fun _ _ _ => trivial)
  may served _ hinv _ _ := may_look served hinv
  own served _ hinv hagree _ := hagree.after served hinv.asked
  other served _ hinv _ _ _ hagree' :=
    hagree'.goesOn (.of_serve served) (fun t ht => .inl ((times_of_serve served).2.1 ▸ ht))
      hinv.asked
  drift hdrift hinv hagree :=
    hagree.goesOn (.of_drift hdrift) (fun t ht => (hdrift.ends _ t ht).imp_right And.left)
      hinv.asked
  fresh := by
    intro t n w haccepts _
    cases haccepts <;> exact ⟨{}, trivial, nofun⟩
  inv_serve served _ hinv hagree hallowed := hinv.serve served hagree hallowed
  inv_drift hdrift hinv := hinv.drift hdrift
  inv_succ hinv := hinv

/-! ## The watchdog's own probes -/

/-- What the last probe that a thread asked for is; the watchdog awaits no other. -/
def asking (k : Role) : Reliance k.Reply (Option Ticket) where
  after last
    | .submit, .ok ticket => some ticket
    | _, _ => last
  allowed last
    | .await ticket => k = .watchdog → last = some ticket
    | _ => True
  may _ _ _ := True

theorem watchdogRound_asking (settings : HealthSettings) (fatalSince : Option Rat)
    {last : Option Ticket} :
    (watchdogRound settings fatalSince).Relies (asking .watchdog) (fun _ _ => True) last := by
  unfold watchdogRound probe
  refine Action.relies_call trivial (fun _ _ => trivial) fun _ _ => ?_
  rw [Action.relies_bind]
  refine Action.relies_call trivial (fun _ _ => trivial) fun ticket _ => ?_
  refine Action.relies_call (fun _ => rfl) (fun _ _ => trivial) fun readiness _ => ?_
  have hrest (readiness : Readiness) (last : Option Ticket) :
      Action.Relies (asking .watchdog) (fun _ _ => True)
        (if readiness.fatal then onFatal settings fatalSince else return some none) last := by
    rw [Action.relies_ite]
    refine ⟨fun _ => ?_, fun _ => trivial⟩
    unfold onFatal
    refine Action.relies_call trivial (fun _ _ => trivial) fun now _ => ?_
    cases fatalSince with
    | none => trivial
    | some since =>
      dsimp only
      rw [Action.relies_ite]
      exact ⟨fun _ => ⟨trivial, fun r _ => by cases r <;> trivial⟩, fun _ => trivial⟩
  cases readiness with
  | none => exact hrest probeTimedOut _
  | some readiness => exact hrest readiness _

theorem blocks_asking (settings : HealthSettings) {k : Role} {l : k.Label} {last : Option Ticket} :
    (blocks settings k l).Relies (asking k) (fun _ _ => True) last := by
  cases k with
  | watchdog =>
    refine Action.relies_block.mpr ((watchdogRound_asking settings l).mono ?_)
    rintro (e | next) s' - <;> trivial
  | readyz | probe =>
    refine Prog.relies_free (fun _ c => ?_) fun _ _ => trivial
    cases c with
    | await => exact nofun
    | _ => trivial

/-- A ticket on the record was answered to the thread on the way, or was there before. -/
theorem ticket_of_record {n : Nat} {es : List (Node × Event Role.Reply)} {last : Option Ticket}
    {ticket : Ticket} (h : recordOf asking n es last = some ticket) :
    last = some ticket ∨ ∃ es₁ w k es₂, es = es₁ ++ (w, .called n k .submit (.ok ticket)) :: es₂ := by
  induction es generalizing last with
  | nil => exact .inl h
  | cons e es ih =>
    obtain ⟨w, e⟩ := e
    cases e with
    | called n' k c r =>
      rw [recordOf] at h
      rcases ih h with hlast | ⟨es₁, w', k', es₂, rfl⟩
      · by_cases hn : n' = n
        · subst hn
          rw [if_pos rfl] at hlast
          cases c with
          | submit =>
            cases r with
            | ok ticket' =>
              cases hlast
              exact .inr ⟨[], w, k, es, rfl⟩
            | error e => exact .inl hlast
          | _ => exact .inl hlast
        · rw [if_neg hn] at hlast
          exact .inl hlast
      · exact .inr ⟨_ :: es₁, w', k', es₂, rfl⟩
    | started | drifted =>
      rcases ih h with hlast | ⟨es₁, w', k', es₂, rfl⟩
      · exact .inl hlast
      · exact .inr ⟨_ :: es₁, w', k', es₂, rfl⟩

/-- What a thread asked for is known from then on. -/
theorem asked_between {p q : Crew Role.Reply Role.Label Node} {w w' : Node} {n : Nat} {k : Role}
    {ticket : Ticket} {e : Event Role.Reply} {es es' es'' : List (Node × Event Role.Reply)}
    (rounds : (node settings).Rounds Starts (blocks settings) p
      (es ++ (w, .called n k .submit (.ok ticket)) :: (es' ++ (w', e) :: es'')) q) :
    w'.submitted[ticket]? = some w.clock := by
  obtain ⟨m, m', -, -, ⟨hticket, hworld⟩, hrest⟩ := rounds.served
  obtain ⟨m'', hbetween, hto⟩ := hrest.of_append
  have hasked : m'.world.submitted[ticket]? = some w.clock := by
    rw [hworld, Except.ok.inj hticket]
    exact List.getElem?_concat_length
  rw [← hto.world_eq]
  exact (goesOn hbetween).asked hasked

/-- The probe that the watchdog awaits was asked for after the end, once one was. -/
theorem asked_late {w w₁ w₂ : Node} {q : Crew Role.Reply Role.Label Node}
    {before between after : List (Node × Event Role.Reply)} {k : Role} {r₁ : Except Exn Ticket}
    {ticket : Ticket} {r : Except Exn (Option Readiness)}
    (rounds : (node settings).Rounds Starts (blocks settings) ⟨w, [watchdogWorker]⟩
      (before ++ (w₁, .called 0 .watchdog .submit r₁) ::
        (between ++ (w₂, .called 0 k (.await ticket) r) :: after)) q) :
    ∃ asked, w₂.submitted[ticket]? = some asked ∧ w₁.clock ≤ asked := by
  obtain ⟨m, m', -, -, ⟨hticket, -⟩, -⟩ := rounds.served
  have hrounds := rounds
  rw [← List.cons_append, ← List.append_assoc] at hrounds
  obtain rfl : k = .watchdog := hrounds.kind_call rfl
  have hstart : Thread.Relies asking (fun _ _ _ => True) watchdogWorker none := trivial
  have hlast := hrounds.allowed_call (fun _ => trivial) (fun _ => blocks_asking settings) rfl
    hstart rfl
  rw [recordOf_append, recordOf, if_pos rfl, hticket] at hlast
  subst hticket
  rcases ticket_of_record hlast with hfirst | ⟨es₁, w₃, k', es₂, rfl⟩
  · cases hfirst
    exact ⟨_, asked_between rounds, le_rfl⟩
  · rw [List.append_assoc, List.cons_append] at rounds
    have hlater : GoesOn w₁ w₃ := rounds.respects_between goesOn
    rw [← List.cons_append, ← List.append_assoc] at rounds
    exact ⟨_, asked_between rounds, hlater.clock⟩

/-- **What the watchdog sees is fatal**, from its first probe on that it asks for after the end. -/
theorem late_verdict {w w₁ w₂ : Node} {q : Crew Role.Reply Role.Label Node}
    {before between after : List (Node × Event Role.Reply)} {k : Role} {r₁ : Except Exn Ticket}
    {ticket : Ticket} {readiness : Readiness} {ended : Rat}
    (rounds : (node settings).Rounds Starts (blocks settings) ⟨w, [watchdogWorker]⟩
      (before ++ (w₁, .called 0 .watchdog .submit r₁) ::
        (between ++ (w₂, .called 0 k (.await ticket) (.ok (some readiness))) :: after)) q)
    (hkept : KeptLooks name w) (hname : name ∈ fatalWorkers)
    (hended : w₁.ended name = some ended) (hlate : ended < w₁.clock) : readiness.fatal = true := by
  obtain ⟨asked, hasked, hsince⟩ := asked_late rounds
  have hgoes : GoesOn w₁ w₂ := rounds.respects_between goesOn
  rw [← List.cons_append, ← List.append_assoc] at rounds
  have hstart : Relied.Agrees (looking name) (fun _ _ _ => True) (AgreesLook name)
      (fun _ w => KeptLooks name w) (⟨w, [watchdogWorker]⟩ : Crew Role.Reply Role.Label Node) := by
    refine ⟨hkept, fun n t ht => ⟨{}, ?_, nofun⟩⟩
    match n, ht with
    | 0, ht =>
      cases ht
      trivial
  obtain ⟨N, s, hinv, -, -, -⟩ := (relied_looking settings hname).at_call rounds hstart
    (List.mem_append_right _ List.mem_cons_self)
  obtain ⟨m, m', -, -, hserve, -⟩ := rounds.served
  rcases hserve with ⟨-, ⟨result, hresult, hanswer⟩ | ⟨_, _, _, hnone⟩⟩
  · obtain ⟨asked', hasked', hverdict⟩ := hinv.verdict ticket result hresult
    cases hasked.symm.trans hasked'
    obtain ⟨readiness', rfl, hfatal⟩ :=
      hverdict ended (hgoes.ended name ended hended) (hlate.trans_le hsince)
    cases hanswer
    exact hfatal
  · cases hnone

/-! ## The readings -/

theorem clean_observed {n : Nat} {es : List (Node × Event Role.Reply)} {seen : List Observation}
    (h : none ∈ recordOf looker n es seen) :
    none ∈ seen ∨ ∃ es₁ w k ticket readiness es₂,
      es = es₁ ++ (w, .called n k (.await ticket) (.ok (some readiness))) :: es₂ ∧
        readiness.fatal = false := by
  induction es generalizing seen with
  | nil => exact .inl h
  | cons e es ih =>
    obtain ⟨w, e⟩ := e
    cases e with
    | called n' k c r =>
      rw [recordOf] at h
      rcases ih h with hseen | ⟨es₁, w', k', ticket, readiness, es₂, rfl, hclean⟩
      · by_cases hn : n' = n
        · subst hn
          rw [if_pos rfl] at hseen
          cases c with
          | await ticket =>
            rcases r with e | _ | readiness
            · exact .inl hseen
            · exact .inl hseen
            · cases hfatal : readiness.fatal with
              | true =>
                simp only [looker, observed, hfatal, if_true] at hseen
                exact .inl hseen
              | false => exact .inr ⟨[], w, k, ticket, readiness, es, rfl, hfatal⟩
          | monotonic =>
            cases r with
            | ok now =>
              have hcons : none ∈ some now :: seen := hseen
              exact .inl ((List.mem_cons.mp hcons).resolve_left (Option.some_ne_none now).symm)
            | error e => exact .inl hseen
          | _ => exact .inl hseen
        · rw [if_neg hn] at hseen
          exact .inl hseen
      · exact .inr ⟨_ :: es₁, w', k', ticket, readiness, es₂, rfl, hclean⟩
    | started | drifted =>
      rcases ih h with hseen | ⟨es₁, w', k', ticket, readiness, es₂, rfl, hclean⟩
      · exact .inl hseen
      · exact .inr ⟨_ :: es₁, w', k', ticket, readiness, es₂, rfl, hclean⟩

theorem observed_append (seen : List Observation) (c : HealthCall)
    (r : Raises HealthCall.Answer Exn c) : observed seen c r = observed [] c r ++ seen := by
  cases c with
  | await ticket =>
    rcases r with e | _ | ⟨fatal, reasons⟩
    · rfl
    · rfl
    · cases fatal <;> rfl
  | monotonic => cases r <;> rfl
  | _ => rfl

theorem recordOf_looker (n : Nat) (es : List (Node × Event Role.Reply)) (seen : List Observation) :
    recordOf looker n es seen = observations n es ++ seen := by
  induction es generalizing seen with
  | nil => rfl
  | cons e es ih =>
    obtain ⟨w, e⟩ := e
    cases e with
    | called n' k c r =>
      by_cases hn : n' = n
      · have hafter : observed seen c r = observed [] c r ++ seen := observed_append seen c r
        have hfirst : observations n ((w, .called n' k c r) :: es) =
            observations n es ++ observed [] c r := by
          rw [observations, recordOf, if_pos hn]
          exact ih (observed [] c r)
        rw [recordOf, if_pos hn, hfirst, List.append_assoc, ← hafter]
        exact ih (observed seen c r)
      · rw [observations, recordOf, recordOf, if_neg hn, if_neg hn]
        exact ih seen
    | started | drifted => exact ih seen

/-- The second observation is no later than the first. -/
def NoLater (newer older : Observation) : Prop := ∀ t t', newer = some t → older = some t' → t' ≤ t

/-- Readings in the order of time, none of them later than the clock. -/
structure InOrder (seen : List Observation) (clock : Rat) : Prop where
  past : ∀ t, some t ∈ seen → t ≤ clock
  pairwise : seen.Pairwise NoLater

theorem InOrder.mono {seen : List Observation} {clock clock' : Rat} (h : InOrder seen clock)
    (hle : clock ≤ clock') : InOrder seen clock' :=
  ⟨fun t ht => (h.past t ht).trans hle, h.pairwise⟩

theorem InOrder.observed {w w' : Node} {c : HealthCall} {r : Raises HealthCall.Answer Exn c}
    {seen : List Observation} (served : serve settings w c r w') (h : InOrder seen w.clock) :
    InOrder (observed seen c r) w'.clock := by
  rw [(times_of_serve served).1]
  cases c with
  | await ticket =>
    rcases r with e | _ | ⟨fatal, reasons⟩
    · exact h
    · exact h
    · cases fatal with
      | true => exact h
      | false =>
        refine ⟨fun t ht => h.past t ((List.mem_cons.mp ht).resolve_left nofun), ?_⟩
        exact List.pairwise_cons.mpr ⟨fun o _ t t' hnone => absurd hnone nofun, h.pairwise⟩
  | monotonic =>
    obtain ⟨rfl, -⟩ := served
    refine ⟨fun t ht => ?_, List.pairwise_cons.mpr ⟨fun o ho t t' hnow hold => ?_, h.pairwise⟩⟩
    · rcases List.mem_cons.mp ht with hnow | hbefore
      · exact (Option.some.inj hnow).le
      · exact h.past t hbefore
    · cases hnow
      exact h.past t' (hold ▸ ho)
  | _ => exact h

/-- **The readings of a run are in the order of time.** -/
theorem observations_in_order {p q : Crew Role.Reply Role.Label Node}
    {es : List (Node × Event Role.Reply)} {n : Nat} {seen : List Observation}
    (rounds : (node settings).Rounds Starts (blocks settings) p es q)
    (hseen : InOrder seen p.world.clock) : InOrder (recordOf looker n es seen) q.world.clock := by
  induction rounds generalizing seen with
  | nil => exact hseen
  | turn runs _ ih => exact ih hseen
  | step first _ ih =>
    cases first with
    | @call w w' ts n' k c r next runs served =>
      rw [recordOf]
      refine ih ?_
      by_cases hn : n' = n
      · rw [if_pos hn]
        exact hseen.observed served
      · rw [if_neg hn]
        exact hseen.mono (GoesOn.of_serve served).clock
    | start haccepts => exact ih hseen
    | drift hdrift => exact ih (hseen.mono hdrift.clock)

/-- A streak that was seen from its start has begun no later than its first reading. -/
theorem streakStart_append {recent older : List Observation} {first : Rat}
    (hfatal : ∀ o ∈ recent, o ≠ none) (hfirst : recent.getLast? = some (some first)) :
    streakStart (recent ++ older) = some ((streakStart older).getD first) := by
  induction recent with
  | nil => cases hfirst
  | cons o recent ih =>
    cases o with
    | none => exact absurd rfl (hfatal none List.mem_cons_self)
    | some t =>
      cases recent with
      | nil =>
        cases hfirst
        rfl
      | cons o' recent =>
        have hrest := ih (fun o ho => hfatal o (List.mem_cons_of_mem _ ho)) hfirst
        rw [List.cons_append, streakStart, hrest]
        rfl

theorem streakStart_mem {seen : List Observation} {since : Rat}
    (h : streakStart seen = some since) : some since ∈ seen := by
  obtain ⟨between, older, rfl, -⟩ := streakStart_some.mp h
  simp

/-- **No wedged worker is overlooked.**  Once a long-lived worker has ended and the watchdog has
asked for a probe after that, all it sees is fatal, and as soon as two of its readings are the
grace apart, the next thing it does is to restart the process. -/
theorem dead_worker_restarts {w w₁ w₂ : Node} {q : Crew Role.Reply Role.Label Node}
    {before since after : List (Node × Event Role.Reply)} {r₁ : Except Exn Ticket} {c : HealthCall}
    {r : Raises HealthCall.Answer Exn c} {ended : Rat}
    (rounds : (node settings).Rounds Starts (blocks settings) ⟨w, [watchdogWorker]⟩
      (before ++ (w₁, .called 0 .watchdog .submit r₁) ::
        (since ++ (w₂, .called 0 .watchdog c r) :: after)) q)
    (hfresh : ∀ ticket, w.delivered ticket = none) (hsubmitted : w.submitted = [])
    (hname : name ∈ fatalWorkers) (htask : name ∈ w.tasks)
    (hended : w₁.ended name = some ended) (hlate : ended < w₁.clock) :
    (∀ o ∈ observations 0 since, o ≠ none) ∧
      ∀ now between first, observations 0 since = some now :: (between ++ [some first]) →
        settings.grefferWatchdogGrace ≤ now - first → c = .terminate := by
  have hkept : KeptLooks name w := by
    refine ⟨htask, fun asked hmem => ?_, fun ticket result hresult => ?_⟩
    · rw [hsubmitted] at hmem
      cases hmem
    · rw [hfresh ticket] at hresult
      cases hresult
  have hfatal : ∀ o ∈ observations 0 since, o ≠ none := by
    rintro o ho rfl
    rcases clean_observed ho with hnil | ⟨es₁, w', k, ticket, readiness, es₂, rfl, hclean⟩
    · cases hnil
    · rw [List.append_assoc, List.cons_append] at rounds
      have hverdict := late_verdict rounds hkept hname hended hlate
      rw [hclean] at hverdict
      cases hverdict
  refine ⟨hfatal, fun now between first hsince hgrace => ?_⟩
  rw [← List.cons_append, ← List.append_assoc] at rounds
  obtain ⟨m, hbefore, -⟩ := rounds.of_append
  have hall : observations 0 (before ++ (w₁, .called 0 .watchdog .submit r₁) :: since) =
      observations 0 since ++ observations 0 before := by
    rw [observations, recordOf_append, recordOf, if_pos rfl]
    exact recordOf_looker 0 since (observations 0 before)
  have horder : (observations 0 since ++ observations 0 before).Pairwise NoLater := by
    rw [← hall]
    exact (observations_in_order hbefore ⟨fun t ht => absurd ht List.not_mem_nil, .nil⟩).pairwise
  refine (watchdog_allowed rounds rfl).mpr ?_
  rw [hall, hsince, List.cons_append, sustained_cons]
  rw [hsince, List.forall_mem_cons] at hfatal
  refine ⟨now, _, rfl, streakStart_append hfatal.2 List.getLast?_concat, ?_⟩
  -- the streak may have begun before the worker's end
  cases hstart : streakStart (observations 0 before) with
  | none => exact hgrace
  | some start =>
    have hfirst : some first ∈ observations 0 since := by simp [hsince]
    have hearlier : start ≤ first :=
      (List.pairwise_append.mp horder).2.2 _ hfirst _ (streakStart_mem hstart) first start rfl rfl
    exact hgrace.trans (sub_le_sub_left hearlier now)

/-! ### A monitor that has ended -/

/-- A node whose monitor has ended. -/
def wedgedNode : Node where
  __ := idleNode
  clock := 1
  tasks := fatalWorkers
  ended task := if task = "greffer-monitor" then some 0 else none

/-- The watchdog has slept, -/
def slept := runsFor defaultHealth 0 .watchdog 2 (.pure (some none)) wedgedNode

/-- and asks for a probe, -/
def lookAsked := runsFor defaultHealth 0 .watchdog 1 slept.2.2 slept.2.1

/-- whose thread finds the monitor dead. -/
def foundDead := runsFor defaultHealth 1 .probe 20 (.pure (some ())) lookAsked.2.1

/-- It asks for another, -/
def lookedOnce := runsFor defaultHealth 0 .watchdog 5 lookAsked.2.2 foundDead.2.1

/-- which has not come back when the grace is over. -/
def lookedTwice :=
  runsFor defaultHealth 0 .watchdog 2 lookedOnce.2.2 { lookedOnce.2.1 with clock := 40 }

/-- The events since the first probe. -/
def wedgedEvents : List (Node × Event Role.Reply) :=
  (lookAsked.2.1, .started 1) ::
    (foundDead.1 ++ lookedOnce.1 ++ (lookedOnce.2.1, .drifted) :: lookedTwice.1)

theorem lookedTwice_rest : ∃ next, lookedTwice.2.2 = .call .terminate next := by
  have hdue : (match lookedTwice.2.2 with
    | .call .terminate _ => true
    | _ => false) = true := by decide +kernel
  split at hdue
  case h_1 next heq => exact ⟨next, heq⟩
  case h_2 => cases hdue

theorem wedged_rounds : ∃ q, (node defaultHealth).Rounds Starts (blocks defaultHealth)
    ⟨wedgedNode, [watchdogWorker]⟩
    (slept.1 ++ (slept.2.1, .called 0 .watchdog .submit (.ok 0)) ::
      (wedgedEvents ++ [(lookedTwice.2.1, .called 0 .watchdog .terminate (.ok ()))])) q := by
  have hslept := runsFor_rounds defaultHealth 0 .watchdog 2 (.pure (some none)) wedgedNode
    [watchdogWorker] rfl
  have hasked := runsFor_rounds defaultHealth 0 .watchdog 1 slept.2.2 slept.2.1
    [⟨.watchdog, slept.2.2⟩] rfl
  have hdead := runsFor_rounds defaultHealth 1 .probe 20 (.pure (some ())) lookAsked.2.1
    [⟨.watchdog, lookAsked.2.2⟩, ⟨.probe, .pure (some ())⟩] rfl
  have honce := runsFor_rounds defaultHealth 0 .watchdog 5 lookAsked.2.2 foundDead.2.1
    [⟨.watchdog, lookAsked.2.2⟩, ⟨.probe, foundDead.2.2⟩] rfl
  have htwice := (pause_rounds defaultHealth lookedOnce.2.1 40 (by decide +kernel) _).append
    (runsFor_rounds defaultHealth 0 .watchdog 2 lookedOnce.2.2 { lookedOnce.2.1 with clock := 40 }
      [⟨.watchdog, lookedOnce.2.2⟩, ⟨.probe, foundDead.2.2⟩] rfl)
  obtain ⟨next, hnext⟩ := lookedTwice_rest
  have hsigterm : (node defaultHealth).Rounds Starts (blocks defaultHealth)
      ⟨lookedTwice.2.1, [⟨.watchdog, lookedTwice.2.2⟩, ⟨.probe, foundDead.2.2⟩]⟩
      [(lookedTwice.2.1, .called 0 .watchdog .terminate (.ok ()))]
      ⟨{ lookedTwice.2.1 with terminated := true },
        [⟨.watchdog, next (.ok ())⟩, ⟨.probe, foundDead.2.2⟩]⟩ := by
    rw [hnext]
    exact .step (.call rfl ⟨rfl, rfl⟩) (.nil _)
  have hsince := ((hdead.append honce).append htwice).append hsigterm
  exact ⟨_, hslept.append (hasked.append (.step (.start .probe) hsince))⟩

/-- Its end is noticed, and answered with a restart. -/
theorem dead_worker_restarts_monitor :
    observations 0 wedgedEvents = [some 40, some 1] ∧ ∀ o ∈ observations 0 wedgedEvents, o ≠ none := by
  obtain ⟨q, rounds⟩ := wedged_rounds
  have hended : slept.2.1.ended "greffer-monitor" = some 0 := by decide +kernel
  have hnoticed := dead_worker_restarts rounds (fun _ => rfl) rfl (by decide) (by decide) hended
    (by decide +kernel)
  exact ⟨by decide +kernel, hnoticed.1⟩

end Greffer.Health

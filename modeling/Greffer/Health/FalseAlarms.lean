import Greffer.Health.Watchdog

/-! # No false alarm

A verdict of the watchdog comes from a thread that runs among others: probes of `/readyz` requests,
and probes that were abandoned and run on.  They share the docker client, which whoever fails
drops.

Where the daemon answers, no long-lived worker has ended and the probes come back in time, no probe
is fatal in any interleaving, whatever becomes of the registration (`healthy_never_restarted`).  A
probe might find that another has dropped the client between its two looks; but the first client
to be dropped would be dropped for a failure of the daemon.
-/
namespace Greffer.Health
open Effects

/-- A call of a healthy node: no long-lived worker has ended, docker answers, and a probe comes
back before its time is up. -/
def healthy (w : Node) : (c : HealthCall) → Raises HealthCall.Answer Exn c → Bool
  | .importDocker, r | .ping _, r => r.isOk
  | .fromEnv, r => r.isOk
  | .await _, .ok none => false
  | .taskDone name, _ => name ∉ fatalWorkers || (w.ended name).isNone
  | _, _ => true

/-- The answers of a healthy node. -/
def Healthy (w : Node) (_ : Role) (c : HealthCall) (r : Raises HealthCall.Answer Exn c) : Prop :=
  healthy w c r = true

/-- A result that is not fatal. -/
def Clean (result : Except Exn Readiness) : Prop :=
  ∃ readiness, result = .ok readiness ∧ readiness.fatal = false

/-- What a thread of a healthy node may call and be answered, once it is sure that there is a
client or before. -/
def calm (k : Role) : Reliance k.Reply Bool where
  after sure
    | .readPingClient, .ok (some _) => true
    | .storePingClient (some _), _ => true
    | _, _ => sure
  allowed _
    | .storePingClient none | .terminate => False
    | .deliver _ result => Clean result
    | .respond statusCode _ _ _ => statusCode = 200
    | .taskDone name => name ∈ fatalWorkers
    | _ => True
  may sure
    | .readPingClient, r => ∃ client, r = .ok client ∧ (sure = true → client.isSome)
    | .taskDone _, r => r = .ok false
    | .await _, r => ∃ readiness, r = .ok (some readiness) ∧ readiness.fatal = false
    | .sleep _, _ => True
    | _, r => ∃ a, r = .ok a

/-- The watchdog never has anything to remember. -/
def AtCalm : (k : Role) → Option k.Label → Bool → Prop
  | .watchdog, some fatalSince, _ => fatalSince = none
  | _, _, _ => True

section Calm
variable {k : Role} {sure : Bool}

theorem calm_call {α : Type} {c : HealthCall} {f : c.Answer → Watching α}
    {Q : Except Exn α → Bool → Prop} (hallowed : (calm k).allowed sure c)
    (hmay : ∀ r, (calm k).may sure c r → ∃ a, r = .ok a)
    (hnext : ∀ a, (calm k).may sure c (.ok a) →
      (f a).Relies (calm k) Q ((calm k).after sure c (.ok a))) :
    (ask c >>= f).Relies (calm k) Q sure := by
  refine Action.relies_call hallowed (fun e he => ?_) hnext
  obtain ⟨a, ha⟩ := hmay _ he
  cases ha

/-- After the first look the thread is sure of a client. -/
theorem makeClient_calm :
    makeClient.Relies (calm k) (fun r s => r = .ok () ∧ s = true) sure := by
  unfold makeClient
  refine calm_call trivial (fun r hr => let ⟨a, ha, _⟩ := hr; ⟨a, ha⟩) fun client _ => ?_
  cases client with
  | some n => exact ⟨rfl, rfl⟩
  | none =>
    refine calm_call trivial (fun r hr => hr) fun client _ => ?_
    refine ⟨trivial, ?_⟩
    rintro r ⟨u, rfl⟩
    exact ⟨rfl, rfl⟩

/-- At the second look it is still there, and answers. -/
theorem pingClient_calm : pingClient.Relies (calm k) (fun r _ => r = .ok ()) true := by
  unfold pingClient
  refine calm_call trivial (fun r hr => let ⟨a, ha, _⟩ := hr; ⟨a, ha⟩) ?_
  rintro client ⟨client', hclient, hsome⟩
  cases hclient
  obtain ⟨n, rfl⟩ := Option.isSome_iff_exists.mp (hsome rfl)
  refine ⟨trivial, ?_⟩
  rintro r ⟨u, rfl⟩
  rfl

theorem dockerOk_calm : dockerOk.Relies (calm k) (fun r _ => r = .ok true) sure := by
  unfold dockerOk
  rw [Action.relies_tryExcept]
  refine calm_call trivial (fun r hr => hr) fun _ _ => ?_
  rw [Action.relies_bind]
  refine makeClient_calm.mono ?_
  rintro r s ⟨rfl, rfl⟩
  rw [onOk_ok, Action.relies_bind]
  refine pingClient_calm.mono ?_
  rintro r s rfl
  exact rfl

theorem deadWorkers_calm (tasks : List String) (names : List String)
    (hnames : ∀ name ∈ names, name ∈ fatalWorkers) :
    (deadWorkers tasks names).Relies (calm k) (fun r _ => r = .ok []) sure := by
  induction names generalizing sure with
  | nil => exact rfl
  | cons name rest ih =>
    have hrest (s : Bool) : (deadWorkers tasks rest).Relies (calm k) (fun r _ => r = .ok []) s :=
      ih fun n hn => hnames n (List.mem_cons_of_mem _ hn)
    unfold deadWorkers
    rw [Action.relies_ite]
    refine ⟨fun _ => ?_, fun _ => hrest sure⟩
    refine calm_call (hnames name List.mem_cons_self) (fun r hr => ⟨false, hr⟩) fun done hdone => ?_
    cases Except.ok.inj hdone
    rw [Action.relies_bind]
    refine (hrest _).mono ?_
    rintro r s rfl
    exact rfl

/-- **A probe of a healthy node is clean.** -/
theorem evaluateReadiness_calm :
    evaluateReadiness.Relies (calm k) (fun r _ => Clean r) sure := by
  unfold evaluateReadiness
  rw [Action.relies_bind]
  refine dockerOk_calm.mono ?_
  rintro r s rfl
  rw [onOk_ok]
  refine calm_call trivial (fun r hr => hr) fun tasks _ => ?_
  rw [Action.relies_bind]
  refine (deadWorkers_calm tasks fatalWorkers fun _ h => h).mono ?_
  rintro r s rfl
  rw [onOk_ok]
  exact calm_call trivial (fun r hr => hr) fun registered _ => ⟨_, rfl, rfl⟩

theorem probeThread_calm : probeThread.Relies (calm k) (fun _ _ => True) sure := by
  unfold probeThread
  refine calm_call trivial (fun r hr => hr) fun ticket _ => ?_
  rw [Action.relies_bind, Action.relies_outcome]
  exact evaluateReadiness_calm.mono fun r s hr => ⟨hr, fun _ _ => trivial⟩

theorem probe_calm : probe.Relies (calm k) (fun r _ => Clean r) sure := by
  unfold probe
  refine calm_call trivial (fun r hr => hr) fun ticket _ => ?_
  refine calm_call trivial (fun r hr => let ⟨a, ha, _⟩ := hr; ⟨some a, ha⟩) ?_
  rintro _ ⟨readiness, hr, hclean⟩
  cases hr
  exact ⟨readiness, rfl, hclean⟩

theorem watchdogRound_calm (settings : HealthSettings) :
    (watchdogRound settings none).Relies (calm .watchdog)
      (Action.AtEnd (AtCalm .watchdog)) sure := by
  unfold watchdogRound
  refine Action.relies_call trivial (fun _ _ => trivial) fun _ _ => ?_
  rw [Action.relies_bind]
  refine probe_calm.mono ?_
  rintro r s ⟨readiness, rfl, hclean⟩
  rw [onOk_ok, hclean]
  exact rfl

theorem readyz_calm (settings : HealthSettings) :
    (readyz settings).Relies (calm k) (fun _ _ => True) sure := by
  unfold readyz
  rw [Action.relies_bind]
  refine probe_calm.mono ?_
  rintro r s ⟨readiness, rfl, hclean⟩
  exact ⟨by simp [calm, hclean], fun _ _ => trivial⟩

end Calm

/-- A thread that is sure of a client is right. -/
def AgreesCalm (_ : Nat) (sure : Bool) (w : Node) : Prop := sure = true → w.client.isSome

/-- Nothing fatal has been delivered. -/
def DeliveredClean (_ : Nat) (w : Node) : Prop :=
  ∀ ticket result, w.delivered ticket = some result → Clean result

/-- A call that is allowed in a healthy node loses no client, -/
theorem client_of_serve {settings : HealthSettings} {w w' : Node} {k : Role} {c : HealthCall}
    {r : Raises HealthCall.Answer Exn c} {sure : Bool} (served : serve settings w c r w')
    (hallowed : (calm k).allowed sure c) (hw : w.client.isSome) : w'.client.isSome := by
  cases c with
  | storePingClient client =>
    obtain ⟨-, rfl⟩ := served
    cases client with
    | none => exact hallowed.elim
    | some n => rfl
  | fromEnv => rcases served with ⟨-, rfl⟩ | ⟨-, rfl⟩ <;> exact hw
  | take =>
    obtain ⟨ticket, -, -, -, rfl⟩ := served
    exact hw
  | importDocker | ping | sleep =>
    cases served
    exact hw
  | await =>
    obtain ⟨rfl, -⟩ := served
    exact hw
  | _ =>
    obtain ⟨-, rfl⟩ := served
    exact hw

/-- and delivers nothing fatal. -/
theorem delivered_of_serve {settings : HealthSettings} {w w' : Node} {k : Role} {c : HealthCall}
    {r : Raises HealthCall.Answer Exn c} {sure : Bool} {N : Nat}
    (served : serve settings w c r w') (hallowed : (calm k).allowed sure c)
    (hw : DeliveredClean N w) : DeliveredClean N w' := by
  intro ticket result h
  rcases delivered_cases served h with hbefore | rfl
  · exact hw ticket result hbefore
  · exact hallowed

/-- A healthy node answers as its threads reckon. -/
theorem may_of_healthy {settings : HealthSettings} {w w' : Node} {k : Role} {c : HealthCall}
    {r : Raises HealthCall.Answer Exn c} {sure : Bool} {n N : Nat} (hhealthy : Healthy w k c r)
    (served : serve settings w c r w') (hallowed : (calm k).allowed sure c)
    (hagree : AgreesCalm n sure w) (hw : DeliveredClean N w) : (calm k).may sure c r := by
  cases c with
  | importDocker | ping | fromEnv =>
    cases r with
    | ok a => exact ⟨a, rfl⟩
    | error e => cases hhealthy
  | sleep => trivial
  | readPingClient =>
    obtain ⟨rfl, -⟩ := served
    exact ⟨_, rfl, hagree⟩
  | taskDone name =>
    obtain ⟨rfl, -⟩ := served
    have hmem : name ∈ fatalWorkers := hallowed
    have halive : w.ended name = none := by simpa [Healthy, healthy, hmem] using hhealthy
    rw [halive]
    rfl
  | await ticket =>
    obtain ⟨-, ⟨result, hresult, rfl⟩ | ⟨asked, -, -, rfl⟩⟩ := served
    · obtain ⟨readiness, rfl, hclean⟩ := hw ticket result hresult
      exact ⟨readiness, rfl, hclean⟩
    · exact nomatch hhealthy
  | take =>
    obtain ⟨ticket, rfl, -⟩ := served
    exact ⟨ticket, rfl⟩
  | _ =>
    obtain ⟨rfl, -⟩ := served
    exact ⟨_, rfl⟩

/-- A thread is sure of a client only once it has seen or made one. -/
theorem sure_after {settings : HealthSettings} {w w' : Node} {k : Role} {c : HealthCall}
    {r : Raises HealthCall.Answer Exn c} {sure : Bool} {n : Nat}
    (served : serve settings w c r w') (hallowed : (calm k).allowed sure c)
    (hagree : AgreesCalm n sure w) : AgreesCalm n ((calm k).after sure c r) w' := by
  intro hsure
  cases c with
  | readPingClient =>
    obtain ⟨rfl, rfl⟩ := served
    cases hclient : w'.client with
    | none =>
      rw [hclient] at hsure
      have hsome := hagree hsure
      rw [hclient] at hsome
      exact hsome
    | some n => rfl
  | storePingClient client =>
    obtain ⟨-, rfl⟩ := served
    cases client with
    | none => exact hallowed.elim
    | some n => rfl
  | _ => exact client_of_serve served hallowed (hagree hsure)

theorem relied_calm (settings : HealthSettings) :
    Relied ((node settings).answering Healthy) Starts (blocks settings) calm AtCalm AgreesCalm
      DeliveredClean where
  block := by
    intro k l s h
    cases k with
    | watchdog =>
      obtain rfl : l = none := h
      exact Action.relies_block.mpr (watchdogRound_calm settings)
    | readyz => exact Action.relies_once.mpr ((readyz_calm settings).mono fun _ _ _ => trivial)
    | probe => exact Action.relies_once.mpr (probeThread_calm.mono fun _ _ _ => trivial)
  may served _ hinv hagree hallowed := may_of_healthy served.1 served.2 hallowed hagree hinv
  own served _ _ hagree hallowed := sure_after served.2 hallowed hagree
  other served _ _ _ hallowed _ hagree' hsure := client_of_serve served.2 hallowed (hagree' hsure)
  drift hdrift _ hagree hsure := by
    rw [(Drifts.same hdrift).1]
    exact hagree hsure
  fresh := by
    intro t n w haccepts _
    cases haccepts <;> exact ⟨false, trivial, nofun⟩
  inv_serve served _ hinv _ hallowed := delivered_of_serve served.2 hallowed hinv
  inv_drift hdrift hinv := by
    unfold DeliveredClean
    rw [(Drifts.same hdrift).2.1]
    exact hinv
  inv_succ hinv := hinv

/-- **No false alarm.**  As long as docker answers, no long-lived worker has ended and every probe
comes back in time, no interleaving of the watchdog, its probes and the requests for `/readyz`
sends a SIGTERM, answers a request with anything but 200, or drops the docker client — whatever
client there was at first, and whatever becomes of the registration. -/
theorem healthy_never_restarted {settings : HealthSettings} {w : Node}
    {q : Crew Role.Reply Role.Label Node} {es : List (Node × Event Role.Reply)}
    (hfresh : ∀ ticket, w.delivered ticket = none)
    (rounds : (node settings).Rounds Starts (blocks settings) ⟨w, [watchdogWorker]⟩ es q)
    (hhealthy : ∀ e ∈ es, Answered Healthy e) :
    ∀ w' n k c r, (w', .called n k c r) ∈ es →
      c ≠ .terminate ∧ c ≠ .storePingClient none ∧
        ∀ statusCode id status reasons, c = .respond statusCode id status reasons →
          statusCode = 200 := by
  have hstart : Relied.Agrees calm AtCalm AgreesCalm DeliveredClean
      (⟨w, [watchdogWorker]⟩ : Crew Role.Reply Role.Label Node) := by
    refine ⟨fun ticket result h => ?_, fun n t ht => ⟨false, ?_, nofun⟩⟩
    · rw [hfresh ticket] at h
      cases h
    · match n, ht with
      | 0, ht =>
        cases ht
        exact rfl
  intro w' n k c r he
  obtain ⟨N, sure, -, -, hallowed, -⟩ :=
    (relied_calm settings).at_call (rounds.answering hhealthy) hstart he
  refine ⟨?_, ?_, ?_⟩
  · rintro rfl
    exact hallowed
  · rintro rfl
    exact hallowed
  · rintro statusCode id status reasons rfl
    exact hallowed

/-! ### A clean probe -/

/-- The watchdog asks for a probe, -/
def probeAsked := runsFor defaultHealth 0 .watchdog 4 (.pure (some none)) idleNode

/-- whose thread runs to its end; -/
def probeDone := runsFor defaultHealth 1 .probe 12 (.pure (some ())) probeAsked.2.1

/-- then it looks at the verdict and sleeps again. -/
def probeSeen := runsFor defaultHealth 0 .watchdog 3 probeAsked.2.2 probeDone.2.1

/-- All the events. -/
def cleanEvents : List (Node × Event Role.Reply) :=
  probeAsked.1 ++ (probeAsked.2.1, .started 1) :: (probeDone.1 ++ probeSeen.1)

theorem clean_rounds : ∃ q, (node defaultHealth).Rounds Starts (blocks defaultHealth)
    ⟨idleNode, [watchdogWorker]⟩ cleanEvents q := by
  have hasked := runsFor_rounds defaultHealth 0 .watchdog 4 (.pure (some none)) idleNode
    [watchdogWorker] rfl
  have hdone := runsFor_rounds defaultHealth 1 .probe 12 (.pure (some ())) probeAsked.2.1
    [⟨.watchdog, probeAsked.2.2⟩, ⟨.probe, .pure (some ())⟩] rfl
  have hseen := runsFor_rounds defaultHealth 0 .watchdog 3 probeAsked.2.2 probeDone.2.1
    [⟨.watchdog, probeAsked.2.2⟩, ⟨.probe, probeDone.2.2⟩] rfl
  exact ⟨_, hasked.append (.step (.start .probe) (hdone.append hseen))⟩

instance (e : Node × Event Role.Reply) : Decidable (Answered Healthy e) :=
  match e with
  | (w, .called _ _ c r) => inferInstanceAs (Decidable (healthy w c r = true))
  | (_, .started _) | (_, .drifted) => isTrue trivial

/-- A probe that is asked for, made and looked at. -/
theorem healthy_never_restarted_probe : observations 0 cleanEvents = [none] ∧
    ∀ w' n k c r, (w', Event.called n k c r) ∈ cleanEvents →
      c ≠ .terminate ∧ c ≠ .storePingClient none ∧
        ∀ statusCode id status reasons, c = .respond statusCode id status reasons →
          statusCode = 200 := by
  obtain ⟨q, rounds⟩ := clean_rounds
  exact ⟨by decide +kernel, healthy_never_restarted (fun _ => rfl) rounds (by decide +kernel)⟩

end Greffer.Health

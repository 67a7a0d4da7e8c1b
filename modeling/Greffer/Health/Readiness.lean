import Mathlib.Algebra.Order.Ring.Rat
import Mathlib.Logic.Function.Basic
import Greffer.Effects.Reliance
import Greffer.Effects.Routine
import Greffer.Python.Value

/-! # Readiness and the watchdog

`evaluate_readiness` looks at the docker daemon, at the tasks of the long-lived workers and at the
flag `registered`.  The first two may be **fatal**, which a restart of the process heals; a
registration that is still pending only degrades the node.

The watchdog asks for it in rounds, and so does every `/readyz` request.  Each asks a thread of its
own and waits no longer than a timeout, after which the thread is abandoned but runs on.  All these
threads share one docker client, made when there is none and dropped by whoever fails with it.
-/
namespace Greffer.Health
open Effects

/-- `Readiness`. -/
structure Readiness where
  fatal : Bool := false
  reasons : List String := []

/-- `Readiness.status`. -/
def Readiness.status (r : Readiness) : String :=
  if r.fatal then "fatal" else if r.reasons.isEmpty then "ready" else "degraded"

/-- `FATAL_WORKERS`. -/
def fatalWorkers : List String :=
  ["greffer-monitor", "greffer-crl-sync", "greffer-heartbeat", "greffer-reregister",
    "greffer-cert-renewal"]

/-- A docker client, by the order in which they were made. -/
abbrev Client := Nat

/-- A probe that was asked for, by the order in which they were. -/
abbrev Ticket := Nat

/-- The calls of a probe, and of those who ask for one. -/
inductive HealthCall where
  | importDocker
  /-- The value of `_ping_client`. -/
  | readPingClient
  /-- `docker.from_env(timeout=…)`. -/
  | fromEnv
  /-- `_ping_client = client`. -/
  | storePingClient (client : Option Client)
  | ping (client : Client)
  /-- The names in `app.state.worker_tasks`, none before the workers are started. -/
  | workerTasks
  /-- `task.done()`. -/
  | taskDone (name : String)
  /-- `app.state.registered`, if there is one: whether it is set. -/
  | registeredIsSet
  /-- `anyio.to_thread.run_sync(evaluate_readiness, app, …)`: a thread is asked for. -/
  | submit
  /-- The thread begins. -/
  | take
  /-- The thread ends with a value or an exception. -/
  | deliver (ticket : Ticket) (result : Except Exn Readiness)
  /-- `asyncio.wait_for(…, timeout=…)`: nothing if the time is up. -/
  | await (ticket : Ticket)
  | sleep (seconds : Rat)
  | monotonic
  /-- `os.kill(os.getpid(), signal.SIGTERM)`. -/
  | terminate
  /-- The answer to `/readyz`. -/
  | respond (statusCode : Nat) (id status : String) (reasons : List String)

/-- What each call answers when it raises nothing. -/
@[reducible] def HealthCall.Answer : HealthCall → Type
  | .readPingClient => Option Client
  | .fromEnv => Client
  | .workerTasks => List String
  | .taskDone _ => Bool
  | .registeredIsSet => Option Bool
  | .submit | .take => Ticket
  | .await _ => Option Readiness
  | .monotonic => Rat
  | .importDocker | .storePingClient _ | .ping _ | .deliver _ _ | .sleep _ | .terminate
  | .respond _ _ _ _ => Unit

/-- Code that watches over the node's health. -/
abbrev Watching := Action HealthCall.Answer Exn

/-- Make one call. -/
abbrev ask (c : HealthCall) : Watching c.Answer := Action.perform c

/-! ## The probe -/

/-- The client is made if there is none. -/
def makeClient : Watching Unit := do
  if (← ask .readPingClient).isNone then
    let client ← ask .fromEnv
    ask (.storePingClient (some client))

/-- `_ping_client.ping()`.  The name is looked up again, and another thread may have dropped the
client by then. -/
def pingClient : Watching Unit := do
  match ← ask .readPingClient with
  | some client => ask (.ping client)
  | none => Action.raise (.attributeError "'NoneType' object has no attribute 'ping'")

/-- `_docker_ok`. -/
def dockerOk : Watching Bool :=
  Action.tryExcept (do
      ask .importDocker
      makeClient
      pingClient
      return true)
    fun _ => do
      ask (.storePingClient none)
      return false

/-- Those of the names whose task has ended. -/
def deadWorkers (tasks : List String) : List String → Watching (List String)
  | [] => return []
  | name :: rest => do
    if name ∈ tasks then
      let done ← ask (.taskDone name)
      let others ← deadWorkers tasks rest
      return if done then name :: others else others
    else deadWorkers tasks rest

/-- What the three looks come to. -/
def assess (reachable : Bool) (dead : List String) (registered : Option Bool) : Readiness where
  fatal := !reachable || !dead.isEmpty
  reasons := (if reachable then [] else ["docker_unreachable"]) ++
    dead.map ("worker_dead:" ++ ·) ++
    (if registered = some false then ["registration_pending"] else [])

/-- `evaluate_readiness`. -/
def evaluateReadiness : Watching Readiness := do
  let reachable ← dockerOk
  let tasks ← ask .workerTasks
  let dead ← deadWorkers tasks fatalWorkers
  let registered ← ask .registeredIsSet
  return assess reachable dead registered

/-- The thread of a probe. -/
def probeThread : Watching Unit := do
  let ticket ← ask .take
  let result ← evaluateReadiness.outcome
  ask (.deliver ticket result)

/-! ## Who asks for it -/

/-- The settings of the watchdog. -/
structure HealthSettings where
  grefferId : String
  grefferWatchdogInterval : Rat := 10
  grefferWatchdogGrace : Rat := 30
  grefferWatchdogProbeTimeout : Rat := 5

/-- What stands for a probe that took too long. -/
def probeTimedOut : Readiness where
  fatal := true
  reasons := ["readiness_probe_timeout"]

/-- A probe, within its time. -/
def probe : Watching Readiness := do
  let ticket ← ask .submit
  match ← ask (.await ticket) with
  | some readiness => return readiness
  | none => return probeTimedOut

/-- What the watchdog does about a fatal probe: the first starts the grace. -/
def onFatal (settings : HealthSettings) (fatalSince : Option Rat) :
    Watching (Option (Option Rat)) := do
  let now ← ask .monotonic
  match fatalSince with
  | none => return some (some now)
  | some since =>
    if settings.grefferWatchdogGrace ≤ now - since then
      ask .terminate
      return none
    else return some (some since)

/-- A round of `watchdog_worker`, which keeps `fatal_since`. -/
def watchdogRound (settings : HealthSettings) (fatalSince : Option Rat) :
    Watching (Option (Option Rat)) := do
  ask (.sleep settings.grefferWatchdogInterval)
  let readiness ← probe
  if readiness.fatal then onFatal settings fatalSince
  else return some none

/-- `readyz`, past its token. -/
def readyz (settings : HealthSettings) : Watching Unit := do
  let r ← probe
  ask (.respond (if r.fatal then 503 else 200) settings.grefferId r.status r.reasons)

/-! ## The threads -/

/-- The kinds of threads. -/
inductive Role where
  | watchdog
  | readyz
  | probe
  deriving DecidableEq

/-- The loop heads of each. -/
@[reducible] def Role.Label : Role → Type
  | .watchdog => Option Rat
  | .readyz | .probe => Unit

/-- The calls are the same for all. -/
abbrev Role.Reply (_ : Role) : HealthCall → Type := Raises HealthCall.Answer Exn

/-- The block of each loop head. -/
def blocks (settings : HealthSettings) : Blocks Role.Reply Role.Label
  | .watchdog, fatalSince => (watchdogRound settings fatalSince).block
  | .readyz, _ => (readyz settings).once
  | .probe, _ => probeThread.once

/-- The watchdog as it is started. -/
def watchdogWorker : Worker Role.Reply Role.Label := ⟨.watchdog, .pure (some none)⟩

/-- What starts while the node runs: requests, and the threads of probes. -/
inductive Starts : Worker Role.Reply Role.Label → Prop
  | readyz : Starts ⟨.readyz, .pure (some ())⟩
  | probe : Starts ⟨.probe, .pure (some ())⟩

/-! ## What they share -/

/-- The node, as far as its health goes. -/
structure Node where
  clock : Rat
  /-- `_ping_client`. -/
  client : Option Client
  /-- How many clients were made. -/
  clients : Nat
  /-- The names in `worker_tasks`. -/
  tasks : List String
  /-- When a task ended, if it has. -/
  ended : String → Option Rat
  registered : Option Bool
  /-- When each probe was asked for. -/
  submitted : List Rat
  /-- The probes whose threads have begun. -/
  taken : Ticket → Bool
  delivered : Ticket → Option (Except Exn Readiness)
  terminated : Bool

/-- What each call may be answered, and do.  Only docker's own calls fail as they like; a sleep
ends with an exception when its task is cancelled. -/
def serve (settings : HealthSettings) (w : Node) :
    (c : HealthCall) → Raises HealthCall.Answer Exn c → Node → Prop
  | .importDocker, _, w' | .ping _, _, w' | .sleep _, _, w' => w' = w
  | .readPingClient, r, w' => r = .ok w.client ∧ w' = w
  | .fromEnv, r, w' => (r = .ok w.clients ∧ w' = { w with clients := w.clients + 1 }) ∨
      (∃ e, r = .error e) ∧ w' = w
  | .storePingClient client, r, w' => r = .ok () ∧ w' = { w with client := client }
  | .workerTasks, r, w' => r = .ok w.tasks ∧ w' = w
  | .taskDone name, r, w' => r = .ok (w.ended name).isSome ∧ w' = w
  | .registeredIsSet, r, w' => r = .ok w.registered ∧ w' = w
  | .submit, r, w' => r = .ok w.submitted.length ∧
      w' = { w with submitted := w.submitted ++ [w.clock] }
  | .take, r, w' => ∃ ticket, r = .ok ticket ∧ ticket < w.submitted.length ∧
      w.taken ticket = false ∧ w' = { w with taken := Function.update w.taken ticket true }
  | .deliver ticket result, r, w' => r = .ok () ∧
      w' = { w with delivered := Function.update w.delivered ticket (some result) }
  | .await ticket, r, w' => w' = w ∧
      ((∃ result, w.delivered ticket = some result ∧ r = result.map some) ∨
        ∃ asked, w.submitted[ticket]? = some asked ∧
          asked + settings.grefferWatchdogProbeTimeout ≤ w.clock ∧ r = .ok none)
  | .monotonic, r, w' => r = .ok w.clock ∧ w' = w
  | .terminate, r, w' => r = .ok () ∧ w' = { w with terminated := true }
  | .respond _ _ _ _, r, w' => r = .ok () ∧ w' = w

/-- What happens by itself: the clock advances, tasks end, and the node gets registered or loses
its registration. -/
structure Drifts (w w' : Node) : Prop where
  clock : w.clock ≤ w'.clock
  /-- A task that has ended stays so, -/
  stays : ∀ name t, w.ended name = some t → w'.ended name = some t
  /-- and one that ends does so now. -/
  ends : ∀ name t, w'.ended name = some t → w.ended name = some t ∨ w.clock ≤ t ∧ t ≤ w'.clock
  rest : w' = { w with clock := w'.clock, ended := w'.ended, registered := w'.registered }

/-- **The shared table.** -/
def node (settings : HealthSettings) : Shared Role.Reply Node where
  serve _ _ w := serve settings w
  drift := Drifts

/-! ## What a step leaves -/

/-- Between calls nothing but the clock, the tasks and the registration changes. -/
theorem Drifts.same {w w' : Node} (h : Drifts w w') :
    w'.client = w.client ∧ w'.delivered = w.delivered ∧ w'.submitted = w.submitted := by
  rw [h.rest]
  exact ⟨rfl, rfl, rfl⟩

theorem times_of_serve {settings : HealthSettings} {w w' : Node} {c : HealthCall}
    {r : Raises HealthCall.Answer Exn c} (served : serve settings w c r w') :
    w'.clock = w.clock ∧ w'.ended = w.ended ∧ w'.tasks = w.tasks ∧
      (w'.submitted = w.submitted ∨
        c = .submit ∧ w'.submitted = w.submitted ++ [w.clock]) := by
  cases c with
  | submit =>
    obtain ⟨-, rfl⟩ := served
    exact ⟨rfl, rfl, rfl, .inr ⟨rfl, rfl⟩⟩
  | fromEnv => rcases served with ⟨-, rfl⟩ | ⟨-, rfl⟩ <;> exact ⟨rfl, rfl, rfl, .inl rfl⟩
  | take =>
    obtain ⟨ticket, -, -, -, rfl⟩ := served
    exact ⟨rfl, rfl, rfl, .inl rfl⟩
  | importDocker | ping | sleep =>
    cases served
    exact ⟨rfl, rfl, rfl, .inl rfl⟩
  | await =>
    obtain ⟨rfl, -⟩ := served
    exact ⟨rfl, rfl, rfl, .inl rfl⟩
  | _ =>
    obtain ⟨-, rfl⟩ := served
    exact ⟨rfl, rfl, rfl, .inl rfl⟩

theorem delivered_cases {settings : HealthSettings} {w w' : Node} {c : HealthCall}
    {r : Raises HealthCall.Answer Exn c} (served : serve settings w c r w') {ticket : Ticket}
    {result : Except Exn Readiness} (h : w'.delivered ticket = some result) :
    w.delivered ticket = some result ∨ c = .deliver ticket result := by
  cases c with
  | deliver ticket' result' =>
    obtain ⟨-, rfl⟩ := served
    dsimp only at h
    by_cases hticket : ticket = ticket'
    · subst hticket
      rw [Function.update_self] at h
      cases h
      exact .inr rfl
    · rw [Function.update_of_ne hticket] at h
      exact .inl h
  | fromEnv => rcases served with ⟨-, rfl⟩ | ⟨-, rfl⟩ <;> exact .inl h
  | take =>
    obtain ⟨ticket, -, -, -, rfl⟩ := served
    exact .inl h
  | importDocker | ping | sleep =>
    cases served
    exact .inl h
  | await =>
    obtain ⟨rfl, -⟩ := served
    exact .inl h
  | _ =>
    obtain ⟨-, rfl⟩ := served
    exact .inl h

/-! ## Threads that run alone -/

/-- A thread in a node where docker answers, and the latest probe that was asked for is the one
that begins.  It waits for one that is neither delivered nor late. -/
def working (settings : HealthSettings) (w : Node) :
    (c : HealthCall) → Option (Raises HealthCall.Answer Exn c × Node)
  | .importDocker | .ping _ | .sleep _ | .respond _ _ _ _ => some (.ok (), w)
  | .readPingClient => some (.ok w.client, w)
  | .fromEnv => some (.ok w.clients, { w with clients := w.clients + 1 })
  | .storePingClient client => some (.ok (), { w with client := client })
  | .workerTasks => some (.ok w.tasks, w)
  | .taskDone name => some (.ok (w.ended name).isSome, w)
  | .registeredIsSet => some (.ok w.registered, w)
  | .submit => some (.ok w.submitted.length, { w with submitted := w.submitted ++ [w.clock] })
  | .take =>
    if w.submitted.length - 1 < w.submitted.length ∧ w.taken (w.submitted.length - 1) = false then
      some (.ok (w.submitted.length - 1),
        { w with taken := Function.update w.taken (w.submitted.length - 1) true })
    else none
  | .deliver ticket result =>
    some (.ok (), { w with delivered := Function.update w.delivered ticket (some result) })
  | .await ticket =>
    match w.delivered ticket, w.submitted[ticket]? with
    | some result, _ => some (result.map some, w)
    | none, some asked =>
      if asked + settings.grefferWatchdogProbeTimeout ≤ w.clock then some (.ok none, w) else none
    | none, none => none
  | .monotonic => some (.ok w.clock, w)
  | .terminate => some (.ok (), { w with terminated := true })

theorem working_serves (settings : HealthSettings) (w : Node) (c : HealthCall)
    (r : Raises HealthCall.Answer Exn c) (w' : Node) (h : working settings w c = some (r, w')) :
    serve settings w c r w' := by
  cases c with
  | take =>
    simp only [working] at h
    split at h
    case isTrue hfree =>
      cases h
      exact ⟨_, rfl, hfree.1, hfree.2, rfl⟩
    case isFalse => cases h
  | await ticket =>
    simp only [working] at h
    split at h
    case h_1 result hdelivered =>
      cases h
      exact ⟨rfl, .inl ⟨_, hdelivered, rfl⟩⟩
    case h_2 asked hnone hasked =>
      split at h
      case isTrue hlate =>
        cases h
        exact ⟨rfl, .inr ⟨asked, hasked, hlate, rfl⟩⟩
      case isFalse => cases h
    case h_3 => cases h
  | importDocker | ping | sleep =>
    cases h
    exact rfl
  | fromEnv =>
    cases h
    exact .inl ⟨rfl, rfl⟩
  | _ =>
    cases h
    exact ⟨rfl, rfl⟩

/-- At most `m` calls of a thread: its events, the node, and what is left of it. -/
def runsFor (settings : HealthSettings) (n : Nat) (k : Role) (m : Nat)
    (p : Prog k.Reply (Option k.Label)) (w : Node) :=
  roundsFor (working settings) (blocks settings k) n m p w

theorem runsFor_rounds (settings : HealthSettings) (n : Nat) (k : Role) (m : Nat)
    (p : Prog k.Reply (Option k.Label)) (w : Node) (ts : List (Worker Role.Reply Role.Label))
    (hn : ts[n]? = some ⟨k, p⟩) :
    (node settings).Rounds Starts (blocks settings) ⟨w, ts⟩ (runsFor settings n k m p w).1
      ⟨(runsFor settings n k m p w).2.1, ts.set n ⟨k, (runsFor settings n k m p w).2.2⟩⟩ :=
  Shared.Rounds.alone (working_serves settings) m p w ts hn

theorem drifts_clock (w : Node) (t : Rat) (h : w.clock ≤ t) : Drifts w { w with clock := t } where
  clock := h
  stays _ _ h := h
  ends _ _ h := .inl h
  rest := rfl

theorem pause_rounds (settings : HealthSettings) (w : Node) (t : Rat) (h : w.clock ≤ t)
    (ts : List (Worker Role.Reply Role.Label)) : (node settings).Rounds Starts (blocks settings)
      ⟨w, ts⟩ [(w, .drifted)] ⟨{ w with clock := t }, ts⟩ :=
  .step (.drift (drifts_clock w t h)) (.nil _)

/-- A node without workers, whose first probe is still to come. -/
def idleNode : Node where
  clock := 0
  client := none
  clients := 0
  tasks := []
  ended _ := none
  registered := none
  submitted := []
  taken _ := false
  delivered _ := none
  terminated := false

/-- The settings as they come. -/
def defaultHealth : HealthSettings where
  grefferId := "greffer"

end Greffer.Health

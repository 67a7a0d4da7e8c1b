import Mathlib.Tactic.Linarith
import Greffer.Bringup.Up

/-! # What `greffer up` tells the operator

A `Journey` is read off the command's own calls: what it found in its configuration, what it was
answered last by the containers, the manager and the probes, and the first and the last reading of
the clock in the phase it is in.

The exit code says exactly how far the journey got, and no wait is given up before its time
(`exit_code_tells`).  What the operator is told on the way is what the command has seen: he is asked
to accept the greffer once, and only when the manager has said that it knows it
(`guidance_honest`).
-/
namespace Greffer.Bringup
open Effects

/-! ## The record -/

/-- How far the command has got. -/
structure Journey where
  env : List (String × String) := []
  /-- The files of the configuration have been written. -/
  wrote : Bool := false
  started : Bool := false
  /-- What `docker compose up` ended with. -/
  upResult : Option CommandResult := none
  /-- All services were running at the last look since the clock was first read.  The look before
  decides only whether the containers are to be started. -/
  running : Bool := false
  said : Option Fetched := none
  certified : Bool := false
  healthy : Bool := false
  /-- The first reading of the clock in the phase, -/
  since : Option Rat := none
  /-- and the last. -/
  now : Option Rat := none
  guided : Bool := false
  hinted : Bool := false
  /-- The reading before the last heartbeat. -/
  beatAt : Option Rat := none

namespace Journey

/-- The containers would not start. -/
def upFailed (s : Journey) : Bool := s.upResult.any fun r => !r.ok

/-- A reading of the clock. -/
def read (s : Journey) (t : Rat) : Journey :=
  { s with since := s.since.or (some t), now := some t }

/-- What a call adds to it. -/
def after (s : Journey) : (c : UpCall) → Raises UpCall.Answer Exn c → Journey
  | .readEnv, .ok env => { s with env }
  | .writeEnv _, .ok () => { s with wrote := true }
  | .servicesRunning _, .ok services =>
    { s with running := s.since.isSome && allRunning services }
  | .composeUp _, .ok r => { s with upResult := some r }
  | .monotonic, .ok t => s.read t
  | .get _, .ok r => { s with said := (fetched r).toOption }
  | .nginxCertInstalled, .ok r =>
    { s with certified := r.ok, since := if r.ok then none else s.since }
  | .healthz, .ok r => { s with healthy := r.ok }
  | .print .stateStarting, _ => { s with started := true }
  | .print .stateRegisteringContacting, _ | .print .stateAwaitingCert, _ =>
    { s with since := none }
  | .print (.stateRegistering _), _ => { s with guided := true }
  | .print .stateRegisteringPendingHint, _ => { s with hinted := true }
  | .print (.stateRegisteringPendingHeartbeat _), _
  | .print (.stateRegisteringHeartbeat _), _ => { s with beatAt := s.now }
  | _, _ => s

/-- What the manager said last. -/
def Said (s : Journey) (state : StateValue) : Prop := s.said = some (.state state)

/-- The mode it runs in. -/
def mode (args : UpArgs) (s : Journey) : String := orElse (s.env.lookup "GREFFER_MODE") args.mode

/-- **The exit code, by how far it got.** -/
def exitCode (args : UpArgs) (s : Journey) : Nat :=
  if s.started = false then 1
  else if s.upFailed then 20
  else if s.running = false then 10
  else if s.said = some .notFound then 14
  else if s.said ≠ some (.state (.text "GREFFER_REGISTERED")) then 11
  else if s.mode args = "proxy" ∧ s.certified = false then 12
  else if s.healthy = false then 13
  else 0

/-- The configuration is that of another greffer. -/
def Another (args : UpArgs) (s : Journey) : Prop :=
  ∃ other, s.env.lookup "GREFFER_ID" = some other ∧ other ≠ args.id

/-- The phase has taken all of its time. -/
def Waited (args : UpArgs) (s : Journey) : Prop :=
  ∃ since now, s.since = some since ∧ s.now = some now ∧ since + args.timeout ≤ now

/-- A heartbeat is due. -/
def Due (s : Journey) : Prop :=
  ∃ last now, s.beatAt.or s.since = some last ∧ s.now = some now ∧ last + 30 ≤ now

/-- The code with which the command may exit. -/
def MayExit (args : UpArgs) (s : Journey) (code : Nat) : Prop :=
  code = s.exitCode args ∧ (code = 1 → s.Another args) ∧ (10 ≤ code ∧ code ≤ 13 → s.Waited args)

/-- Whom a line is about: the greffer of the arguments. -/
def About (args : UpArgs) (grefferId : String) : Prop := grefferId = args.id

/-- A wait that a line gives up has taken all of its time, and the line says how long that is. -/
def Over (args : UpArgs) (s : Journey) (minutes : Int) : Prop :=
  minutes = (args.timeout / 60).floor ∧ s.Waited args

/-- **What the operator may be told.**  Of the certificate nothing is asked in tunnel mode, where
nobody looks at one; the line about `/healthz` speaks of it all the same. -/
def MayTell (args : UpArgs) (s : Journey) : UpLine → Prop
  | .initNoOp grefferId => About args grefferId ∧ s.env.lookup "GREFFER_ID" = some grefferId
  | .errInitDifferentId existingId newId _ => About args newId ∧
      s.env.lookup "GREFFER_ID" = some existingId ∧ existingId ≠ newId
  | .initWroteFiles grefferId mode => About args grefferId ∧ mode = args.mode ∧ s.wrote = true
  | .initWroteFilesProxyExtra address => args.mode = "proxy" ∧ address = args.address ∧
      s.wrote = true
  | .stateStarting => s.started = false
  | .composeUpFailed returncode stderr => s.upResult = some ⟨returncode, stderr⟩ ∧ returncode ≠ 0
  | .timeoutStarting minutes => s.Over args minutes ∧ s.running = false
  | .stateRegisteringContacting => s.running = true
  | .stateRegistering grefferId => About args grefferId ∧ s.guided = false ∧
      (s.Said (.text "GREFFER_REGISTERING") ∨ s.Said (.text "GREFFER_REGISTERED"))
  | .stateRegisteringPendingHeartbeat grefferId => About args grefferId ∧ s.Due ∧
      s.Said (.text "GREFFER_CREATED")
  | .stateRegisteringPendingHint => s.hinted = false ∧ s.Said (.text "GREFFER_CREATED")
  | .stateRegisteringHeartbeat grefferId => About args grefferId ∧ s.Due ∧ ∃ state, s.Said state ∧
      state ≠ .text "GREFFER_CREATED" ∧ state ≠ .text "GREFFER_REGISTERED"
  | .unknownManagerState state => s.Said state ∧ state ∉ knownStates
  | .grefferNotKnown _ grefferId => About args grefferId ∧ s.said = some .notFound
  | .timeoutRegistering minutes grefferId => About args grefferId ∧ s.Over args minutes ∧
      ¬ s.Said (.text "GREFFER_REGISTERED")
  | .stateAwaitingCert => s.Said (.text "GREFFER_REGISTERED")
  | .timeoutAwaitingCert minutes => s.Over args minutes ∧ s.mode args = "proxy" ∧
      s.certified = false
  | .healthzNotResponding => s.Waited args ∧ s.running = true ∧
      (s.mode args = "proxy" → s.certified = true) ∧ s.healthy = false
  | .connectedTunnel grefferId _ => About args grefferId ∧ s.mode args = "tunnel" ∧
      s.exitCode args = 0
  | .connectedProxy grefferId _ _ => About args grefferId ∧ s.mode args ≠ "tunnel" ∧
      s.exitCode args = 0

end Journey

/-- What the command may do, and reckons with: the clock does not fail, nor go back. -/
def travelling (args : UpArgs) (_ : Unit) : Reliance (Replies ()) Journey where
  after := Journey.after
  allowed s
    | .exit code => s.MayExit args code
    | .print line => s.MayTell args line
    | _ => True
  may s
    | .monotonic, r => ∃ t, r = .ok t ∧ ∀ t', s.now = some t' → t' ≤ t
    | _, _ => True

/-! ## Where it stands at each loop head -/

/-- The arguments of the state machine fit what is persisted. -/
structure Fits (args : UpArgs) (target : Target) (s : Journey) : Prop where
  id : target.grefferId = args.id
  mode : target.mode = s.mode args
  timeout : target.timeout = args.timeout

/-- The deadline of the phase. -/
def Until (args : UpArgs) (s : Journey) (deadline : Rat) : Prop :=
  ∃ since, s.since = some since ∧ deadline = since + args.timeout

/-- The state machine is on, and has got this far. -/
structure Reached (s : Journey) (running : Bool) : Prop where
  started : s.started = true
  upFailed : s.upFailed = false
  running : s.running = running
  healthy : s.healthy = false

/-- The manager has not been asked yet. -/
structure Early (s : Journey) : Prop where
  said : s.said = none
  certified : s.certified = false
  guided : s.guided = false
  hinted : s.hinted = false
  beatAt : s.beatAt = none

/-- What `wait_for_state` keeps is what it has told. -/
structure Keeps (p : Polling) (s : Journey) : Prop where
  guided : p.acceptGuidanceShown = s.guided
  hinted : p.pendingHintShown = s.hinted
  beat : ∃ last, s.beatAt.or s.since = some last ∧ last ≤ p.lastHeartbeat

/-- What holds at each head. -/
def AtHead (args : UpArgs) (_ : Unit) : Option UpLabel → Journey → Prop
  | none, _ => True
  | some .command, s => s = {}
  | some (.starting target), s => Fits args target s ∧ s = { env := s.env, wrote := s.wrote }
  | some (.composing target deadline), s => Fits args target s ∧ Reached s false ∧
      Early s ∧ Until args s deadline
  | some (.polling target p), s => Fits args target s ∧ Reached s true ∧
      s.said ≠ some .notFound ∧ ¬ s.Said (.text "GREFFER_REGISTERED") ∧
      Until args s p.deadline ∧ Keeps p s ∧ s.certified = false
  | some (.certPolling target deadline), s => Fits args target s ∧ Reached s true ∧
      s.Said (.text "GREFFER_REGISTERED") ∧ s.mode args = "proxy" ∧ s.certified = false ∧
      Until args s deadline
  | some (.healthPolling target deadline), s => Fits args target s ∧ Reached s true ∧
      s.Said (.text "GREFFER_REGISTERED") ∧ (s.mode args = "proxy" → s.certified = true) ∧
      Until args s deadline

/-! ## Its steps -/

section Steps
variable {args : UpArgs} {target : Target} {p : Polling} {s : Journey}

/-- A round that ends so, ends well: an exception that leaves ends the process. -/
abbrev Ends (args : UpArgs) : Except Exn Next → Journey → Prop := Action.AtEnd (AtHead args ())

theorem travels {α : Type} {c : UpCall} {f : c.Answer → Bringing α}
    {Q : Except Exn α → Journey → Prop} (hallowed : (travelling args ()).allowed s c)
    (herror : ∀ e s', Q (.error e) s')
    (hnext : ∀ a, (f a).Relies (travelling args ()) Q (s.after c (.ok a))) :
    (ask c >>= f).Relies (travelling args ()) Q s :=
  Action.relies_call hallowed (fun e _ => herror e _) fun a _ => hnext a

theorem reads {α : Type} {f : Rat → Bringing α} {Q : Except Exn α → Journey → Prop}
    (hnext : ∀ t, (∀ t', s.now = some t' → t' ≤ t) →
      (f t).Relies (travelling args ()) Q (s.read t)) :
    (ask .monotonic >>= f).Relies (travelling args ()) Q s := by
  refine Action.relies_call trivial ?_ ?_
  · rintro e ⟨t, ht, -⟩
    cases ht
  · rintro t ⟨t', ht, hlater⟩
    cases ht
    exact hnext t hlater

theorem Fits.over (h : Fits args target s) (hwaited : s.Waited args) : s.Over args target.minutes :=
  ⟨by rw [Target.minutes, h.timeout], hwaited⟩

theorem giveUp_travels {line : UpLine} {code : Nat} (htell : s.MayTell args line)
    (hsame : s.after (.print line) (.ok ()) = s) (hexit : s.MayExit args code) :
    (giveUp line code).Relies (travelling args ()) (Ends args) s := by
  unfold giveUp
  refine travels htell (fun _ _ => trivial) fun _ => ?_
  rw [hsame]
  exact travels hexit (fun _ _ => trivial) fun _ => trivial

theorem Until.read {deadline t : Rat} (h : Until args s deadline) : Until args (s.read t) deadline := by
  obtain ⟨since, hsince, heq⟩ := h
  exact ⟨since, by simp [Journey.read, hsince], heq⟩

theorem Until.first {t : Rat} (hsince : s.since = none) :
    Until args (s.read t) (t + args.timeout) :=
  ⟨t, by simp [Journey.read, hsince], rfl⟩

theorem Until.waited {deadline t : Rat} (h : Until args s deadline) (hlate : deadline ≤ t) :
    (s.read t).Waited args := by
  obtain ⟨since, hsince, rfl⟩ := h
  exact ⟨since, t, by simp [Journey.read, hsince], rfl, hlate⟩

theorem waitRound_travels {deadline seconds : Rat} {check : Bringing Bool} {again : UpLabel}
    {done expired : Bringing Next}
    (hcheck : ∀ t, t < deadline → check.Relies (travelling args ()) (fun r s' => ∀ b, r = .ok b →
      if b then done.Relies (travelling args ()) (Ends args) s'
      else AtHead args () (some again) s') (s.read t))
    (hexpired : ∀ t, deadline ≤ t → expired.Relies (travelling args ()) (Ends args) (s.read t)) :
    (waitRound deadline check seconds again done expired).Relies (travelling args ())
      (Ends args) s := by
  unfold waitRound
  refine reads fun t _ => ?_
  rw [Action.relies_ite]
  refine ⟨fun hbefore => ?_, fun hlate => hexpired t (not_lt.mp hlate)⟩
  rw [Action.relies_bind]
  refine (hcheck t hbefore).mono ?_
  rintro (e | b) s' hb
  · trivial
  · cases b with
    | true => exact hb true rfl
    | false => exact travels trivial (fun _ _ => trivial) fun _ => hb false rfl

theorem look_travels {c : UpCall} {g : c.Answer → Bool}
    {Q : Except Exn Bool → Journey → Prop} (hallowed : (travelling args ()).allowed s c)
    (herror : ∀ e s', Q (.error e) s') (hnext : ∀ a, Q (.ok (g a)) (s.after c (.ok a))) :
    (g <$> ask c).Relies (travelling args ()) Q s := by
  refine ⟨hallowed, ?_⟩
  rintro (e | a) -
  · exact herror e _
  · exact hnext a

/-! ### The configuration, and Starting -/

theorem Fits.of_env {s' : Journey} (h : Fits args target s) (henv : s'.env = s.env) :
    Fits args target s' where
  id := h.id
  mode := by
    rw [h.mode]
    unfold Journey.mode
    rw [henv]
  timeout := h.timeout

theorem writeConfig_travels {managerUrl : String} {Q : Except Exn Unit → Journey → Prop}
    (herror : ∀ e s', Q (.error e) s') (hok : Q (.ok ()) { s with wrote := true }) :
    (writeConfig args managerUrl).Relies (travelling args ()) Q s := by
  unfold writeConfig
  rw [Action.relies_bind, Action.relies_ofExcept]
  cases buildEnvValues managerUrl args.id args.mode args.address with
  | error e => exact herror e s
  | ok values =>
    refine travels trivial herror fun template => ?_
    refine travels trivial herror fun tag => ?_
    refine travels trivial herror fun _ => ?_
    refine travels trivial herror fun _ => ?_
    refine ⟨trivial, ?_⟩
    rintro (e | _) -
    · exact herror e _
    · exact hok

theorem reportConfig_travels {Q : Except Exn Unit → Journey → Prop}
    (herror : ∀ e s', Q (.error e) s') (hwrote : s.wrote = true) (hok : Q (.ok ()) s) :
    (reportConfig args).Relies (travelling args ()) Q s := by
  unfold reportConfig
  refine travels ⟨rfl, rfl, hwrote⟩ herror fun _ => ?_
  rw [Action.relies_ite]
  refine ⟨fun hproxy => ?_, fun _ => hok⟩
  refine ⟨⟨hproxy, rfl, hwrote⟩, ?_⟩
  rintro (e | _) -
  · exact herror e _
  · exact hok

theorem bringUp_travels {managerUrl : String} (hnew : s = { env := s.env, wrote := s.wrote }) :
    (bringUp args managerUrl).Relies (travelling args ()) (Ends args) s := by
  unfold bringUp
  refine travels trivial (fun _ _ => trivial) fun env => ⟨⟨rfl, rfl, rfl⟩, ?_⟩
  rw [hnew]
  rfl

theorem up_travels : (up args).Relies (travelling args ()) (Ends args) {} := by
  unfold up
  refine travels trivial (fun _ _ => trivial) fun _ => ?_
  have hresolve : (resolveManager args).Relies (travelling args ())
      (fun _ s => s = { env := s.env }) {} := by
    unfold resolveManager
    cases args.manager with
    | some url => rfl
    | none => exact Action.relies_call trivial (fun _ _ => rfl) fun env _ => rfl
  rw [Action.relies_bind]
  refine hresolve.mono ?_
  rintro (e | managerUrl) s hnew
  · trivial
  · refine travels trivial (fun _ _ => trivial) fun env => ?_
    have hread : s.after .readEnv (.ok env) = { env } := by
      rw [hnew]
      rfl
    rw [hread]
    cases hexisting : env.lookup "GREFFER_ID" with
    | none =>
      rw [Action.relies_bind]
      refine writeConfig_travels (fun _ _ => trivial) ?_
      rw [onOk_ok, Action.relies_bind]
      exact reportConfig_travels (fun _ _ => trivial) rfl (bringUp_travels rfl)
    | some existing =>
      dsimp only
      rw [Action.relies_ite]
      refine ⟨fun hown => ?_, fun hother => ?_⟩
      · exact travels ⟨rfl, hown ▸ hexisting⟩ (fun _ _ => trivial) fun _ => bringUp_travels rfl
      · exact giveUp_travels ⟨rfl, hexisting, hother⟩ rfl
          ⟨rfl, fun _ => ⟨existing, hexisting, hother⟩, fun h => absurd h.1 (by simp)⟩

theorem Early.read {t : Rat} (h : Early s) : Early (s.read t) := ⟨h.1, h.2, h.3, h.4, h.5⟩

theorem Reached.read {running : Bool} {t : Rat} (h : Reached s running) :
    Reached (s.read t) running := ⟨h.1, h.2, h.3, h.4⟩

theorem awaitCompose_travels (hfits : Fits args target s) (hreached : Reached s false)
    (hearly : Early s) (hsince : s.since = none) :
    (awaitCompose target).Relies (travelling args ()) (Ends args) s := by
  unfold awaitCompose
  refine reads fun t _ => ⟨hfits.of_env rfl, hreached.read, hearly.read, ?_⟩
  rw [hfits.timeout]
  exact .first hsince

theorem starting_travels (hfits : Fits args target s)
    (hnew : s = { env := s.env, wrote := s.wrote }) :
    (starting target).Relies (travelling args ()) (Ends args) s := by
  unfold starting
  have hfirst : s.started = false := by rw [hnew]
  refine travels hfirst (fun _ _ => trivial) fun _ => ?_
  have hstarted : s.after (.print .stateStarting) (.ok ()) =
      { env := s.env, wrote := s.wrote, started := true } := by
    rw [hnew]
    rfl
  rw [hstarted]
  refine travels trivial (fun _ _ => trivial) fun services => ?_
  rw [Action.relies_ite]
  refine ⟨fun _ => ?_, fun _ => ?_⟩
  · exact awaitCompose_travels (hfits.of_env rfl) ⟨rfl, rfl, rfl, rfl⟩ ⟨rfl, rfl, rfl, rfl, rfl⟩ rfl
  · refine travels trivial (fun _ _ => trivial) fun r => ?_
    rw [Action.relies_ite]
    refine ⟨fun hok => ?_, fun hfailed => ?_⟩
    · refine awaitCompose_travels (hfits.of_env rfl) ⟨rfl, ?_, rfl, rfl⟩ ⟨rfl, rfl, rfl, rfl, rfl⟩ rfl
      simp [Journey.after, Journey.upFailed, hok]
    · have hcode : r.returncode ≠ 0 := fun h => hfailed (by simp [CommandResult.ok, h])
      refine giveUp_travels ⟨rfl, hcode⟩ rfl ⟨?_, fun h => absurd h (by simp), fun h => ?_⟩
      · simp [Journey.exitCode, Journey.upFailed, Journey.after, hfailed]
      · omega

/-- The phase of `wait_for_state` begins. -/
theorem awaitAcceptance_travels (hfits : Fits args target s) (hreached : Reached s true)
    (hearly : Early s) :
    (awaitAcceptance target).Relies (travelling args ()) (Ends args) s := by
  unfold awaitAcceptance
  refine travels hreached.running (fun _ _ => trivial) fun _ => ?_
  refine reads fun t _ => reads fun t' hlater => ?_
  refine ⟨hfits.of_env rfl, ⟨hreached.1, hreached.2, hreached.3, hreached.4⟩, ?_, ?_, ?_,
    ⟨hearly.guided.symm, hearly.hinted.symm, t, ?_, hlater t rfl⟩, hearly.certified⟩
  · simp [Journey.read, Journey.after, hearly.said]
  · simp [Journey.Said, Journey.read, Journey.after, hearly.said]
  · rw [hfits.timeout]
    exact (Until.first rfl).read
  · simp [Journey.read, Journey.after, hearly.beatAt]

theorem composingRound_travels {deadline : Rat}
    (h : AtHead args () (some (.composing target deadline)) s) :
    (composingRound target deadline).Relies (travelling args ()) (Ends args) s := by
  obtain ⟨hfits, hreached, hearly, huntil⟩ := h
  refine waitRound_travels (fun t _ => ?_) fun t hlate => ?_
  · refine look_travels trivial (fun _ _ => nofun) fun services b hb => ?_
    have hearly' : Early ((s.read t).after (.servicesRunning (profileForMode target.mode))
        (.ok services)) := ⟨hearly.1, hearly.2, hearly.3, hearly.4, hearly.5⟩
    have hsome : (s.read t).since.isSome = true := by simp [Journey.read]
    cases Except.ok.inj hb
    cases hall : allRunning services with
    | true =>
      refine awaitAcceptance_travels (hfits.of_env rfl)
        ⟨hreached.started, hreached.upFailed, ?_, hreached.healthy⟩ hearly'
      simp [Journey.after, hsome, hall]
    | false =>
      refine ⟨hfits.of_env rfl, ⟨hreached.started, hreached.upFailed, ?_, hreached.healthy⟩,
        hearly', huntil.read⟩
      simp [Journey.after, hall]
  · have hwaited := huntil.waited hlate
    have hfits' : Fits args target (s.read t) := hfits.of_env rfl
    have hlate' : Reached (s.read t) false := hreached.read
    refine giveUp_travels ⟨hfits'.over hwaited, hreached.running⟩ rfl
      ⟨?_, fun h => absurd h (by simp), fun _ => hwaited⟩
    simp [Journey.exitCode, hlate'.started, hlate'.upFailed, hlate'.running]

/-! ### Registering -/

/-- What a round tells, and the clock, may be all that has changed. -/
def Apart (s s' : Journey) : Prop :=
  s' = { s with now := s'.now, guided := s'.guided, hinted := s'.hinted, beatAt := s'.beatAt }

/-- A part of a round leaves what it tells in what it keeps. -/
def Goes (p : Polling) (s : Journey) (r : Except Exn Polling) (s' : Journey) : Prop :=
  ∀ p', r = .ok p' → p'.deadline = p.deadline ∧ Keeps p' s' ∧ Apart s s'

theorem goes_same (hkeeps : Keeps p s) : Goes p s (.ok p) s := by
  rintro p' ⟨rfl⟩
  exact ⟨rfl, hkeeps, rfl⟩

theorem goes_bind {a : Bringing Polling} {f : Polling → Bringing Next}
    {Q : Except Exn Next → Journey → Prop} (ha : a.Relies (travelling args ()) (Goes p s) s)
    (herror : ∀ e s', Q (.error e) s')
    (hf : ∀ p' s', p'.deadline = p.deadline → Keeps p' s' → Apart s s' →
      (f p').Relies (travelling args ()) Q s') :
    (a >>= f).Relies (travelling args ()) Q s := by
  rw [Action.relies_bind]
  refine ha.mono ?_
  rintro (e | p') s' hgoes
  · exact herror e s'
  · obtain ⟨hdeadline, hkeeps, hapart⟩ := hgoes p' rfl
    exact hf p' s' hdeadline hkeeps hapart

theorem noteState_travels {observed : StateValue} (hfits : Fits args target s) (hkeeps : Keeps p s)
    (hsaid : s.Said observed) :
    (noteState target p observed).Relies (travelling args ()) (Goes p s) s := by
  unfold noteState
  rw [Action.relies_ite]
  refine ⟨fun _ => goes_same hkeeps, fun _ => ?_⟩
  unfold onStateChange
  rw [Action.relies_ite]
  refine ⟨?_, fun _ => ?_⟩
  · rintro ⟨hknown, hnot⟩
    refine travels ⟨hfits.id, hkeeps.guided.symm.trans hnot, ?_⟩ (fun _ _ => nofun) fun _ => ?_
    · rcases hknown with rfl | rfl
      · exact .inl hsaid
      · exact .inr hsaid
    · rintro p' ⟨rfl⟩
      exact ⟨rfl, ⟨rfl, hkeeps.hinted, hkeeps.beat⟩, rfl⟩
  · rintro p' ⟨rfl⟩
    exact ⟨rfl, ⟨hkeeps.guided, hkeeps.hinted, hkeeps.beat⟩, rfl⟩

theorem noteUnknown_travels {observed : StateValue} (hkeeps : Keeps p s) (hsaid : s.Said observed) :
    (noteUnknown p observed).Relies (travelling args ()) (Goes p s) s := by
  unfold noteUnknown
  rw [Action.relies_ite]
  refine ⟨fun _ => goes_same hkeeps, fun hunknown => ?_⟩
  rw [Action.relies_ite]
  refine ⟨fun _ => nofun, fun _ => ?_⟩
  rw [Action.relies_ite]
  refine ⟨fun _ => goes_same hkeeps, fun _ => ?_⟩
  refine travels ⟨hsaid, hunknown⟩ (fun _ _ => nofun) fun _ => ?_
  rintro p' ⟨rfl⟩
  exact ⟨rfl, ⟨hkeeps.guided, hkeeps.hinted, hkeeps.beat⟩, rfl⟩

/-- A heartbeat leaves the time at which it was due. -/
theorem heartbeat_travels {observed : StateValue} {now : Rat} (hid : Journey.About args target.grefferId)
    (hnow : s.now = some now)
    (hguided : p.acceptGuidanceShown = s.guided) (hhinted : p.pendingHintShown = s.hinted)
    (hsaid : s.Said observed) (hnot : observed ≠ .text "GREFFER_REGISTERED") (hdue : s.Due) :
    (heartbeat target p observed).Relies (travelling args ()) (fun r s' => ∀ p', r = .ok p' →
      p'.deadline = p.deadline ∧ p'.acceptGuidanceShown = s'.guided ∧
        p'.pendingHintShown = s'.hinted ∧ Apart s s' ∧ s'.beatAt = some now ∧
        s'.now = some now) s := by
  unfold heartbeat
  rw [Action.relies_ite]
  refine ⟨?_, fun hother => ?_⟩
  · rintro rfl
    refine travels ⟨hid, hdue, hsaid⟩ (fun _ _ => nofun) fun _ => ?_
    unfold pendingHint
    rw [Action.relies_ite]
    refine ⟨fun _ => ?_, fun hshown => ?_⟩
    · rintro p' ⟨rfl⟩
      exact ⟨rfl, hguided, hhinted, rfl, hnow, hnow⟩
    · have hfirst : s.hinted = false := hhinted.symm.trans (Bool.not_eq_true _ ▸ hshown)
      refine travels ⟨hfirst, hsaid⟩ (fun _ _ => nofun) fun _ => ?_
      rintro p' ⟨rfl⟩
      exact ⟨rfl, hguided, rfl, rfl, hnow, hnow⟩
  · refine travels ⟨hid, hdue, observed, hsaid, hother, hnot⟩ (fun _ _ => nofun) fun _ => ?_
    rintro p' ⟨rfl⟩
    exact ⟨rfl, hguided, hhinted, rfl, hnow, hnow⟩

theorem Apart.said {s' : Journey} (h : Apart s s') {state : StateValue} (hsaid : s.Said state) :
    s'.Said state := by
  rw [h]
  exact hsaid

theorem Apart.env {s' : Journey} (h : Apart s s') : s'.env = s.env := by rw [h]

theorem Apart.reached {s' : Journey} (h : Apart s s') {running : Bool} (hr : Reached s running) :
    Reached s' running := by
  rw [h]
  exact ⟨hr.1, hr.2, hr.3, hr.4⟩

theorem Apart.since {s' : Journey} (h : Apart s s') : s'.since = s.since := by rw [h]

theorem Apart.until {s' : Journey} (h : Apart s s') {deadline : Rat} (hu : Until args s deadline) :
    Until args s' deadline := by
  obtain ⟨since, hsince, heq⟩ := hu
  exact ⟨since, h.since.trans hsince, heq⟩

/-- The clock is all that a reading changes, once the phase has begun. -/
theorem Until.apart {deadline t : Rat} (h : Until args s deadline) : Apart s (s.read t) := by
  obtain ⟨since, hsince, -⟩ := h
  simp [Apart, Journey.read, hsince]

theorem Apart.trans {s' s'' : Journey} (h : Apart s s') (h' : Apart s' s'') : Apart s s'' := by
  rw [Apart, h', h]

theorem Keeps.read {deadline t : Rat} (h : Keeps p s) (huntil : Until args s deadline) :
    Keeps p (s.read t) := by
  obtain ⟨hguided, hhinted, last, hlast, hle⟩ := h
  obtain ⟨since, hsince, -⟩ := huntil
  refine ⟨hguided, hhinted, last, ?_, hle⟩
  rw [hsince] at hlast
  simpa [Journey.read, hsince] using hlast

theorem beat_travels {observed : StateValue} {deadline : Rat}
    (hid : Journey.About args target.grefferId) (huntil : Until args s deadline)
    (hkeeps : Keeps p s) (hsaid : s.Said observed)
    (hnot : observed ≠ .text "GREFFER_REGISTERED") :
    (beat target p observed).Relies (travelling args ()) (Goes p s) s := by
  unfold beat
  refine reads fun now _ => ?_
  have hread : Keeps p (s.read now) := hkeeps.read huntil
  rw [Action.relies_ite]
  refine ⟨fun hdue => ?_, fun _ => ?_⟩
  · obtain ⟨last, hlast, hle⟩ := hread.beat
    have hdue' : (s.read now).Due := ⟨last, now, hlast, rfl, by linarith⟩
    rw [Action.relies_bind]
    refine (heartbeat_travels hid rfl hread.guided hread.hinted hsaid hnot hdue').mono ?_
    rintro (e | p') s' hbeat
    · exact nofun
    · obtain ⟨hdeadline, hguided, hhinted, hapart, hbeatAt, hnow⟩ := hbeat p' rfl
      have huntil' := hapart.until huntil.read
      refine reads fun t hlater => ?_
      rintro p'' ⟨rfl⟩
      refine ⟨hdeadline, ⟨hguided, hhinted, now, ?_, hlater now hnow⟩,
        (huntil.apart.trans hapart).trans huntil'.apart⟩
      simp [Journey.read, hbeatAt]
  · rintro p' ⟨rfl⟩
    exact ⟨rfl, hread, huntil.apart⟩

/-- The wait for the manager is over. -/
theorem notAccepted_travels (hfits : Fits args target s) (hreached : Reached s true)
    (hsaid : s.said ≠ some .notFound)
    (hnot : ¬ s.Said (.text "GREFFER_REGISTERED")) (hwaited : s.Waited args) :
    (notAccepted target).Relies (travelling args ()) (Ends args) s := by
  refine giveUp_travels ⟨hfits.id, hfits.over hwaited, hnot⟩ rfl
    ⟨?_, fun h => absurd h (by simp), fun _ => hwaited⟩
  unfold Journey.Said at hnot
  simp [Journey.exitCode, hreached.started, hreached.upFailed, hreached.running, hsaid, hnot]

theorem accepted_travels (hfits : Fits args target s) (hreached : Reached s true)
    (hsaid : s.Said (.text "GREFFER_REGISTERED")) (hcertified : s.certified = false) :
    (accepted target).Relies (travelling args ()) (Ends args) s := by
  unfold accepted
  refine travels hsaid (fun _ _ => trivial) fun _ => reads fun t _ => ?_
  have hfits' : Fits args target ((s.after (.print .stateAwaitingCert) (.ok ())).read t) :=
    hfits.of_env rfl
  have huntil : Until args ((s.after (.print .stateAwaitingCert) (.ok ())).read t)
      (t + target.timeout) := by
    rw [hfits.timeout]
    exact .first rfl
  have hreached' : Reached ((s.after (.print .stateAwaitingCert) (.ok ())).read t) true :=
    ⟨hreached.1, hreached.2, hreached.3, hreached.4⟩
  by_cases hproxy : target.mode = "proxy"
  · rw [if_pos hproxy]
    exact ⟨hfits', hreached', hsaid, hfits'.mode ▸ hproxy, hcertified, huntil⟩
  · rw [if_neg hproxy]
    exact ⟨hfits', hreached', hsaid, fun h => absurd (hfits'.mode.trans h) hproxy, huntil⟩

/-- A failed request: the wait goes on, or is over. -/
theorem backOff_travels {wanted : PyFloat} (h : AtHead args () (some (.polling target p)) s) :
    (backOff target p wanted).Relies (travelling args ()) (Ends args) s := by
  obtain ⟨hfits, hreached, hfound, hnot, huntil, hkeeps, hcertified⟩ := h
  unfold backOff
  refine reads fun t _ => ?_
  rw [Action.relies_ite]
  refine ⟨fun hlate => ?_, fun _ => reads fun t' _ => ?_⟩
  · exact notAccepted_travels (hfits.of_env rfl) ⟨hreached.1, hreached.2, hreached.3, hreached.4⟩ hfound hnot
      (huntil.waited hlate)
  · have hnext : AtHead args ()
        (some (.polling target { p with interval := backedOff p.interval })) ((s.read t).read t') :=
      ⟨hfits.of_env rfl, ⟨hreached.1, hreached.2, hreached.3, hreached.4⟩, hfound, hnot,
        huntil.read.read, ⟨hkeeps.1, hkeeps.2, ((hkeeps.read huntil).read huntil.read).3⟩,
        hcertified⟩
    have hsleep (wait : PyFloat) : (sleepFor wait >>= fun _ => (pure (some (.polling target
        { p with interval := backedOff p.interval })) : Bringing Next)).Relies
        (travelling args ()) (Ends args) ((s.read t).read t') := by
      rw [Action.relies_bind]
      cases wait with
      | fin q =>
        unfold sleepFor
        rw [Action.relies_ite]
        refine ⟨fun _ => trivial, fun _ => ?_⟩
        rw [Action.relies_ite]
        refine ⟨fun _ => trivial, fun _ => ⟨trivial, ?_⟩⟩
        rintro (e | _) -
        · trivial
        · exact hnext
      | inf negative => trivial
      | nan => trivial
    exact hsleep _

theorem keepPolling_travels {observed : StateValue}
    (h : AtHead args () (some (.polling target p)) s) (hsaid : s.Said observed)
    (hother : observed ≠ .text "GREFFER_REGISTERED") :
    (keepPolling target p observed).Relies (travelling args ()) (Ends args) s := by
  obtain ⟨hfits, hreached, hfound, hnot, huntil, hkeeps, hcertified⟩ := h
  unfold keepPolling
  refine goes_bind (noteUnknown_travels hkeeps hsaid) (fun _ _ => trivial) fun p₁ s₁ hd₁ hk₁ ha₁ => ?_
  have hfound' (s' : Journey) (hsaid' : s'.Said observed) :
      s'.said ≠ some .notFound ∧ ¬ s'.Said (.text "GREFFER_REGISTERED") := by
    unfold Journey.Said at *
    rw [hsaid']
    exact ⟨nofun, fun heq => hother (by simpa using heq)⟩
  have hu₁ := ha₁.until huntil
  refine reads fun t _ => ?_
  have hs₂ : (s₁.read t).Said observed := ha₁.said hsaid
  have ha₂ : Apart s (s₁.read t) := ha₁.trans hu₁.apart
  rw [Action.relies_ite]
  refine ⟨fun hlate => ?_, fun _ => ?_⟩
  · rw [hd₁] at hlate
    exact notAccepted_travels (hfits.of_env ha₂.env) (ha₂.reached hreached) (hfound' _ hs₂).1 (hfound' _ hs₂).2
      (hu₁.waited hlate)
  · refine goes_bind (beat_travels hfits.id hu₁.read (hk₁.read hu₁) hs₂ hother) (fun _ _ => trivial)
      fun p₃ s₃ hd₃ hk₃ ha₃ => ?_
    have ha : Apart s s₃ := ha₂.trans ha₃
    refine travels trivial (fun _ _ => trivial) fun _ => ?_
    refine ⟨hfits.of_env ha.env, ha.reached hreached, (hfound' _ (ha.said hsaid)).1,
      (hfound' _ (ha.said hsaid)).2, ?_, ⟨hk₃.guided, hk₃.hinted, hk₃.beat⟩, ?_⟩
    · dsimp only
      rw [hd₃, hd₁]
      exact ha.until huntil
    · show s₃.certified = false
      rw [ha]
      exact hcertified

theorem observe_travels {observed : StateValue}
    (h : AtHead args () (some (.polling target p)) s)
    (s' : Journey) (hs' : s' = { s with said := some (.state observed) }) :
    (observe target p observed).Relies (travelling args ()) (Ends args) s' := by
  obtain ⟨hfits, hreached, hfound, hnot, huntil, hkeeps, hcertified⟩ := h
  subst hs'
  unfold observe
  refine goes_bind (p := p) (noteState_travels (hfits.of_env rfl)
    ⟨hkeeps.guided, hkeeps.hinted, hkeeps.beat⟩ rfl) (fun _ _ => trivial)
    fun p₁ s₁ hd₁ hk₁ ha₁ => ?_
  have hsaid : s₁.Said observed := ha₁.said rfl
  have hreached₁ : Reached s₁ true :=
    ha₁.reached ⟨hreached.1, hreached.2, hreached.3, hreached.4⟩
  have hfits₁ : Fits args target s₁ := hfits.of_env ha₁.env
  have hcertified₁ : s₁.certified = false := by
    rw [ha₁]
    exact hcertified
  rw [Action.relies_ite]
  refine ⟨?_, fun hother => ?_⟩
  · rintro rfl
    exact accepted_travels hfits₁ hreached₁ hsaid hcertified₁
  · refine keepPolling_travels ⟨hfits₁, hreached₁, ?_, ?_, ?_, hk₁, hcertified₁⟩ hsaid hother
    · unfold Journey.Said at hsaid
      rw [hsaid]
      nofun
    · unfold Journey.Said at *
      rw [hsaid]
      exact fun heq => hother (by simpa using heq)
    · rw [hd₁]
      exact ha₁.until huntil

theorem pollingRound_travels (h : AtHead args () (some (.polling target p)) s) :
    (pollingRound target p).Relies (travelling args ()) (Ends args) s := by
  unfold pollingRound fetchState
  rw [Action.relies_bind]
  refine travels trivial (fun _ _ => trivial) fun r => ?_
  rw [Action.relies_ofExcept]
  cases hfetched : fetched r with
  | error e => trivial
  | ok f =>
    have hafter (url : String) : s.after (.get url) (.ok r) = { s with said := some f } := by
      simp [Journey.after, hfetched, Except.toOption]
    rw [onOk_ok, hafter]
    obtain ⟨hfits, hreached, hfound, hnot, huntil, hkeeps, hcertified⟩ := id h
    have hreached' : Reached { s with said := some f } true :=
      ⟨hreached.1, hreached.2, hreached.3, hreached.4⟩
    cases f with
    | state observed => exact observe_travels h _ rfl
    | notFound =>
      refine giveUp_travels ⟨hfits.id, rfl⟩ rfl ⟨?_, fun h => absurd h (by simp), fun h => ?_⟩
      · unfold Journey.exitCode
        rw [hreached'.upFailed, hreached'.started, hreached'.running]
        simp
      · omega
    | rateLimited retryAfter =>
      exact backOff_travels ⟨hfits.of_env rfl, hreached', nofun, nofun, huntil,
        ⟨hkeeps.guided, hkeeps.hinted, hkeeps.beat⟩, hcertified⟩
    | unreachable =>
      exact backOff_travels ⟨hfits.of_env rfl, hreached', nofun, nofun, huntil,
        ⟨hkeeps.guided, hkeeps.hinted, hkeeps.beat⟩, hcertified⟩

/-! ### Awaiting cert, and Connected -/

theorem awaitHealthz_travels (hfits : Fits args target s) (hreached : Reached s true)
    (hsaid : s.Said (.text "GREFFER_REGISTERED")) (hcertified : s.certified = true)
    (hsince : s.since = none) :
    (awaitHealthz target).Relies (travelling args ()) (Ends args) s := by
  unfold awaitHealthz
  refine reads fun t _ => ⟨hfits.of_env rfl, ⟨hreached.1, hreached.2, hreached.3, hreached.4⟩,
    hsaid, fun _ => hcertified, ?_⟩
  rw [hfits.timeout]
  exact .first hsince

theorem certRound_travels {deadline : Rat}
    (h : AtHead args () (some (.certPolling target deadline)) s) :
    (certRound target deadline).Relies (travelling args ()) (Ends args) s := by
  obtain ⟨hfits, hreached, hsaid, hproxy, hcertified, huntil⟩ := h
  have hsaid' : s.said = some (.state (.text "GREFFER_REGISTERED")) := hsaid
  refine waitRound_travels (fun t _ => ?_) fun t hlate => ?_
  · refine look_travels trivial (fun _ _ => nofun) fun r b hb => ?_
    cases Except.ok.inj hb
    have hreached' : Reached ((s.read t).after .nginxCertInstalled (.ok r)) true :=
      ⟨hreached.1, hreached.2, hreached.3, hreached.4⟩
    cases hok : r.ok with
    | true =>
      exact awaitHealthz_travels (hfits.of_env rfl) hreached' hsaid hok
        (by simp [Journey.after, hok])
    | false =>
      refine ⟨hfits.of_env rfl, hreached', hsaid, hproxy, hok, ?_⟩
      obtain ⟨since, hsince, heq⟩ := huntil.read (t := t)
      exact ⟨since, by simp [Journey.after, hok, hsince], heq⟩
  · have hwaited := huntil.waited hlate
    have hno : (s.read t).mode args = "proxy" ∧ (s.read t).certified = false :=
      ⟨hproxy, hcertified⟩
    have hlate' : Reached (s.read t) true := hreached.read
    have hsaid'' : (s.read t).said = some (.state (.text "GREFFER_REGISTERED")) := hsaid'
    have hfits' : Fits args target (s.read t) := hfits.of_env rfl
    refine giveUp_travels ⟨hfits'.over hwaited, hno⟩ rfl
      ⟨?_, fun h => absurd h (by simp), fun _ => hwaited⟩
    unfold Journey.exitCode
    rw [if_pos hno]
    simp [hlate'.started, hlate'.upFailed, hlate'.running, hsaid'']

theorem healthzRound_travels {deadline : Rat}
    (h : AtHead args () (some (.healthPolling target deadline)) s) :
    (healthzRound target deadline).Relies (travelling args ()) (Ends args) s := by
  obtain ⟨hfits, hreached, hsaid, hcertified, huntil⟩ := h
  have hsaid' : s.said = some (.state (.text "GREFFER_REGISTERED")) := hsaid
  have hnot (s' : Journey) (henv : s'.env = s.env) (hc : s'.certified = s.certified) :
      ¬ (s'.mode args = "proxy" ∧ s'.certified = false) := by
    rintro ⟨hproxy, hno⟩
    have hmode : s'.mode args = s.mode args := by
      unfold Journey.mode
      rw [henv]
    rw [hc, hcertified (hmode ▸ hproxy)] at hno
    cases hno
  refine waitRound_travels (fun t _ => ?_) fun t hlate => ?_
  · refine look_travels trivial (fun _ _ => nofun) fun r b hb => ?_
    cases Except.ok.inj hb
    cases hok : r.ok with
    | true =>
      have hfailed : ((s.read t).after .healthz (.ok r)).upFailed = false := hreached.upFailed
      have hzero : ((s.read t).after .healthz (.ok r)).exitCode args = 0 := by
        have hc := hnot ((s.read t).after .healthz (.ok r)) rfl rfl
        unfold Journey.exitCode
        rw [if_neg hc, hfailed]
        simp [Journey.after, Journey.read, hreached.started, hreached.running, hsaid', hok]
      have hfits' : Fits args target ((s.read t).after .healthz (.ok r)) := hfits.of_env rfl
      refine giveUp_travels ?_ ?_ ⟨hzero.symm, nofun, fun h => absurd h.1 (by simp)⟩
      all_goals
        unfold connectedLine
        by_cases htunnel : target.mode = "tunnel"
      · rw [if_pos htunnel]
        exact ⟨hfits'.id, hfits'.mode.symm.trans htunnel, hzero⟩
      · rw [if_neg htunnel]
        exact ⟨hfits'.id, fun h => htunnel (hfits'.mode.trans h), hzero⟩
      · rw [if_pos htunnel]
        rfl
      · rw [if_neg htunnel]
        rfl
    | false =>
      exact ⟨hfits.of_env rfl, ⟨hreached.1, hreached.2, hreached.3, hok⟩, hsaid, hcertified,
        huntil.read⟩
  · have hwaited := huntil.waited hlate
    have hlate' : Reached (s.read t) true := hreached.read
    have hsaid'' : (s.read t).said = some (.state (.text "GREFFER_REGISTERED")) := hsaid'
    refine giveUp_travels ⟨hwaited, hlate'.running, hcertified, hlate'.healthy⟩ rfl
      ⟨?_, fun h => absurd h (by simp), fun _ => hwaited⟩
    have hc := hnot (s.read t) rfl rfl
    unfold Journey.exitCode
    rw [if_neg hc]
    simp [hlate'.started, hlate'.upFailed, hlate'.running, hsaid'', hlate'.healthy]

theorem blocks_travel {k : Unit} {l : UpLabel} (h : AtHead args k (some l) s) :
    (blocks args k l).Relies (travelling args k) (fun next s => AtHead args k next s) s := by
  obtain ⟨⟩ := k
  cases l with
  | command =>
    obtain rfl := h
    exact Action.relies_block.mpr up_travels
  | starting target => exact Action.relies_block.mpr (starting_travels h.1 h.2)
  | composing target deadline => exact Action.relies_block.mpr (composingRound_travels h)
  | polling target p => exact Action.relies_block.mpr (pollingRound_travels h)
  | certPolling target deadline => exact Action.relies_block.mpr (certRound_travels h)
  | healthPolling target deadline => exact Action.relies_block.mpr (healthzRound_travels h)

end Steps

end Greffer.Bringup

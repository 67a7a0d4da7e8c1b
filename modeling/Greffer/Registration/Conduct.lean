import Greffer.Registration.Workers

/-! # What a worker may do next

A worker is judged by what it has done: whether a registration run is its own to finish, which
token that run got accepted, which token it has read and is about to send.  `Conduct` is this
record and `allowed` says which calls it permits.

The module shows of each loop head, for the worker's text alone, that its block makes permitted
calls only and leaves a record that fits the next head (`blocks_keep`).  What the other workers do
meanwhile does not matter here.
-/
namespace Greffer.Registration
open Effects

/-- What a worker has done so far. -/
structure Conduct where
  /-- It is the heartbeat worker. -/
  beats : Bool := false
  /-- It is in a registration run. -/
  active : Bool := false
  /-- The token of the register request that was accepted in this `_run_registration`. -/
  accepted : Option String := none
  /-- The node certificate was installed in it. -/
  installed : Bool := false
  /-- A heartbeat that saw `registered` is under way. -/
  flight : Bool := false
  /-- The token it has read and not yet done with. -/
  goesBy : Option String := none
  /-- A callback that found no token in the file. -/
  misread : Bool := false
  /-- A wait of its own was ended by an exception. -/
  cancelled : Bool := false

/-- The workers that register. -/
def Role.registers : Role → Bool
  | .register | .reregister => true
  | .heartbeat | .monitor | .renewal | .callback => false

@[simp] theorem Role.registers_reregister : Role.reregister.registers = true := rfl
@[simp] theorem Role.registers_heartbeat : Role.heartbeat.registers = false := rfl
@[simp] theorem Role.registers_monitor : Role.monitor.registers = false := rfl
@[simp] theorem Role.registers_renewal : Role.renewal.registers = false := rfl
@[simp] theorem Role.registers_callback : Role.callback.registers = false := rfl

/-- The record after a call of a worker of kind `k`.  A call that raises ends the
`_run_registration` it is made in, unless it is a request that did not reach the manager. -/
def record (k : Role) (s : Conduct) :
    (c : NodeCall) → Raises NodeCall.Answer WorkerError c → Conduct
  | .takeRequest, .ok _ => { s with active := true, accepted := none, installed := false }
  | .holdToken _, .ok _ => { s with accepted := none, installed := false }
  | .postRegister _ token, .ok _ => { s with accepted := some token }
  | .installCert _, .ok _ => { s with installed := true }
  | .setRegistered, .ok _ => { s with active := false }
  | .awaitRegistered, .ok _ => if k = .heartbeat then { s with flight := true } else s
  | .requestReregistration, .ok _ => { s with flight := false }
  | .heldToken, .ok token => if k.registers then s else { s with goesBy := some token }
  | .readToken, .ok (.text content) =>
    if k ≠ .callback then s
    else if strip content ≠ "" then { s with goesBy := some (strip content) }
    else { s with misread := true }
  | .readToken, .ok _ => if k ≠ .callback then s else { s with misread := true }
  | .mint, .ok token => if k ≠ .callback then s else { s with goesBy := some token }
  | .postHeartbeat _ _, _ | .postCallback _, _ | .nextRenewalRequest, .ok false =>
    { s with goesBy := none }
  | .sleep _, .ok _ => { s with flight := false, goesBy := none }
  | .sleep _, .error _ | .takeRequest, .error _ | .awaitRegistered, .error _ =>
    { s with cancelled := true }
  | .fetchCert _, .error .unreachable => s
  | _, .error _ => { s with accepted := none, installed := false }
  | _, _ => s

/-- What its record allows a worker to call.  Those that register do so in a run, except that the
supervisor waits for one. -/
def allowed (settings : NodeSettings) (k : Role) (s : Conduct) (c : NodeCall) : Prop :=
  (s.active = true ↔ k.registers = true ∧ c ≠ .takeRequest) ∧
  match c with
  | .takeRequest => k = .reregister ∧ s.active = false
  | .holdToken token => s.active = true ∧ ∀ pinned ∈ settings.pinned, token = pinned
  | .fetchCert token => s.accepted = some token
  | .setRegistered => s.active = true ∧ s.installed = true
  | .awaitRegistered => k = .heartbeat → s.beats = true
  | .requestReregistration => s.flight = true
  | .postHeartbeat _ token | .reportStatusChange _ _ token | .renewalRequest token =>
    s.goesBy = some token
  | .postCallback token => s.goesBy = some token ∨ settings.pinned = some token
  | .mint => k = .callback → s.misread = true
  | _ => True

open Classical in
/-- The record as a monitor, which is lost with a call that is not allowed. -/
noncomputable def conduct (settings : NodeSettings) : Monitor Role.Reply (Option Conduct) where
  after k s c r := s.bind fun s => if allowed settings k s c then some (record k s c r) else none

/-! ## The judgement -/

/-- The action makes allowed calls only, and `Q` holds of its outcome and the record. -/
def Keeps {α : Type} (settings : NodeSettings) (k : Role)
    (Q : Except WorkerError α → Conduct → Prop) (m : Working α) (s : Conduct) : Prop :=
  m.Always ((conduct settings).machine k) (fun s => s.isSome)
    (fun r s => ∃ t, s = some t ∧ Q r t) (some s)

section Rules
variable {α β : Type} {settings : NodeSettings} {k : Role} {s : Conduct}

-- works out the equations of both once, before the proofs that use them side by side
attribute [local simp] allowed record

theorem Keeps.mono {Q R : Except WorkerError α → Conduct → Prop} {m : Working α}
    (h : Keeps settings k Q m s) (hQ : ∀ r t, Q r t → R r t) : Keeps settings k R m s := by
  refine Action.Always.mono h ?_
  rintro r _ - ⟨t, rfl, ht⟩
  exact ⟨t, rfl, hQ r t ht⟩

@[simp] theorem keeps_pure {Q : Except WorkerError α → Conduct → Prop} (a : α) :
    Keeps settings k Q (pure a) s ↔ Q (.ok a) s := by
  simp [Keeps]

@[simp] theorem keeps_raise {Q : Except WorkerError α → Conduct → Prop} (e : WorkerError) :
    Keeps settings k Q (Action.raise e) s ↔ Q (.error e) s := by
  simp [Keeps]

theorem keeps_work {c : NodeCall} {Q : Except WorkerError c.Answer → Conduct → Prop} :
    Keeps settings k Q (work c) s ↔
      allowed settings k s c ∧ ∀ r, Q r (record k s c r) := by
  simp only [Keeps, Action.always_perform, Monitor.machine, conduct, Option.bind_some]
  constructor
  · intro h
    obtain ⟨-, h⟩ := h
    have hallowed : allowed settings k s c := by
      by_contra hnot
      have hlost := (h (.error .unreachable) _ rfl).1
      rw [if_neg hnot] at hlost
      cases hlost
    refine ⟨hallowed, fun r => ?_⟩
    obtain ⟨-, t, ht, hQ⟩ := h r _ rfl
    rw [if_pos hallowed] at ht
    cases ht
    exact hQ
  · intro h
    refine ⟨rfl, ?_⟩
    rintro r _ rfl
    rw [if_pos h.1]
    exact ⟨rfl, _, rfl, h.2 r⟩

theorem keeps_bind {m : Working α} {f : α → Working β}
    {Q : Except WorkerError β → Conduct → Prop} :
    Keeps settings k Q (m >>= f) s ↔
      Keeps settings k (onOk (fun a t => Keeps settings k Q (f a) t) Q) m s := by
  rw [Keeps, Action.always_bind]
  constructor
  · intro h
    refine Action.Always.mono h ?_
    intro r u hu hr
    obtain ⟨t, rfl⟩ := Option.isSome_iff_exists.mp hu
    cases r with
    | ok a => exact ⟨t, rfl, hr⟩
    | error e =>
      obtain ⟨_, ht, hQ⟩ := hr
      cases ht
      exact ⟨t, rfl, hQ⟩
  · intro h
    refine Action.Always.mono h ?_
    rintro r _ - ⟨t, rfl, hr⟩
    cases r with
    | ok a => exact hr
    | error e => exact ⟨t, rfl, hr⟩

/-- **A call and what follows it**: its exception leaves. -/
theorem keeps_call {c : NodeCall} {f : c.Answer → Working α}
    {Q : Except WorkerError α → Conduct → Prop} (hallowed : allowed settings k s c)
    (herror : ∀ e, Q (.error e) (record k s c (.error e)))
    (hnext : ∀ a, Keeps settings k Q (f a) (record k s c (.ok a))) :
    Keeps settings k Q (work c >>= f) s := by
  rw [keeps_bind]
  refine keeps_work.mpr ⟨hallowed, ?_⟩
  intro r
  cases r with
  | ok a => exact hnext a
  | error e => exact herror e

theorem keeps_tryExcept {m : Working α} {h : WorkerError → Working α}
    {Q : Except WorkerError α → Conduct → Prop} :
    Keeps settings k Q (m.tryExcept h) s ↔
      Keeps settings k (fun r t => match r with
        | .ok a => Q (.ok a) t
        | .error e => Keeps settings k Q (h e) t) m s := by
  rw [Keeps, Action.always_tryExcept]
  constructor
  · intro h
    refine Action.Always.mono h ?_
    intro r u hu hr
    obtain ⟨t, rfl⟩ := Option.isSome_iff_exists.mp hu
    cases r with
    | ok a =>
      obtain ⟨_, ht, hQ⟩ := hr
      cases ht
      exact ⟨t, rfl, hQ⟩
    | error e => exact ⟨t, rfl, hr⟩
  · intro h
    refine Action.Always.mono h ?_
    rintro r _ - ⟨t, rfl, hr⟩
    cases r with
    | ok a => exact ⟨t, rfl, hr⟩
    | error e => exact hr

theorem keeps_ite (c : Prop) [Decidable c] {m m' : Working α}
    {Q : Except WorkerError α → Conduct → Prop} :
    Keeps settings k Q (if c then m else m') s ↔
      (c → Keeps settings k Q m s) ∧ (¬ c → Keeps settings k Q m' s) :=
  Action.always_ite c

end Rules

/-! ## The loop heads -/

/-- What the record of a registering worker says at each of its loop heads, and at its end. -/
def RunFits (k : Role) : Option RunLabel → Conduct → Prop
  | none, s => k = .register ∧ s.active = false ∨ s.cancelled = true
  | some .idle, s => k = .reregister ∧ s.active = false
  | some (.attempt _), s | some (.register _ _ _), s => s.active = true
  | some (.poll _ token), s => s.active = true ∧ s.accepted = some token

/-- What the record of each worker says at its loop heads, and at its end. -/
def Fits : (k : Role) → Option k.Label → Conduct → Prop
  | .register, next, s => RunFits .register next s
  | .reregister, next, s => RunFits .reregister next s
  | .heartbeat, _, s => s.active = false ∧ s.beats = true
  | .monitor, _, s | .callback, _, s => s.active = false
  | .renewal, some (.pass token _), s => s.active = false ∧ s.goesBy = some token
  | .renewal, _, s => s.active = false

section Registering
variable {settings : NodeSettings} {k : Role} {s : Conduct}

/-- What is left to say of a round when it is over. -/
def RoundEnds (k : Role) : Except WorkerError (Option RunLabel) → Conduct → Prop
  | .ok next, s => RunFits k next s
  | .error _, s => RunFits k none s

/-- What the code within the loop must leave: whatever it raises, the run goes on. -/
def GoesOn (k : Role) : Except WorkerError (Option RunLabel) → Conduct → Prop
  | .ok next, s => RunFits k next s
  | .error _, s => s.active = true

theorem sleep_allowed (hk : k.registers = true) (hs : s.active = true) (seconds : Rat) :
    allowed settings k s (.sleep seconds) := by
  simp [allowed, hk, hs]

theorem retrying_keeps (hk : k.registers = true) (outer : Rat) {run : Working (Option RunLabel)}
    (h : Keeps settings k (GoesOn k) run s) :
    Keeps settings k (RoundEnds k) (retrying outer run) s := by
  unfold retrying
  rw [keeps_tryExcept]
  refine h.mono ?_
  intro r t hr
  cases r with
  | ok next => exact hr
  | error e =>
    exact keeps_call (sleep_allowed hk hr outer) (fun _ => .inr rfl) fun _ => (keeps_pure _).mpr hr

/-- The token of a registration: a pinned one is used as it is. -/
theorem inflightToken_keeps (hk : k.registers = true) (hs : s.active = true) :
    Keeps settings k (fun r t => t.active = true ∧
      ∀ token, r = .ok token → ∀ pinned ∈ settings.pinned, token = pinned)
      (inflightToken settings) s := by
  have hnot : k ≠ .callback := by
    rintro rfl
    cases hk
  unfold inflightToken
  cases hpinned : settings.pinned with
  | some token =>
    refine (keeps_pure _).mpr ⟨hs, ?_⟩
    intro used hused pinned hpinned
    cases hused
    exact Option.some.inj hpinned
  | none =>
    have hread : Keeps settings k (fun _ t => t.active = true) loadPersistedToken s := by
      refine keeps_call (by simp [allowed, hk, hs]) (fun _ => hs) ?_
      intro read
      cases read <;> simp [record, hnot, hs]
    dsimp only
    rw [keeps_bind]
    refine hread.mono ?_
    intro r t ht
    rcases r with e | (_ | token)
    · exact ⟨ht, nofun⟩
    · refine keeps_work.mpr ⟨by simp [allowed, hk, ht], ?_⟩
      intro held
      cases held <;> simp [record, hk, ht]
    · exact (keeps_pure _).mpr ⟨ht, nofun⟩

theorem attempt_keeps (hk : k.registers = true) (hs : s.active = true) (outer : Rat) :
    Keeps settings k (RoundEnds k) (attempt settings outer) s := by
  refine retrying_keeps hk outer ?_
  have haddress : Keeps settings k (fun _ t => t.active = true) (resolveAddress settings) s := by
    unfold resolveAddress
    cases nonEmpty settings.grefferAddress with
    | some address => exact (keeps_pure _).mpr hs
    | none =>
      refine keeps_work.mpr ⟨by simp [allowed, hk, hs], ?_⟩
      intro resolved
      cases resolved with
      | ok address => exact hs
      | error e => exact hs
  rw [keeps_bind]
  refine haddress.mono ?_
  intro r t ht
  cases r with
  | ok address => exact (keeps_pure _).mpr ht
  | error e => exact ht

theorem registerRefused_keeps (hk : k.registers = true) (hs : s.active = true) (outer : Rat)
    (address : String) (delay : Rat) (e : WorkerError) :
    Keeps settings k (GoesOn k) (registerRefused outer address delay e) s := by
  have hwait : Keeps settings k (GoesOn k) (do
      work (.sleep delay)
      return some (.register outer address (backedOff delay))) s :=
    keeps_call (sleep_allowed hk hs delay) (fun _ => hs) fun _ => (keeps_pure _).mpr hs
  cases e with
  | unreachable => exact hwait
  | rejected statusCode body => exact hwait
  | raised e => exact (keeps_raise _).mpr hs

/-- **Phase 1**: the token that is accepted is the one of the poll that follows. -/
theorem registerRound_keeps (hk : k.registers = true) (hs : s.active = true) (outer : Rat)
    (address : String) (delay : Rat) :
    Keeps settings k (RoundEnds k) (registerRound settings outer address delay) s := by
  refine retrying_keeps hk outer ?_
  rw [keeps_bind]
  refine (inflightToken_keeps hk hs).mono ?_
  rintro r t ⟨hs, htoken⟩
  cases r with
  | error e => exact hs
  | ok token =>
    have hhold : allowed settings k t (.holdToken token) := ⟨by simp [hk, hs], hs, htoken token rfl⟩
    refine keeps_call hhold (fun _ => hs) fun _ => ?_
    rw [keeps_tryExcept]
    refine keeps_call (by simp [allowed, record, hk, hs]) ?_ fun _ =>
      (keeps_pure _).mpr ⟨hs, rfl⟩
    intro e
    refine registerRefused_keeps hk ?_ outer address delay e
    exact hs

/-- A poll that is answered, or does not reach the manager, leaves the run what it is. -/
theorem fetchCert_keeps (hk : k.registers = true) (hs : s.active = true) {token : String}
    (htoken : s.accepted = some token) :
    Keeps settings k (fun r t => t.active = true ∧ ∀ polled, r = .ok polled → t = s)
      (Action.tryExcept (work (.fetchCert token)) pollFailed) s := by
  rw [keeps_tryExcept]
  refine keeps_work.mpr ⟨⟨by simp [hk, hs], htoken⟩, ?_⟩
  intro polled
  cases polled with
  | ok answer => exact ⟨hs, fun _ _ => rfl⟩
  | error e =>
    cases e with
    | unreachable => exact (keeps_pure _).mpr ⟨hs, fun _ _ => rfl⟩
    | rejected statusCode body => exact (keeps_raise _).mpr ⟨hs, nofun⟩
    | raised e => exact (keeps_raise _).mpr ⟨hs, nofun⟩

/-- **Phase 2**: `registered` is set with the certificate installed, and the run is over. -/
theorem pollRound_keeps (hk : k.registers = true) (hs : s.active = true) {token : String}
    (htoken : s.accepted = some token) (outer : Rat) {finished : Option RunLabel}
    (hfinished : ∀ t : Conduct, t.active = false → RunFits k finished t) :
    Keeps settings k (RoundEnds k) (pollRound outer token finished) s := by
  refine retrying_keeps hk outer ?_
  rw [keeps_bind]
  refine (fetchCert_keeps hk hs htoken).mono ?_
  rintro r t ⟨hactive, hsame⟩
  rcases r with e | ⟨answer, statusCode⟩
  · exact hactive
  · cases hsame _ rfl
    cases answer with
    | none =>
      -- not issued yet: the run goes on with the same token
      exact keeps_call (sleep_allowed hk hs _) (fun _ => hs) fun _ =>
        (keeps_pure _).mpr ⟨hs, htoken⟩
    | some data =>
      refine keeps_call (by simp [allowed, hk, hs]) (fun _ => hs) fun _ => ?_
      refine keeps_call (by simp [allowed, record, hk, hs]) (fun _ => hs) fun _ => ?_
      refine keeps_call (by simp [allowed, record, hk, hs]) (fun _ => hs) fun _ => ?_
      refine keeps_call (by simp [allowed, record, hk, hs]) (fun _ => hs) fun _ => ?_
      refine keeps_call ⟨by simp [record, hk, hs], hs, rfl⟩ (fun _ => hs) fun _ => ?_
      exact (keeps_pure _).mpr (hfinished _ rfl)

/-- The supervisor that is called up has a registration run. -/
theorem takeUp_keeps (hs : s.active = false) :
    Keeps settings .reregister (RoundEnds .reregister) takeUp s := by
  have htake : allowed settings .reregister s .takeRequest := by
    simp [allowed, hs]
  exact keeps_call htake (fun _ => .inr rfl) fun _ => (keeps_pure _).mpr rfl

theorem registration_keeps (hk : k.registers = true) {finished : Option RunLabel}
    (hfinished : ∀ t : Conduct, t.active = false → RunFits k finished t) (l : RunLabel)
    (hs : RunFits k (some l) s) :
    Keeps settings k (RoundEnds k) (registration settings finished l) s := by
  cases l with
  | idle =>
    obtain ⟨rfl, hs⟩ := hs
    exact takeUp_keeps hs
  | attempt outer => exact attempt_keeps hk hs outer
  | register outer address delay => exact registerRound_keeps hk hs outer address delay
  | poll outer token => exact pollRound_keeps hk hs.1 hs.2 outer hfinished

end Registering

section Others
variable {settings : NodeSettings} {k : Role} {s : Conduct}

/-- Whatever becomes of what is logged, the code after it runs. -/
theorem logged_keeps {m : Working Unit} {P : Conduct → Prop}
    (h : Keeps settings k (fun _ t => P t) m s) :
    Keeps settings k (fun r t => r = .ok () ∧ P t) (logged m) s := by
  unfold logged
  rw [keeps_tryExcept]
  refine h.mono ?_
  intro r t ht
  cases r with
  | ok u => exact ⟨rfl, ht⟩
  | error e => exact (keeps_pure _).mpr ⟨rfl, ht⟩

/-- **A beat** is sent with the token just read, and asks for a re-registration only while it has
seen `registered` set. -/
theorem heartbeat_keeps (hs : s.active = false) (hbeats : s.beats = true) (seq : Nat) :
    Keeps settings .heartbeat (fun _ t => t.active = false ∧ t.beats = true)
      (heartbeat settings seq) s := by
  refine keeps_call (by simp [allowed, hs, hbeats]) (fun _ => ⟨hs, hbeats⟩) fun _ => ?_
  rw [keeps_bind]
  refine (logged_keeps (P := fun t => t.active = false ∧ t.beats = true) ?_).mono ?_
  · have hbeat : Keeps settings .heartbeat
        (fun _ t => t.active = false ∧ t.beats = true ∧ t.flight = true)
        (oneHeartbeat (seq + 1)) { s with flight := true } := by
      refine keeps_call (by simp [allowed, hs]) (fun _ => ⟨hs, hbeats, rfl⟩) fun _ => ?_
      refine keeps_call (by simp [allowed, record, hs]) (fun _ => ⟨hs, hbeats, rfl⟩) ?_
      intro token
      refine keeps_work.mpr ⟨?_, ?_⟩
      · simp [allowed, record, hs]
      · intro r
        exact ⟨hs, hbeats, rfl⟩
    rw [keeps_bind]
    refine hbeat.mono ?_
    rintro r t ⟨hactive, hbeats, hflight⟩
    cases r with
    | error e => exact ⟨hactive, hbeats⟩
    | ok statusCode =>
      rw [onOk_ok, keeps_ite]
      refine ⟨fun _ => ?_, fun _ => (keeps_pure _).mpr ⟨hactive, hbeats⟩⟩
      refine keeps_work.mpr ⟨by simp [allowed, hactive, hflight], ?_⟩
      intro r
      cases r with
      | ok u => exact ⟨hactive, hbeats⟩
      | error e => exact ⟨hactive, hbeats⟩
  · rintro r t ⟨rfl, hactive, hbeats⟩
    refine keeps_call (by simp [allowed, hactive]) (fun _ => ⟨hactive, hbeats⟩) fun _ => ?_
    exact (keeps_pure _).mpr ⟨hactive, hbeats⟩

theorem reportAll_keeps {token : String} (hs : s.active = false)
    (htoken : s.goesBy = some token) (changes : List (String × String)) :
    Keeps settings .monitor (fun _ t => t.active = false) (reportAll token changes) s := by
  induction changes generalizing s with
  | nil => exact (keeps_pure _).mpr hs
  | cons change rest ih =>
    obtain ⟨greffonId, status⟩ := change
    have hreport : allowed settings .monitor s (.reportStatusChange greffonId status token) :=
      ⟨by simp [hs], htoken⟩
    rw [reportAll, keeps_bind, keeps_tryExcept]
    refine keeps_call hreport ?_ fun _ => (keeps_pure _).mpr (ih hs htoken)
    intro e
    cases e with
    | unreachable =>
      refine (keeps_pure _).mpr (ih ?_ ?_)
      · exact hs
      · exact htoken
    | rejected statusCode body => exact (keeps_raise _).mpr hs
    | raised e => exact (keeps_raise _).mpr hs

theorem monitorTick_keeps (hs : s.active = false) :
    Keeps settings .monitor (fun _ t => t.active = false) (monitorTick settings) s := by
  unfold monitorTick
  rw [keeps_bind]
  refine (logged_keeps (P := fun t => t.active = false) ?_).mono ?_
  · refine keeps_call (by simp [allowed, hs]) (fun _ => hs) fun token => ?_
    refine keeps_call (by simp [allowed, record, hs]) (fun _ => hs) ?_
    intro changes
    refine reportAll_keeps ?_ rfl changes
    exact hs
  · rintro r t ⟨rfl, hactive⟩
    refine keeps_call (by simp [allowed, hactive]) (fun _ => hactive) fun _ => ?_
    exact (keeps_pure _).mpr hactive

/-- What is left to say of a renewal's round when it is over. -/
def RenewalEnds : Except WorkerError (Option RenewalLabel) → Conduct → Prop
  | .ok next, s => Fits .renewal next s
  | .error _, s => s.active = false

theorem afterPass_fits (worker : Bool) (hs : s.active = false) :
    Fits .renewal (afterPass worker) s := by
  cases worker with
  | true => exact hs
  | false => exact hs

/-- A pass begins with the token it will go by. -/
theorem beginPass_keeps (hs : s.active = false) (worker : Bool) :
    Keeps settings .renewal RenewalEnds (do
      let token ← work .heldToken
      return some (.pass token worker)) s := by
  refine keeps_call (by simp [allowed, hs]) (fun _ => hs) fun token => ?_
  exact (keeps_pure _).mpr ⟨hs, rfl⟩

theorem renewal_keeps (l : RenewalLabel) (hs : Fits .renewal (some l) s) :
    Keeps settings .renewal RenewalEnds (renewal settings l) s := by
  cases l with
  | due =>
    have hs : s.active = false := hs
    refine keeps_call (by simp [allowed, hs]) (fun _ => hs) fun _ => ?_
    refine keeps_call (by simp [allowed, record, hs]) (fun _ => hs) fun _ => ?_
    refine beginPass_keeps ?_ true
    exact hs
  | pass token worker =>
    obtain ⟨hs, htoken⟩ := hs
    have hafter (t : Conduct) (ht : t.active = false) :
        Keeps settings .renewal RenewalEnds (pure (afterPass worker)) t :=
      (keeps_pure _).mpr (afterPass_fits worker ht)
    rw [renewal, passRound, keeps_tryExcept]
    refine keeps_call (by simp [allowed, hs]) (fun _ => hafter _ (by exact hs)) fun another => ?_
    cases another with
    | false => exact (keeps_pure _).mpr (afterPass_fits worker hs)
    | true =>
      refine keeps_call ⟨by simp [record, hs], htoken⟩ (fun _ => hafter _ (by exact hs)) fun _ => ?_
      exact (keeps_pure _).mpr ⟨hs, htoken⟩

/-- **A callback** goes by what the file says, and makes a token of its own only where that is
nothing. -/
theorem loadOrCreateToken_keeps (hs : s.active = false) :
    Keeps settings .callback (fun r t => t.active = false ∧ ∀ token, r = .ok token →
      t.goesBy = some token) loadOrCreateToken s := by
  have hmint (t : Conduct) (ht : t.active = false) (hmisread : t.misread = true) :
      allowed settings .callback t .mint := ⟨by simp [ht], fun _ => hmisread⟩
  have hcreate (t : Conduct) (ht : t.active = false) (hmisread : t.misread = true) :
      Keeps settings .callback (fun r t => t.active = false ∧ ∀ token, r = .ok token →
        t.goesBy = some token) createToken t := by
    refine keeps_call (hmint t ht hmisread) (fun _ => ⟨ht, nofun⟩) fun token => ?_
    refine keeps_call (by simp [allowed, record, ht]) (fun _ => ⟨ht, nofun⟩) fun _ => ?_
    exact (keeps_pure _).mpr ⟨ht, fun _ h => congrArg some (Except.ok.inj h)⟩
  refine keeps_call (by simp [allowed, hs]) (fun _ => ⟨hs, nofun⟩) fun read => ?_
  cases read with
  | absent => exact hcreate _ hs rfl
  | failed =>
    refine keeps_work.mpr ⟨hmint _ hs rfl, ?_⟩
    intro r
    cases r with
    | ok token => exact ⟨hs, fun _ h => congrArg some (Except.ok.inj h)⟩
    | error e => exact ⟨hs, nofun⟩
  | text content =>
    simp only [record, ne_eq, not_true_eq_false, if_false]
    rw [keeps_ite]
    refine ⟨fun hne => ?_, fun heq => ?_⟩
    · rw [if_pos hne]
      exact (keeps_pure _).mpr ⟨hs, fun _ h => congrArg some (Except.ok.inj h)⟩
    · rw [if_neg heq]
      exact hcreate _ hs rfl

theorem postCallback_keeps (hs : s.active = false) :
    Keeps settings .callback (fun _ t => t.active = false) (postCallback settings) s := by
  have hresolve : Keeps settings .callback (fun r t => t.active = false ∧ ∀ token, r = .ok token →
      t.goesBy = some token ∨ settings.pinned = some token) (resolveToken settings) s := by
    unfold resolveToken
    cases hpinned : settings.pinned with
    | some token =>
      exact (keeps_pure _).mpr ⟨hs, fun _ h => .inr (congrArg some (Except.ok.inj h))⟩
    | none =>
      refine (loadOrCreateToken_keeps hs).mono ?_
      rintro r t ⟨hactive, htoken⟩
      exact ⟨hactive, fun token hr => .inl (htoken token hr)⟩
  have hbody : Keeps settings .callback (fun _ t => t.active = false) (do
      let token ← resolveToken settings
      let statusCode ← work (.postCallback token)
      return decide (200 ≤ statusCode ∧ statusCode < 300)) s := by
    rw [keeps_bind]
    refine hresolve.mono ?_
    intro r t ht
    cases r with
    | error e => exact ht.1
    | ok token =>
      refine keeps_call ⟨by simp [ht.1], ht.2 token rfl⟩ (fun _ => ht.1) ?_
      exact fun statusCode => (keeps_pure _).mpr ht.1
  unfold postCallback
  rw [keeps_tryExcept]
  refine hbody.mono ?_
  intro r t ht
  cases r with
  | ok sent => exact ht
  | error e =>
    dsimp only
    split
    · exact (keeps_pure _).mpr ht
    · exact (keeps_pure _).mpr ht
    · exact (keeps_raise _).mpr ht

end Others

/-! ## The blocks -/

theorem block_always {L : Type} {settings : NodeSettings} {k : Role}
    {Q : Except WorkerError (Option L) → Conduct → Prop} {At : Option L → Conduct → Prop}
    {round : Working (Option L)} {s : Conduct} (h : Keeps settings k Q round s)
    (hok : ∀ next t, Q (.ok next) t → At next t) (herror : ∀ e t, Q (.error e) t → At none t) :
    (block round).Always ((conduct settings).machine k) (fun s => s.isSome)
      (fun next s => ∃ t, s = some t ∧ At next t) (some s) := by
  refine Prog.always_bind.mpr (Prog.Always.mono h ?_)
  rintro r _ hsome ⟨t, rfl, ht⟩
  cases r with
  | ok next => exact ⟨rfl, t, rfl, hok next t ht⟩
  | error e => exact ⟨rfl, t, rfl, herror e t ht⟩

/-- **Every block, started with a record that fits its label, makes allowed calls only and ends
with a record that fits where it ends.** -/
theorem blocks_keep (settings : NodeSettings) (k : Role) (l : k.Label) (s : Conduct)
    (hs : Fits k (some l) s) :
    (blocks settings k l).Always ((conduct settings).machine k) (fun s => s.isSome)
      (fun next s => ∃ t, s = some t ∧ Fits k next t) (some s) := by
  cases k with
  | register =>
    have hfinished (t : Conduct) (ht : t.active = false) : RunFits .register none t :=
      .inl ⟨rfl, ht⟩
    exact block_always (registration_keeps rfl hfinished l hs) (fun _ _ h => h) fun _ _ h => h
  | reregister =>
    have hfinished (t : Conduct) (ht : t.active = false) : RunFits .reregister (some .idle) t :=
      ⟨rfl, ht⟩
    exact block_always (registration_keeps rfl hfinished l hs) (fun _ _ h => h) fun _ _ h => h
  | heartbeat =>
    exact block_always (heartbeat_keeps hs.1 hs.2 l) (fun _ _ h => h) fun _ _ h => h
  | monitor => exact block_always (monitorTick_keeps hs) (fun _ _ h => h) fun _ _ h => h
  | renewal => exact block_always (renewal_keeps l hs) (fun _ _ h => h) fun _ _ h => h
  | callback =>
    refine block_always (Q := fun _ t => t.active = false) ?_ (fun _ _ h => h) fun _ _ h => h
    rw [keeps_bind]
    refine (postCallback_keeps hs).mono ?_
    intro r t ht
    cases r with
    | ok posted => exact (keeps_pure _).mpr ht
    | error e => exact ht

/-- What starts while the node runs makes allowed calls only. -/
theorem starts_keep (settings : NodeSettings) {t : Worker Role.Reply Role.Label} (h : Starts t) :
    t.rest.Always ((conduct settings).machine t.kind) (fun s => s.isSome)
      (fun next s => ∃ u, s = some u ∧ Fits t.kind next u) (some {}) := by
  cases h with
  | callback => exact ⟨rfl, {}, rfl, rfl⟩
  | renewal => exact block_always (beginPass_keeps rfl false) (fun _ _ h => h) fun _ _ h => h

end Greffer.Registration

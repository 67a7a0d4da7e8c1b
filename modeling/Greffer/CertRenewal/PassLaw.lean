import Greffer.CertRenewal.Footprints
import Greffer.CertRenewal.Served
import Greffer.Effects.Traces

/-! # A pass contains its failures

A fleet pass renews the running instances in turn.  `Sweep` follows it through its log, the
calls it makes with their answers, and `Turns` takes the log apart: **a pass is a sequence of
turns**, each of them the whole log of a `renewOne` that ended with an outcome or an
exception, from the memory the turn before left.  Before the turns and after them the pass
only asks for the ledger, the stop flag and the status map.

What holds of the turns (`Ordered`): they are a prefix of the running instances in the map's
order, none but the last concerns the whole node, and where they end early there is a reason
for it.  What the pass counts is what the turns came to, and the backoff of an instance
changes in its own turn only (`Stable`), or when it is forgotten because it left the node.
-/
namespace Greffer.CertRenewal
open Effects

/-! ## A pass from outside -/

/-- A pass, told from its calls. -/
structure Sweep where
  /-- The status map, once it was listed. -/
  listed : List (String × String) := []
  /-- What the stop flag last said. -/
  stopped : Bool := false
  /-- No compose is at work on the instance whose lock was taken last: the next probe is
  the first of its renewal. -/
  checked : Bool := false
  /-- So many renewals in a row began with a probe that read no certificate. -/
  blind : Nat := 0

/-- The pass after a call. -/
def Sweep.after (w : Sweep) : (c : RenewalCall) → Raises Answer RenewalError c → Sweep
  | .collectStatusMap, .ok statuses => { w with listed := statuses }
  | .stopRequested, .ok stopped => { w with stopped := stopped }
  | .acquireUnlessHandoff _, _ => { w with checked := false }
  | .composeInflight _, .ok false => { w with checked := true }
  | .handshake _ _, r =>
    if w.checked then
      { w with
        checked := false
        blind := if (Renewal.shown r).isNone then w.blind + 1 else 0 }
    else w
  | _, _ => w

/-- What was asked and answered, in order. -/
abbrev Log : Type := List (Heard (Raises Answer RenewalError))

/-- A pass, as its log tells it. -/
def Sweep.of (log : Log) : Sweep := log.foldl (fun w e => w.after e.1 e.2) {}

@[simp] theorem Sweep.of_snoc (log : Log) (c : RenewalCall) (r : Raises Answer RenewalError c) :
    Sweep.of (log ++ [⟨c, r⟩]) = (Sweep.of log).after c r := by
  simp [Sweep.of]

/-- The clock and the stop flag can be read. -/
def Readable : (c : RenewalCall) → Raises Answer RenewalError c → Prop
  | .monotonic, r | .stopRequested, r => ∃ a, r = .ok a
  | _, _ => True

/-- A pass, in an environment that may answer anything else. -/
def sweeping : Machine (Raises Answer RenewalError) Sweep where
  serve w c r w' := Readable c r ∧ w' = w.after c r

/-- The same, with the log for its world. -/
def logging : Machine (Raises Answer RenewalError) Log := .record Readable

/-- The calls that a pass makes outside of its turns. -/
def Own : RenewalCall → Prop
  | .readLedger | .writeLedgerTmp _ | .replaceLedger | .collectStatusMap | .stopRequested => True
  | _ => False

/-- The instances that are to be renewed, in the map's order. -/
def running (statuses : List (String × String)) : List String :=
  (statuses.filter fun s => s.2 == "running").map Prod.fst

/-- One turn of the loop: what `renewOne` came to, and the blind renewals in a row after it. -/
structure Turn where
  greffonId : String
  outcome : Except RenewalError Outcome
  blind : Nat

/-- A refusal that concerns the whole node. -/
def RenewalError.nodeWide : RenewalError → Bool
  | .renewalUnavailable | .nodeAuthLost | .nodeRateLimited => true
  | _ => false

/-- What came of the turn concerns the whole node. -/
def refusedNode : Except RenewalError Outcome → Bool
  | .ok _ => false
  | .error e => e.nodeWide

namespace Turn
variable (t : Turn)

/-- The turn is a reason to stop. -/
def stops : Bool := refusedNode t.outcome || decide (blindStreakAbort ≤ t.blind)

/-- The turn returned an outcome of this status. -/
def ended (status : Status) (t : Turn) : Bool :=
  match t.outcome with
  | .ok o => decide (o.status = status)
  | .error _ => false

/-- The instance was skipped: by its renewal, or because the manager renews none. -/
def skipped : Bool := ended .skipped t ||
  match t.outcome with
  | .error e => decide (e = .renewalUnavailable)
  | .ok _ => false

/-- The renewal failed, by its outcome or with an exception of its own. -/
def failed : Bool := ended .failed t ||
  match t.outcome with
  | .error e => !e.nodeWide
  | .ok _ => false

end Turn

/-- What the loop does after a turn: a failure that concerns the one instance is noted. -/
def handled (settings : Settings) (greffonId : String) :
    Except RenewalError Outcome → Steps Unit
  | .ok _ => return ()
  | .error e => if e.nodeWide then return () else noteFailure settings greffonId

/-- **The turns of a pass**, one after another, and the log that they leave: each is asked for
with the stop flag down, and then comes the whole log of a `renewOne`. -/
inductive Turns (settings : Settings) (force : Bool) :
    Memory × Log → List Turn → Memory × Log → Prop
  | none (s : Memory × Log) : Turns settings force s [] s
  /-- The stop flag is up. -/
  | halt (m : Memory) (log : Log) :
      Turns settings force (m, log) [] (m, log ++ [⟨.stopRequested, .ok true⟩])
  | turn {m m₂ m₃ : Memory} {log log' heard noted : Log} {greffonId : String}
      {outcome : Except RenewalError Outcome} {ts : List Turn} {s : Memory × Log}
      (run : Prog.Hears (renewOne settings greffonId force m) heard (outcome, m₂))
      (after : Prog.Hears (handled settings greffonId outcome m₂) noted (.ok (), m₃))
      (hlog : log' = log ++ [⟨.stopRequested, .ok false⟩] ++ heard ++ noted)
      (rest : Turns settings force (m₃, log') ts s) :
      Turns settings force (m, log) (⟨greffonId, outcome, (Sweep.of log').blind⟩ :: ts) s

/-- **The turns of these instances**: in their order, up to the first that concerns the
whole node, or to the one before the stop flag was up. -/
structure Ordered (ids : List String) (ts : List Turn) (stopped : Bool) : Prop where
  order : ts.map Turn.greffonId <+: ids
  first : ∀ t ∈ ts.dropLast, t.stops = false
  reason : ts.map Turn.greffonId = ids ∨ (∃ t, ts.getLast? = some t ∧ t.stops = true) ∨
    stopped = true

/-- **A pass contains its failures**: from the memory `m` to the memory `m'`, with the
result `r`. -/
structure Contained (m m' : Memory) (w : Sweep) (r : Except RenewalError PassResult)
    (ts : List Turn) : Prop where
  ordered : Ordered (running w.listed) ts w.stopped
  /-- What a pass that returns has counted. -/
  counted : ∀ res, r = .ok res → res.considered = ts.length ∧
    res.renewed = ts.countP (Turn.ended .renewed) ∧ res.skipped = ts.countP Turn.skipped ∧
    res.errors = ts.countP Turn.failed ∧
    res.considered = res.renewed + ts.countP (Turn.ended .notDue) + res.skipped + res.errors
  /-- A backoff entry is made or changed in the instance's own turn. -/
  backedOff : ∀ i entry, m'.renewalBackoff.lookup i = some entry →
    m.renewalBackoff.lookup i = some entry ∨ i ∈ ts.map Turn.greffonId
  /-- It is removed there, or because the node does not run the instance any more. -/
  forgotten : ∀ i, m'.renewalBackoff.lookup i = none → m.renewalBackoff.lookup i = none ∨
    i ∈ ts.map Turn.greffonId ∨ i ∉ w.listed.map Prod.fst

/-! ## What a renewal leaves in memory -/

/-- What is said of the memory does not depend on the ledger, nor on the backoff of the one
instance. -/
structure Stable (greffonId : String) (P : Memory → Prop) : Prop where
  ledger : ∀ m l, P m → P { m with unconfirmed := l }
  note : ∀ m entry, P m → P { m with renewalBackoff := upsert m.renewalBackoff greffonId entry }
  clear : ∀ m, P m →
    P { m with renewalBackoff := m.renewalBackoff.filter fun e => e.1 != greffonId }

section Memory
variable {settings : Settings} {greffonId : String} {P : Memory → Prop}

theorem saveUnconfirmed_keeps : saveUnconfirmed.Keeps P :=
  Routine.keeps_locals.bind fun _ => Routine.keeps_lift

theorem owes_keeps : (owes greffonId).Keeps P :=
  Routine.keeps_locals.bind fun _ => Routine.keeps_pure _

theorem fileDebt_keeps (h : Stable greffonId P) (serial : Option String) :
    (fileDebt greffonId serial).Keeps P :=
  (Routine.keeps_assign fun m => h.ledger m _).bind fun _ => saveUnconfirmed_keeps

theorem clearDebt_keeps (h : Stable greffonId P) : (clearDebt greffonId).Keeps P := by
  refine owes_keeps.bind fun owing => ?_
  split
  · exact (Routine.keeps_assign fun m => h.ledger m _).bind fun _ => saveUnconfirmed_keeps
  · exact Routine.keeps_pure _

theorem dropSpeculative_keeps (h : Stable greffonId P) (owedBefore : Bool) :
    (dropSpeculative greffonId owedBefore).Keeps P := by
  unfold dropSpeculative
  split
  · exact Routine.keeps_pure _
  · exact clearDebt_keeps h

theorem noteFailure_keeps (h : Stable greffonId P) : (noteFailure settings greffonId).Keeps P :=
  Routine.keeps_locals.bind fun _ => Routine.keeps_lift.bind fun _ =>
    Routine.keeps_assign fun m => h.note m _

theorem clearBackoff_keeps (h : Stable greffonId P) : (clearBackoff greffonId).Keeps P :=
  Routine.keeps_assign fun m => h.clear m

theorem inBackoff_keeps : (inBackoff greffonId).Keeps P := by
  refine Routine.keeps_locals.bind fun m => ?_
  split
  · exact Routine.keeps_pure _
  · exact Routine.keeps_lift.bind fun _ => Routine.keeps_pure _

theorem report_keeps (h : Stable greffonId P) (served : Option String) :
    (report greffonId served).Keeps P := by
  refine (fileDebt_keeps h served).bind fun _ => ?_
  have hattempt (left : Nat) : (reportAttempt greffonId served left).Keeps P := by
    induction left with
    | zero => exact Routine.keeps_pure _
    | succ left ih =>
      refine Routine.keeps_lift.bind fun res => ?_
      split
      · exact clearDebt_keeps h
      · exact Routine.keeps_pure _
      · split
        · exact Routine.keeps_pure _
        · exact Routine.keeps_lift.bind fun _ => ih
  exact hattempt reportAttempts

theorem raise_keeps {α : Type} (e : RenewalError) : (Routine.raise e : Steps α).Keeps P :=
  fun _ h => h

theorem mint_keeps (h : Stable greffonId P) : (mint settings greffonId).Keeps P := by
  have hfailed : (do
      noteFailure settings greffonId
      return .none : Steps PyValue).Keeps P :=
    (noteFailure_keeps h).bind fun _ => Routine.keeps_pure _
  refine Routine.keeps_lift.bind fun res => ?_
  unfold mintReply
  split
  · split
    · exact Routine.keeps_pure _
    · exact raise_keeps _
  · split
    · split
      · exact raise_keeps _
      · exact hfailed
    · split
      · exact raise_keeps _
      · split
        · exact hfailed
        · split
          · exact raise_keeps _
          · exact Routine.keeps_pure _

theorem mintOwed_keeps (h : Stable greffonId P) (owedBefore : Bool) :
    (mintOwed settings greffonId owedBefore).Keeps P := by
  refine Routine.Keeps.tryExcept (mint_keeps h) fun e => ?_
  split
  · exact (dropSpeculative_keeps h owedBefore).bind fun _ => raise_keeps _
  · exact raise_keeps _

theorem verify_keeps (h : Stable greffonId P) (port : Int) (wanted : PyValue) :
    (verify settings greffonId port wanted).Keeps P := by
  refine Routine.keeps_lift.bind fun reloaded => Routine.keeps_lift.bind fun served =>
    (report_keeps h served).bind fun _ => Routine.keeps_lift.bind fun same => ?_
  split
  · exact (clearBackoff_keeps h).bind fun _ => Routine.keeps_pure _
  · exact (noteFailure_keeps h).bind fun _ => Routine.keeps_pure _

theorem renewDue_keeps (h : Stable greffonId P) (port : Int) (beforeSerial : Option String) :
    (renewDue settings greffonId port beforeSerial).Keeps P := by
  refine owes_keeps.bind fun owedBefore => ?_
  have hfile : (renewDue.fileSpeculative greffonId owedBefore beforeSerial).Keeps P := by
    unfold renewDue.fileSpeculative
    split
    · exact Routine.keeps_pure _
    · exact fileDebt_keeps h beforeSerial
  refine hfile.bind fun _ => (mintOwed_keeps h owedBefore).bind fun cert => ?_
  split
  · exact (dropSpeculative_keeps h owedBefore).bind fun _ => Routine.keeps_pure _
  refine Routine.keeps_lift.bind fun wanted => ?_
  refine Routine.Keeps.bind (Routine.Keeps.tryExcept ?_ fun _ => Routine.keeps_pure _) fun ok => ?_
  · exact Routine.keeps_lift.bind fun _ => Routine.keeps_pure _
  split
  · exact verify_keeps h port wanted
  · exact (report_keeps h beforeSerial).bind fun _ =>
      (noteFailure_keeps h).bind fun _ => Routine.keeps_pure _

/-- The decision, and what follows it. -/
def renewDecided (settings : Settings) (greffonId : String) (port : Int) (force : Bool)
    (before : Option String × Option Rat) : Steps Outcome := do
  if ← wantsRenewal settings force before.2 then
    renewDue settings greffonId port before.1
  else
    clearBackoff greffonId
    return ⟨.notDue, before.1, none⟩

theorem renewDecided_keeps (h : Stable greffonId P) (port : Int) (force : Bool)
    (before : Option String × Option Rat) :
    (renewDecided settings greffonId port force before).Keeps P := by
  refine Routine.keeps_lift.bind fun due => ?_
  split
  · exact renewDue_keeps h port before.1
  · exact (clearBackoff_keeps h).bind fun _ => Routine.keeps_pure _

theorem renewLocked_keeps (h : Stable greffonId P)
    (hstreak : ∀ m n, P m → P { m with blindStreak := n }) (force : Bool) :
    (renewLocked settings greffonId force).Keeps P := by
  refine inBackoff_keeps.bind fun backoff => ?_
  split
  · exact Routine.keeps_pure _
  refine Routine.keeps_lift.bind fun port => ?_
  split
  · exact Routine.keeps_pure _
  rename_i port
  refine Routine.keeps_lift.bind fun inflight => ?_
  split
  · exact Routine.keeps_pure _
  refine Routine.keeps_lift.bind fun settlingNow => ?_
  split
  · exact Routine.keeps_pure _
  exact Routine.keeps_lift.bind fun before =>
    (Routine.keeps_assign fun m => hstreak m _).bind fun _ =>
      renewDecided_keeps h port force before

theorem probeDebt_keeps : (probeDebt settings greffonId).Keeps P := by
  refine Routine.keeps_lift.bind fun inflight => ?_
  split
  · exact Routine.keeps_pure _
  refine Routine.keeps_lift.bind fun settlingNow => ?_
  split
  · exact Routine.keeps_pure _
  refine Routine.keeps_lift.bind fun refusal => ?_
  split
  · exact Routine.keeps_pure _
  · exact Routine.Keeps.tryFinally Routine.keeps_lift Routine.keeps_lift

theorem settleDebt_keeps (h : Stable greffonId P) : (settleDebt settings greffonId).Keeps P := by
  refine owes_keeps.bind fun owing => ?_
  split
  · refine probeDebt_keeps.bind fun probed => ?_
    split
    · exact report_keeps h _
    · exact Routine.keeps_pure _
  · exact Routine.keeps_pure _

/-- **A turn leaves alone what is said of the other instances.** -/
theorem renewOne_keeps (h : Stable greffonId P)
    (hstreak : ∀ m n, P m → P { m with blindStreak := n }) (force : Bool) :
    (renewOne settings greffonId force).Keeps P := by
  refine (settleDebt_keeps h).bind fun _ => Routine.keeps_lift.bind fun refusal => ?_
  split
  · exact Routine.keeps_pure _
  · exact Routine.Keeps.tryFinally (renewLocked_keeps h hstreak force) Routine.keeps_lift

theorem handled_keeps (h : Stable greffonId P) (outcome : Except RenewalError Outcome) :
    (handled settings greffonId outcome).Keeps P := by
  cases outcome with
  | ok o => exact Routine.keeps_pure _
  | error e =>
    show (if e.nodeWide then return () else noteFailure settings greffonId : Steps Unit).Keeps P
    split
    · exact Routine.keeps_pure _
    · exact noteFailure_keeps h

/-- The streak of blind renewals does not depend on either. -/
theorem stable_streak (greffonId : String) (n : Nat) :
    Stable greffonId fun m => m.blindStreak = n :=
  ⟨fun _ _ h => h, fun _ _ h => h, fun _ h => h⟩

/-- Nor does the backoff of another instance. -/
theorem stable_backoff {greffonId i : String} (hne : i ≠ greffonId) (entry : Option (Nat × Rat)) :
    Stable greffonId fun m => m.renewalBackoff.lookup i = entry where
  ledger _ _ h := h
  note m noted h := (lookup_upsert_ne m.renewalBackoff noted hne).trans h
  clear m h := by
    refine (lookup_filter_keys m.renewalBackoff (fun k => k != greffonId) i).trans ?_
    rw [if_pos (bne_iff_ne.mpr hne)]
    exact h

end Memory

/-! ## The streak -/

/-- A call that the record of a pass does not heed. -/
def Still (c : RenewalCall) : Prop :=
  ∀ (w : Sweep) (r : Raises Answer RenewalError c), w.after c r = w

/-- The same for a pass that is not at the first probe of a renewal. -/
def Idle : RenewalCall → Prop
  | .releaseLock _ => True
  | c => Resolves c

/-- What a turn leaves of the record. -/
def Sweep.Kept (w w' : Sweep) : Prop := w'.listed = w.listed ∧ w'.stopped = w.stopped

section Streak
variable {settings : Settings} {greffonId : String} {m : Memory} {w w' : Sweep} {α : Type}

theorem Sweep.Kept.refl (w : Sweep) : w.Kept w := ⟨rfl, rfl⟩

theorem idle_after {c : RenewalCall} (hc : Idle c) (hchecked : w.checked = false)
    (r : Raises Answer RenewalError c) : w.after c r = w := by
  cases c with
  | handshake host port => exact if_neg (by rw [hchecked]; decide)
  | collectStatusMap => cases hc
  | stopRequested => cases hc
  | acquireUnlessHandoff i => cases hc
  | composeInflight i => cases hc
  | _ => rfl

theorem idle_of_resolves {m : Steps α} (h : m.Uses Resolves) : m.Uses Idle := by
  refine fun l => Prog.Uses.mono (h l) fun c hc => ?_
  cases c <;> first | exact hc | trivial

/-- Between its probes a pass leaves its record alone. -/
theorem idle_always {m : Steps α} {l : Memory} (h : m.Uses Idle) (hchecked : w.checked = false) :
    m.Always sweeping w.Kept (fun _ _ w' => w' = w) l w := by
  refine (h.always (M := sweeping) (I := fun w' => w' = w) ?_ rfl).imp ?_ fun _ _ _ _ hw => hw
  · intro w₁ c r w₂ hc h₁ hs
    rw [hs.2, h₁]
    exact idle_after hc hchecked r
  · intro w₁ h₁
    rw [h₁]
    exact .refl w

theorem still_always {q : Query α} (h : q.Uses Still) :
    q.Always sweeping w.Kept (fun _ w' => w' = w) w := by
  refine (h.always (M := sweeping) (I := fun w' => w' = w) ?_ rfl).imp ?_ fun _ _ _ hw => hw
  · intro w₁ c r w₂ hc h₁ hs
    rw [hs.2, h₁]
    exact hc w r
  · intro w₁ h₁
    rw [h₁]
    exact .refl w

theorem sidecarSettling_still : (sidecarSettling greffonId).Uses Still := by
  refine Action.Uses.bind (Action.Uses.tryExcept (Action.uses_perform fun _ _ => rfl) fun _ =>
    trivial) fun started => ?_
  cases started with
  | none => trivial
  | some _ => exact (Action.uses_perform fun _ _ => rfl).bind fun _ => trivial

theorem releaseLock_always : (monadLift (call (.releaseLock greffonId)) : Steps Unit).Always
    sweeping w.Kept (fun _ m' w' => m' = m ∧ w' = w) m w := by
  rw [Routine.always_monadLift]
  refine ⟨.refl w, fun r w₁ hserve => ?_⟩
  obtain rfl : w₁ = w := hserve.2
  exact ⟨.refl w₁, rfl, rfl⟩

/-- The first probe of a renewal, and the streak it makes. -/
theorem firstProbe_always {host : String} {port : Int} (hchecked : w.checked = true) :
    (servedCertificate host port).Always sweeping w.Kept (fun r w' => ∃ a, r = .ok a ∧
      w'.listed = w.listed ∧ w'.stopped = w.stopped ∧ w'.checked = false ∧
      w'.blind = if a.1.isNone then w.blind + 1 else 0) w := by
  unfold servedCertificate
  rw [Action.always_tryExcept, Action.always_bind]
  refine ⟨.refl w, fun r w₁ hserve => ?_⟩
  have hw₁ : w₁ = { w with
      checked := false
      blind := if (Renewal.shown r).isNone then w.blind + 1 else 0 } :=
    hserve.2.trans (if_pos hchecked)
  have hkept : w.Kept w₁ := by
    rw [hw₁]
    exact ⟨rfl, rfl⟩
  refine ⟨hkept, ?_⟩
  rw [hw₁]
  cases r with
  | error e => exact ⟨⟨rfl, rfl⟩, _, rfl, rfl, rfl, rfl, rfl⟩
  | ok peer =>
    cases peer with
    | none => exact ⟨⟨rfl, rfl⟩, _, rfl, rfl, rfl, rfl, rfl⟩
    | some peer => exact ⟨⟨rfl, rfl⟩, _, rfl, rfl, rfl, rfl, rfl⟩

/-- The streak in memory is the one of the record. -/
abbrev Watched (w : Sweep) {ε : Type} (_ : Except RenewalError ε) (m' : Memory) (w' : Sweep) :
    Prop := m'.blindStreak = w'.blind ∧ w.Kept w'

theorem renewProbed_watched {port : Int} {force : Bool} (hchecked : w.checked = true)
    (hm : m.blindStreak = w.blind) :
    (renewProbed settings greffonId port force).Always sweeping w.Kept (Watched w) m w := by
  unfold renewProbed
  rw [Routine.always_bind, Routine.always_monadLift]
  refine (firstProbe_always hchecked).mono fun r w₁ hinv hr => ?_
  obtain ⟨before, rfl, hlisted, hstopped, hchecked₁, hblind⟩ := hr
  rw [Routine.onOk_ok, Routine.always_bind, Routine.always_assign]
  refine ⟨hinv, ?_⟩
  rw [Routine.onOk_ok]
  have hidle : (renewDecided settings greffonId port force before).Uses Idle := by
    refine idle_of_resolves ((probe_uses (wantsRenewal_uses settings force _)).bind fun due => ?_)
    split
    · exact renewDue_uses settings greffonId port _
    · exact (clearBackoff_uses greffonId).bind fun _ => Routine.uses_pure _
  have hkeeps : (renewDecided settings greffonId port force before).Keeps fun m₂ =>
      m₂.blindStreak = w₁.blind :=
    renewDecided_keeps (stable_streak greffonId w₁.blind) port force before
  have hstreak := hkeeps
    { m with blindStreak := if before.1.isNone then m.blindStreak + 1 else 0 } (by rw [hblind, hm])
  refine ((idle_always hidle hchecked₁).returning hstreak).imp ?_ ?_
  · intro w₂ h₂
    exact ⟨h₂.1.trans hlisted, h₂.2.trans hstopped⟩
  · intro r m₂ w₂ _ hr
    obtain ⟨hblind₂, rfl⟩ := hr
    exact ⟨hblind₂, hinv⟩

theorem renewAt_watched {port : Int} {force : Bool} (hm : m.blindStreak = w.blind) :
    (renewAt settings greffonId port force).Always sweeping w.Kept (Watched w) m w := by
  unfold renewAt
  rw [Routine.always_bind, Routine.always_monadLift]
  refine ⟨.refl w, fun r w₁ hserve => ?_⟩
  obtain ⟨-, rfl⟩ := hserve
  cases r with
  | error e => exact ⟨.refl w, hm, .refl w⟩
  | ok inflight =>
    cases inflight with
    | true => exact ⟨.refl w, .refl w, hm, .refl w⟩
    | false =>
      have hkept : w.Kept { w with checked := true } := ⟨rfl, rfl⟩
      refine ⟨hkept, ?_⟩
      dsimp only [Routine.onOk]
      rw [if_neg (by decide), Routine.always_bind, Routine.always_monadLift]
      refine (still_always sidecarSettling_still).imp (fun w₂ h₂ => h₂) fun r w₂ hinv hr => ?_
      rw [hr]
      cases r with
      | error e => exact ⟨hm, hkept⟩
      | ok settlingNow =>
        rw [Routine.onOk_ok, Routine.always_ite]
        constructor
        · intro _
          exact ⟨hkept, hm, hkept⟩
        · intro _
          exact renewProbed_watched (w := { w with checked := true }) rfl hm

theorem renewLocked_watched {force : Bool} (hchecked : w.checked = false)
    (hm : m.blindStreak = w.blind) :
    (renewLocked settings greffonId force).Always sweeping w.Kept (Watched w) m w := by
  unfold renewLocked
  rw [Routine.always_bind]
  refine ((idle_always (idle_of_resolves (inBackoff_uses greffonId)) hchecked).returning
    (inBackoff_keeps (P := fun m' => m' = m) m rfl)).mono fun r m₁ w₁ hinv hr => ?_
  obtain ⟨rfl, rfl⟩ := hr
  cases r with
  | error e => exact ⟨hm, hinv⟩
  | ok backoff =>
    rw [Routine.onOk_ok, Routine.always_ite]
    constructor
    · intro _
      exact ⟨hinv, hm, hinv⟩
    · intro _
      rw [Routine.always_bind]
      refine ((idle_always (idle_of_resolves (probe_uses (sidecarHostPort_uses greffonId)))
        hchecked).returning (Routine.keeps_lift (P := fun m' => m' = m₁) m₁ rfl)).mono ?_
      intro r m₂ w₂ hinv₂ hr
      obtain ⟨rfl, rfl⟩ := hr
      cases r with
      | error e => exact ⟨hm, hinv⟩
      | ok published =>
        rw [Routine.onOk_ok]
        cases published with
        | none => exact ⟨hinv, hm, hinv⟩
        | some port => exact renewAt_watched hm

theorem acquire_watched :
    (call (.acquireUnlessHandoff greffonId)).Always sweeping w.Kept
      (fun _ w' => w' = { w with checked := false }) w := by
  refine ⟨.refl w, fun r w₁ hserve => ?_⟩
  obtain ⟨-, rfl⟩ := hserve
  exact ⟨⟨rfl, rfl⟩, rfl⟩

theorem probeDebt_watched :
    (probeDebt settings greffonId).Always sweeping w.Kept (fun r m' w' => m' = m ∧
      w'.blind = w.blind ∧ w.Kept w' ∧ (∀ served, r = .ok (some served) → w'.checked = false))
      m w := by
  unfold probeDebt
  rw [Routine.always_bind, Routine.always_monadLift]
  refine ⟨.refl w, fun r w₁ hserve => ?_⟩
  -- Whether a compose is in flight is asked first, and only the answer is remembered.
  have hblind : w₁.blind = w.blind := by
    rw [hserve.2]
    cases r with
    | error e => rfl
    | ok inflight => cases inflight <;> rfl
  have hkept : w.Kept w₁ := by
    rw [hserve.2]
    cases r with
    | error e => exact .refl w
    | ok inflight => cases inflight <;> exact ⟨rfl, rfl⟩
  have hstop {r : Except RenewalError (Option (Option String))} (hr : ∀ s, r ≠ .ok (some s)) :
      m = m ∧ w₁.blind = w.blind ∧ w.Kept w₁ ∧
        (∀ served, r = .ok (some served) → w₁.checked = false) :=
    ⟨rfl, hblind, hkept, fun s hs => absurd hs (hr s)⟩
  refine ⟨hkept, ?_⟩
  cases r with
  | error e => exact hstop (by simp)
  | ok inflight =>
    dsimp only [Routine.onOk]
    rw [Routine.always_ite]
    constructor
    · intro _
      exact ⟨hkept, hstop (by simp)⟩
    · intro _
      rw [Routine.always_bind, Routine.always_monadLift]
      -- a sidecar that is settling is left for the next pass
      refine (still_always sidecarSettling_still).imp (fun w₂ h₂ => ?_) fun r w₂ hinv hr => ?_
      · exact ⟨h₂.1.trans hkept.1, h₂.2.trans hkept.2⟩
      subst hr
      cases r with
      | error e => exact hstop (by simp)
      | ok settlingNow =>
        rw [Routine.onOk_ok, Routine.always_ite]
        constructor
        · intro _
          exact ⟨hkept, hstop (by simp)⟩
        · intro _
          rw [Routine.always_bind, Routine.always_monadLift]
          refine acquire_watched.imp (fun w₃ h₃ => ?_) fun r w₃ hinv₃ hr => ?_
          · exact ⟨h₃.1.trans hkept.1, h₃.2.trans hkept.2⟩
          subst hr
          have hkept₃ : w.Kept { w₂ with checked := false } := hkept
          cases r with
          | error e => exact ⟨rfl, hblind, hkept₃, by simp⟩
          | ok refusal =>
            rw [Routine.onOk_ok]
            cases refusal with
            | some _ => exact ⟨hkept₃, rfl, hblind, hkept₃, by simp⟩
            | none =>
              dsimp only
              -- under the lock the probe only looks, and the lock is given back
              have hidle : (Routine.tryFinally (Routine.lift (probeLocked settings greffonId))
                  (monadLift (call (.releaseLock greffonId))) :
                  Steps (Option (Option String))).Uses Idle := by
                refine Routine.Uses.tryFinally (idle_of_resolves (probe_uses ?_)) ?_
                · exact probeLocked_uses greffonId settings
                · exact Routine.uses_monadLift (Action.uses_perform trivial)
              refine ((idle_always hidle rfl).returning (Routine.Keeps.tryFinally
                (P := fun m' => m' = m) Routine.keeps_lift Routine.keeps_lift m rfl)).imp
                (fun w₄ h₄ => ?_) fun r m₄ w₄ _ hr => ?_
              · exact ⟨h₄.1.trans hkept₃.1, h₄.2.trans hkept₃.2⟩
              · obtain ⟨hm₄, rfl⟩ := hr
                exact ⟨hm₄, hblind, hkept₃, fun _ _ => rfl⟩

theorem settleDebt_watched (hm : m.blindStreak = w.blind) :
    (settleDebt settings greffonId).Always sweeping w.Kept (Watched w) m w := by
  unfold settleDebt owes
  rw [Routine.always_bind, Routine.always_bind, Routine.always_locals]
  refine ⟨.refl w, .refl w, ?_⟩
  dsimp only [Routine.onOk]
  rw [Routine.always_ite]
  constructor
  · intro _
    rw [Routine.always_bind]
    refine probeDebt_watched.mono fun r m₁ w₁ hinv hr => ?_
    obtain ⟨rfl, hblind, hkept, hchecked⟩ := hr
    cases r with
    | error e => exact ⟨hm.trans hblind.symm, hkept⟩
    | ok probed =>
      rw [Routine.onOk_ok]
      cases probed with
      | none => exact ⟨hinv, hm.trans hblind.symm, hkept⟩
      | some served =>
        refine ((idle_always (idle_of_resolves (report_uses greffonId served))
          (hchecked served rfl)).returning (report_keeps (stable_streak greffonId m₁.blindStreak)
            served m₁ rfl)).imp (fun w₂ h₂ => ?_) fun r m₂ w₂ _ hr => ?_
        · exact ⟨h₂.1.trans hkept.1, h₂.2.trans hkept.2⟩
        · obtain ⟨hstreak, rfl⟩ := hr
          exact ⟨hstreak.trans (hm.trans hblind.symm), hkept⟩
  · intro _
    exact ⟨.refl w, hm, .refl w⟩

/-- **A turn counts the blind renewals.** -/
theorem renewOne_watched {force : Bool} (hm : m.blindStreak = w.blind) :
    (renewOne settings greffonId force).Always sweeping w.Kept (Watched w) m w := by
  unfold renewOne
  rw [Routine.always_bind]
  refine (settleDebt_watched hm).mono fun r m₁ w₁ hinv hr => ?_
  obtain ⟨hm₁, hkept₁⟩ := hr
  cases r with
  | error e => exact ⟨hm₁, hkept₁⟩
  | ok u =>
    rw [Routine.onOk_ok, Routine.always_bind, Routine.always_monadLift]
    refine acquire_watched.imp (fun w₂ h₂ => ?_) fun r w₂ hinv₂ hr => ?_
    · exact ⟨h₂.1.trans hkept₁.1, h₂.2.trans hkept₁.2⟩
    subst hr
    have hkept₂ : w.Kept { w₁ with checked := false } := hkept₁
    cases r with
    | error e => exact ⟨hm₁, hkept₂⟩
    | ok refusal =>
      rw [Routine.onOk_ok]
      cases refusal with
      | some refusal => exact ⟨hkept₂, hm₁, hkept₂⟩
      | none =>
        dsimp only
        rw [Routine.always_tryFinally]
        refine (renewLocked_watched (w := { w₁ with checked := false }) rfl hm₁).imp
          (fun w₃ h₃ => ?_) fun r m₃ w₃ hinv₃ hr => ?_
        · exact ⟨h₃.1.trans hkept₁.1, h₃.2.trans hkept₁.2⟩
        obtain ⟨hm₃, hkept₃⟩ := hr
        have hkept : w.Kept w₃ := ⟨hkept₃.1.trans hkept₁.1, hkept₃.2.trans hkept₁.2⟩
        refine releaseLock_always.imp (fun w₄ h₄ => ?_) fun r m₄ w₄ _ hr => ?_
        · exact ⟨h₄.1.trans hkept.1, h₄.2.trans hkept.2⟩
        obtain ⟨rfl, rfl⟩ := hr
        cases r with
        | error e => exact ⟨hm₃, hkept⟩
        | ok u => exact ⟨hm₃, hkept⟩

end Streak

/-! ## The loop -/

/-- What a turn adds to what the loop counts. -/
def Tally.turned (t : Tally) (greffonId : String) : Except RenewalError Outcome → Tally
  | .ok o => t.count none greffonId o
  | .error .renewalUnavailable => { t with skipped := t.skipped + 1 }
  | .error .nodeAuthLost => { t with unauthorized := true }
  | .error .nodeRateLimited => { t with capped := true }
  | .error _ => { t with errors := t.errors + 1 }

/-- The token was rejected, or the node is over its rate. -/
def Turn.rejected (t : Turn) : Bool :=
  match t.outcome with
  | .error e => decide (e = .nodeAuthLost ∨ e = .nodeRateLimited)
  | .ok _ => false

/-- What turns add to what the loop counts. -/
structure Tally.Adds (t t' : Tally) (ts : List Turn) : Prop where
  considered : t'.considered = t.considered + ts.length
  renewed : t'.renewed = t.renewed + ts.countP (Turn.ended .renewed)
  skipped : t'.skipped = t.skipped + ts.countP Turn.skipped
  errors : t'.errors = t.errors + ts.countP Turn.failed
  rejected : (t'.unauthorized || t'.capped) = (t.unauthorized || t.capped || ts.any Turn.rejected)

section Count
variable {t t' t'' : Tally} {turn : Turn} {ts : List Turn}

theorem Tally.Adds.none (t : Tally) : t.Adds t [] := ⟨rfl, rfl, rfl, rfl, by simp⟩

theorem Tally.Adds.cons (h : t.Adds t' [turn]) (h' : t'.Adds t'' ts) :
    t.Adds t'' (turn :: ts) where
  considered := by
    rw [h'.considered, h.considered]
    simp only [List.length_cons, List.length_nil]
    omega
  renewed := by
    rw [h'.renewed, h.renewed, List.countP_singleton, List.countP_cons]
    omega
  skipped := by
    rw [h'.skipped, h.skipped, List.countP_singleton, List.countP_cons]
    omega
  errors := by
    rw [h'.errors, h.errors, List.countP_singleton, List.countP_cons]
    omega
  rejected := by
    rw [h'.rejected, h.rejected]
    simp [Bool.or_assoc]

theorem turned_adds (t : Tally) (greffonId : String) (outcome : Except RenewalError Outcome)
    (blind : Nat) :
    t.Adds (({ t with considered := t.considered + 1 } : Tally).turned greffonId outcome)
      [⟨greffonId, outcome, blind⟩] := by
  cases outcome with
  | ok o =>
    obtain ⟨status, serial, reason⟩ := o
    cases status <;> constructor <;>
      simp [Tally.turned, Tally.count, Tally.select, Turn.ended, Turn.skipped, Turn.failed,
        Turn.rejected]
  | error e =>
    cases e <;> constructor <;>
      simp [Tally.turned, Turn.ended, Turn.skipped, Turn.failed, Turn.rejected,
        RenewalError.nodeWide]

/-- **Every turn is counted once**, unless it was rejected. -/
theorem counted_once (h : ts.any Turn.rejected = false) :
    ts.length = ts.countP (Turn.ended .renewed) + ts.countP (Turn.ended .notDue) +
      ts.countP Turn.skipped + ts.countP Turn.failed := by
  induction ts with
  | nil => rfl
  | cons turn ts ih =>
    rw [List.any_cons, Bool.or_eq_false_iff] at h
    have hturn : (if Turn.ended .renewed turn then 1 else 0) +
        (if Turn.ended .notDue turn then 1 else 0) + (if turn.skipped then 1 else 0) +
        (if turn.failed then 1 else 0) = 1 := by
      obtain ⟨greffonId, outcome, blind⟩ := turn
      cases outcome with
      | ok o =>
        obtain ⟨status, serial, reason⟩ := o
        cases status <;> simp [Turn.ended, Turn.skipped, Turn.failed]
      | error e =>
        have hrejected := h.1
        cases e <;> simp [Turn.rejected] at hrejected <;>
          simp [Turn.ended, Turn.skipped, Turn.failed, RenewalError.nodeWide]
    rw [List.length_cons, List.countP_cons, List.countP_cons, List.countP_cons, List.countP_cons,
      ih h.2]
    omega

end Count

section Loop
variable {settings : Settings} {force : Bool} {m : Memory} {w : Sweep}

theorem Ordered.none (stopped : Bool) : Ordered [] [] stopped :=
  ⟨List.prefix_refl [], by simp, .inl rfl⟩

/-- No turn, because of the stop flag. -/
theorem Ordered.halted (ids : List String) : Ordered ids [] true :=
  ⟨List.nil_prefix, by simp, .inr (.inr rfl)⟩

theorem Ordered.last {greffonId : String} {ids : List String} {turn : Turn} {stopped : Bool}
    (hid : turn.greffonId = greffonId) (hstops : turn.stops = true) :
    Ordered (greffonId :: ids) [turn] stopped where
  order := by
    rw [List.map_singleton, hid]
    exact ⟨ids, rfl⟩
  first := by simp
  reason := .inr (.inl ⟨turn, rfl, hstops⟩)

theorem Ordered.cons {greffonId : String} {ids : List String} {turn : Turn} {ts : List Turn}
    {stopped : Bool} (hid : turn.greffonId = greffonId) (hgoes : turn.stops = false)
    (h : Ordered ids ts stopped) : Ordered (greffonId :: ids) (turn :: ts) stopped where
  order := by
    rw [List.map_cons, hid]
    exact (List.prefix_cons_inj greffonId).mpr h.order
  first t ht := by
    cases ts with
    | nil => cases ht
    | cons next ts =>
      rw [List.dropLast_cons_cons] at ht
      obtain rfl | ht := List.mem_cons.mp ht
      · exact hgoes
      · exact h.first t ht
  reason := by
    obtain hall | hlast | hstopped := h.reason
    · exact .inl (by rw [List.map_cons, hid, hall])
    · obtain ⟨t, ht, hstops⟩ := hlast
      refine .inr (.inl ⟨t, ?_, hstops⟩)
      rw [List.getLast?_cons, ht]
      rfl
    · exact .inr (.inr hstopped)

theorem attempt_eq (t : Tally) (greffonId : String) :
    attempt settings none force t greffonId = Routine.tryExcept (do
      let o ← renewOne settings greffonId force
      return (t.count none greffonId o, false))
    fun e => do
      handled settings greffonId (.error e)
      return (t.turned greffonId (.error e), e.nodeWide) := by
  unfold attempt
  congr 1
  funext e
  cases e <;> rfl

/-- What is judged of a pass is judged of its log, which tells what was heard. -/
theorem steps_logged {α : Type} {f : Steps α} {I : Sweep → Prop}
    {Q : Except RenewalError α → Memory → Sweep → Prop} {log : Log}
    (h : f.Always sweeping I Q m (.of log)) :
    f.Always logging (fun log' => I (.of log')) (fun r m' log' =>
      (∃ heard, log' = log ++ heard ∧ Prog.Hears (f m) heard (r, m')) ∧ Q r m' (.of log')) m log :=
  Prog.Always.record sweeping Sweep.of (fun es c r hok => ⟨hok, Sweep.of_snoc es c r⟩) h

/-- **One turn.** -/
theorem attempt_turn (t : Tally) (greffonId : String) {log : Log}
    (hm : m.blindStreak = (Sweep.of log).blind) :
    (attempt settings none force t greffonId).Always logging
      (fun log' => (Sweep.of log).Kept (.of log')) (fun r m₃ log' =>
        ∃ outcome m₂ heard noted,
          Prog.Hears (renewOne settings greffonId force m) heard (outcome, m₂) ∧
          Prog.Hears (handled settings greffonId outcome m₂) noted (.ok (), m₃) ∧
          log' = log ++ heard ++ noted ∧
          r = .ok (t.turned greffonId outcome, refusedNode outcome) ∧
          m₃.blindStreak = (Sweep.of log').blind) m log := by
  rw [attempt_eq, Routine.always_tryExcept, Routine.always_bind]
  refine (steps_logged (renewOne_watched hm)).mono fun r m₂ log₂ hinv hr => ?_
  obtain ⟨⟨heard, hlog₂, hheard⟩, hm₂, -⟩ := hr
  cases r with
  | ok o =>
    refine ⟨hinv, .ok o, m₂, heard, [], hheard, ⟨rfl, rfl⟩, ?_, rfl, hm₂⟩
    rw [List.append_nil, hlog₂]
  | error e =>
    dsimp only [Routine.onOk]
    rw [Routine.always_bind]
    have hhandled : (handled settings greffonId (.error e)).Always sweeping
        (fun w' => w' = .of log₂)
        (fun r m₃ w₃ => r = .ok () ∧ m₃.blindStreak = m₂.blindStreak ∧ w₃ = .of log₂)
        m₂ (.of log₂) := by
      show (if e.nodeWide then return () else noteFailure settings greffonId : Steps Unit).Always
        sweeping _ _ m₂ (.of log₂)
      rw [Routine.always_ite]
      constructor
      · intro _
        exact ⟨rfl, rfl, rfl, rfl⟩
      · intro _
        unfold noteFailure
        rw [Routine.always_bind, Routine.always_locals]
        refine ⟨rfl, ?_⟩
        rw [Routine.onOk_ok, Routine.always_bind, Routine.always_monadLift]
        refine ⟨rfl, fun r w₃ hserve => ?_⟩
        obtain ⟨⟨now, rfl⟩, hw₃⟩ := hserve
        obtain rfl : w₃ = .of log₂ := hw₃
        exact ⟨rfl, rfl, rfl, rfl, rfl⟩
    refine (steps_logged hhandled).imp (fun log' hlog' => ?_) fun r m₃ log₃ hinv₃ hr => ?_
    · show (Sweep.of log).Kept (.of log')
      rw [hlog']
      exact hinv
    · obtain ⟨⟨noted, hlog₃, hnoted⟩, rfl, hm₃, hsame⟩ := hr
      refine ⟨?_, .error e, m₂, heard, noted, hheard, hnoted, ?_, rfl, ?_⟩
      · show (Sweep.of log).Kept (.of log₃)
        rw [hsame]
        exact hinv
      · rw [hlog₃, hlog₂]
      · rw [hm₃, hsame]
        exact hm₂

/-- **The loop of a pass is its turns.** -/
theorem attemptAll_turns (statuses : List (String × String)) (t : Tally) {log : Log}
    (hm : m.blindStreak = (Sweep.of log).blind) :
    (attemptAll settings none force statuses t).Always logging
      (fun log' => (Sweep.of log').listed = (Sweep.of log).listed)
      (fun r m' log' => ∃ t' ts, r = .ok t' ∧ Turns settings force (m, log) ts (m', log') ∧
        t.Adds t' ts ∧ Ordered (running statuses) ts (Sweep.of log').stopped) m log := by
  induction statuses generalizing t m log with
  | nil => exact ⟨rfl, t, [], rfl, .none _, .none t, .none _⟩
  | cons e rest ih =>
    obtain ⟨greffonId, status⟩ := e
    unfold attemptAll
    rw [Routine.always_ite]
    constructor
    · intro hskip
      -- not running: the instance is no candidate
      have hother : (status == "running") = false := by
        simpa using hskip
      have hrest : running ((greffonId, status) :: rest) = running rest := by
        unfold running
        rw [List.filter_cons_of_neg (by simpa using hother)]
      rw [hrest]
      exact ih t hm
    · intro hgo
      have hrunning : status = "running" := by
        simpa using hgo
      have hids : running ((greffonId, status) :: rest) = greffonId :: running rest := by
        unfold running
        rw [List.filter_cons_of_pos (by simp [hrunning]), List.map_cons]
      rw [hids, Routine.always_bind, Routine.always_monadLift]
      refine ⟨rfl, fun r log₁ hserve => ?_⟩
      -- each candidate is attempted only after the question whether to stop
      obtain ⟨⟨stop, rfl⟩, rfl⟩ := hserve
      have hasked : Sweep.of (log ++ [⟨.stopRequested, .ok stop⟩]) =
          { Sweep.of log with stopped := stop } := Sweep.of_snoc _ _ _
      have hlisted : (Sweep.of (log ++ [⟨.stopRequested, .ok stop⟩])).listed =
          (Sweep.of log).listed := by
        rw [hasked]
      refine ⟨hlisted, ?_⟩
      dsimp only [Routine.onOk]
      rw [Routine.always_ite]
      constructor
      · intro hstop
        obtain rfl : stop = true := hstop
        refine ⟨hlisted, t, [], rfl, .halt m log, .none t, ?_⟩
        rw [hasked]
        exact .halted _
      · intro hgoes
        obtain rfl : stop = false := by simpa using hgoes
        have hm₁ : m.blindStreak =
            (Sweep.of (log ++ [⟨.stopRequested, .ok false⟩])).blind := by
          rw [hasked]
          exact hm
        rw [Routine.always_bind]
        refine (attempt_turn _ greffonId hm₁).imp (fun log₂ h₂ => h₂.1.trans hlisted) ?_
        intro r m₃ log₃ hinv hr
        obtain ⟨outcome, m₂, heard, noted, hheard, hnoted, hlog₃, rfl, hm₃⟩ := hr
        rw [Routine.onOk_ok, Routine.always_bind, Routine.always_locals]
        have hadds := turned_adds t greffonId outcome (Sweep.of log₃).blind
        refine ⟨hinv.1.trans hlisted, ?_⟩
        rw [Routine.onOk_ok, Routine.always_ite]
        constructor
        -- an outcome that ends the pass leaves the rest out
        · intro hstops
          refine ⟨hinv.1.trans hlisted, _, _, rfl, .turn hheard hnoted hlog₃ (.none _), hadds,
            .last rfl ?_⟩
          unfold Turn.stops
          rw [← hm₃]
          exact hstops
        · intro hgoesOn
          have hgoes : Turn.stops ⟨greffonId, outcome, (Sweep.of log₃).blind⟩ = false := by
            unfold Turn.stops
            rw [← hm₃]
            exact Bool.eq_false_iff.mpr hgoesOn
          refine (ih _ hm₃).imp (fun log₄ h₄ => h₄.trans (hinv.1.trans hlisted)) ?_
          intro r m₄ log₄ _ hr
          obtain ⟨t', ts, rfl, hturns, hadds', hordered⟩ := hr
          exact ⟨t', _, rfl, .turn hheard hnoted hlog₃ hturns, hadds.cons hadds',
            .cons rfl hgoes hordered⟩

end Loop

/-! ## The pass -/

section Pass
variable {settings : Settings} {force : Bool} {m m' : Memory} {w w' : Sweep} {α : Type}

/-- **The backoff of an instance changes in its own turn.** -/
theorem Turns.backoff {s s' : Memory × Log} {ts : List Turn} (h : Turns settings force s ts s')
    {i : String} (hi : i ∉ ts.map Turn.greffonId) :
    s'.1.renewalBackoff.lookup i = s.1.renewalBackoff.lookup i := by
  induction h with
  | none => rfl
  | halt => rfl
  | @turn m m₂ m₃ log log' heard noted greffonId outcome ts s run after hlog rest ih =>
    rw [List.map_cons, List.mem_cons, not_or] at hi
    have hstable := stable_backoff hi.1 (m.renewalBackoff.lookup i)
    have hturn : m₂.renewalBackoff.lookup i = m.renewalBackoff.lookup i :=
      (renewOne_keeps hstable (fun _ _ hx => hx) force).heard rfl run
    have hafter : m₃.renewalBackoff.lookup i = m.renewalBackoff.lookup i :=
      (handled_keeps hstable outcome).heard hturn after
    exact (ih hi.2).trans hafter

/-- The calls of a due renewal leave the listed instances and the stop flag. -/
theorem resolves_kept {f : Steps α} (h : f.Uses Resolves) :
    f.Always sweeping w.Kept (fun _ _ w' => w.Kept w') m w := by
  refine h.always (M := sweeping) ?_ (.refl w)
  intro w₁ c r w₂ hc h₁ hs
  rw [hs.2]
  cases c with
  | handshake host port =>
    show w.Kept (if w₁.checked then _ else w₁)
    split <;> exact h₁
  | collectStatusMap => cases hc
  | stopRequested => cases hc
  | acquireUnlessHandoff i => cases hc
  | composeInflight i => cases hc
  | _ => exact h₁

/-- What the node no longer runs is forgotten, and nothing else. -/
theorem dropStale_drops (statuses : List (String × String)) :
    (dropStale statuses).Always sweeping w.Kept (fun _ m' w' => w.Kept w' ∧
      m'.renewalBackoff =
        m.renewalBackoff.filter fun e => statuses.any fun s => s.1 == e.1) m w := by
  unfold dropStale
  rw [Routine.always_bind, Routine.always_assign]
  refine ⟨.refl w, ?_⟩
  rw [Routine.onOk_ok]
  refine ((resolves_kept saveUnconfirmed_uses).returning (saveUnconfirmed_keeps
    (P := fun m' => m'.renewalBackoff =
      m.renewalBackoff.filter fun e => statuses.any fun s => s.1 == e.1) _ rfl)).mono ?_
  intro r m₁ w₁ _ hr
  exact ⟨hr.2, hr.1⟩

theorem Contained.untouched {r : Except RenewalError PassResult}
    (hm : m'.renewalBackoff = m.renewalBackoff) (hw : w.listed = [] ∨ w.stopped = true)
    (hr : ∀ res, r = .ok res → res = ⟨0, 0, 0, 0, none, 0⟩) : Contained m m' w r [] where
  ordered := by
    obtain hlisted | hstopped := hw
    · rw [hlisted]
      exact .none _
    · rw [hstopped]
      exact .halted _
  counted res hres := by
    rw [hr res hres]
    simp
  backedOff i entry h := .inl (by rwa [hm] at h)
  forgotten i h := .inl (by rwa [hm] at h)

/-- The pass from `m` to `m'`: **its log is that of its turns**, but for the calls of its own that
open and close it. -/
def Passed (settings : Settings) (force : Bool) (m : Memory)
    (r : Except RenewalError PassResult) (m' : Memory) (log : Log) : Prop :=
  ∃ ledger ts opening m₁ log₁ closing,
    Turns settings force ({ m with unconfirmed := ledger, blindStreak := 0 }, opening) ts
      (m₁, log₁) ∧
    log = log₁ ++ closing ∧ (∀ e ∈ opening, Own e.1) ∧ (∀ e ∈ closing, Own e.1) ∧
    Contained m m' (.of log) r ts

theorem dropStale_uses (statuses : List (String × String)) : (dropStale statuses).Uses Own := by
  refine (Routine.uses_assign _).bind fun _ => ?_
  refine Routine.uses_locals.bind fun _ => Routine.uses_monadLift ?_
  exact Action.Uses.tryExcept ((Action.uses_perform trivial).bind fun _ =>
    Action.uses_perform trivial) fun e => by split <;> trivial

/-- **The pass over the listed instances.** -/
theorem renewListed_passed (settings : Settings) (force : Bool) (m : Memory) (ledger : Ledger)
    {opening : Log} (hopening : ∀ e ∈ opening, Own e.1)
    (hblind : (Sweep.of opening).blind = 0) :
    (renewListed settings none force (Sweep.of opening).listed).Always logging (fun _ => True)
      (Passed settings force m) { m with unconfirmed := ledger, blindStreak := 0 } opening := by
  show (renewListed.listed settings none force _).Always _ _ _ _ _
  unfold renewListed.listed
  rw [Routine.always_bind]
  refine (attemptAll_turns (Sweep.of opening).listed {} hblind.symm).imp (fun _ _ => trivial) ?_
  intro r m₁ log₁ hlisted hr
  obtain ⟨t, ts, rfl, hturns, hadds, hordered⟩ := hr
  rw [Routine.onOk_ok, Routine.always_bind]
  refine (steps_logged (dropStale_drops (Sweep.of opening).listed)).imp (fun _ _ => trivial)
    fun r m₂ log₂ _ hr => ?_
  obtain ⟨⟨closing, hlog₂, hclosing⟩, hkept, hdropped⟩ := hr
  have hlookup (i : String) : m₂.renewalBackoff.lookup i =
      if (Sweep.of opening).listed.any (fun s => s.1 == i) then m₁.renewalBackoff.lookup i
      else none := by
    rw [hdropped]
    exact lookup_filter_keys m₁.renewalBackoff
      (fun k => (Sweep.of opening).listed.any fun s => s.1 == k) i
  have hlisted₂ : (Sweep.of log₂).listed = (Sweep.of opening).listed := hkept.1.trans hlisted
  -- Whatever the pass returns, it is the tally of its turns; an exception claims nothing.
  have hpassed {r : Except RenewalError PassResult} (hr : ∀ res, r = .ok res →
      t.unauthorized = false ∧ t.capped = false ∧
        res = ⟨t.considered, t.renewed, t.skipped, t.errors, t.selected, t.deferred⟩) :
      Passed settings force m r m₂ log₂ := by
    refine ⟨ledger, ts, opening, m₁, log₁, closing, hturns, hlog₂, hopening,
      Prog.Uses.heard (dropStale_uses _ m₁) hclosing, ?_, ?_, ?_, ?_⟩
    · rw [hlisted₂, hkept.2]
      exact hordered
    · intro res hres
      obtain ⟨hauth, hcap, rfl⟩ := hr res hres
      have hrejected : ts.any Turn.rejected = false := by
        have h := hadds.rejected
        rw [hauth, hcap] at h
        simpa using h.symm
      have hconsidered : t.considered = ts.length := by
        rw [hadds.considered]
        exact Nat.zero_add _
      have hrenewed : t.renewed = ts.countP (Turn.ended .renewed) := by
        rw [hadds.renewed]
        exact Nat.zero_add _
      have hskipped : t.skipped = ts.countP Turn.skipped := by
        rw [hadds.skipped]
        exact Nat.zero_add _
      have herrors : t.errors = ts.countP Turn.failed := by
        rw [hadds.errors]
        exact Nat.zero_add _
      refine ⟨hconsidered, hrenewed, hskipped, herrors, ?_⟩
      dsimp only
      rw [hconsidered, hrenewed, hskipped, herrors]
      exact counted_once hrejected
    -- A backoff left behind is of a turn, or was there before and its instance is still listed.
    · intro i entry hentry
      by_cases hi : i ∈ ts.map Turn.greffonId
      · exact .inr hi
      · rw [hlookup] at hentry
        split at hentry
        · exact .inl ((hturns.backoff hi).symm.trans hentry)
        · cases hentry
    · intro i hentry
      by_cases hi : i ∈ ts.map Turn.greffonId
      · exact .inr (.inl hi)
      · rw [hlookup] at hentry
        split at hentry
        · exact .inl ((hturns.backoff hi).symm.trans hentry)
        · rename_i hgone
          refine .inr (.inr ?_)
          rw [hlisted₂]
          intro hmem
          obtain ⟨s, hs, rfl⟩ := List.mem_map.mp hmem
          exact hgone (List.any_eq_true.mpr ⟨s, hs, beq_self_eq_true s.1⟩)
  cases r with
  | error e => exact hpassed (by simp)
  | ok u =>
    rw [Routine.onOk_ok]
    unfold passResult
    rw [Routine.always_ite]
    constructor
    · intro _
      exact ⟨trivial, hpassed (by simp)⟩
    · intro hauth
      rw [Routine.always_ite]
      constructor
      · intro _
        exact ⟨trivial, hpassed (by simp)⟩
      · intro hcap
        refine ⟨trivial, hpassed fun res hres => ⟨?_, ?_, (Except.ok.inj hres).symm⟩⟩
        · exact Bool.eq_false_iff.mpr hauth
        · exact Bool.eq_false_iff.mpr hcap

theorem loadUnconfirmed_loads :
    loadUnconfirmed.Always sweeping w.Kept (fun _ m' w' => w' = w ∧
      ∃ ledger, m' = { m with unconfirmed := ledger }) m w := by
  unfold loadUnconfirmed
  rw [Routine.always_bind, Routine.always_monadLift]
  have hread : (call .readLedger).Uses Still := Action.uses_perform fun _ _ => rfl
  refine (still_always (hread.tryExcept fun e => ?_)).mono fun r w₁ hinv hw₁ => ?_
  · split <;> trivial
  rw [hw₁]
  cases r with
  | error e => exact ⟨rfl, m.unconfirmed, rfl⟩
  | ok stored => exact ⟨.refl w, rfl, _, rfl⟩

theorem loadUnconfirmed_uses : loadUnconfirmed.Uses Own := by
  refine (Routine.uses_monadLift (Action.Uses.tryExcept (Action.uses_perform trivial)
    fun e => ?_)).bind fun _ => Routine.uses_assign _
  split <;> trivial

theorem stopRequested_serve {log log' : Log} {r : Raises Answer RenewalError .stopRequested}
    (h : logging.serve log .stopRequested r log') :
    ∃ stop, r = .ok stop ∧ log' = log ++ [⟨.stopRequested, .ok stop⟩] := by
  obtain ⟨⟨stop, rfl⟩, rfl⟩ := h
  exact ⟨stop, rfl, rfl⟩

theorem own_snoc {log : Log} (last : Heard (Raises Answer RenewalError))
    (h : ∀ e ∈ log, Own e.1) (hlast : Own last.1) : ∀ e ∈ log ++ [last], Own e.1 := by
  intro e he
  rcases List.mem_append.mp he with he | he
  · exact h e he
  · obtain rfl := List.mem_singleton.mp he
    exact hlast

/-- **A fleet pass.** -/
theorem renewAllLocked_passed :
    (renewAllLocked settings none force).Always logging (fun _ => True)
      (Passed settings force m) m [] := by
  -- A pass that ends before its loop has considered nothing.
  have hstill {ledger : Ledger} {n : Nat} {log : Log} {r : Except RenewalError PassResult}
      (hown : ∀ e ∈ log, Own e.1) (hw : (Sweep.of log).listed = [] ∨ (Sweep.of log).stopped = true)
      (hr : ∀ res, r = .ok res → res = ⟨0, 0, 0, 0, none, 0⟩) :
      Passed settings force m r { m with unconfirmed := ledger, blindStreak := n } log :=
    ⟨[], [], log, _, log, [], .none _, (List.append_nil log).symm, hown, by simp,
      .untouched rfl hw hr⟩
  have hzeros (res : PassResult) (hres : (.ok ⟨0, 0, 0, 0, none, 0⟩ : Except RenewalError _) =
      .ok res) : res = ⟨0, 0, 0, 0, none, 0⟩ := (Except.ok.inj hres).symm
  unfold renewAllLocked
  rw [Routine.always_bind]
  have hload : loadUnconfirmed.Always sweeping (Sweep.Kept {}) (fun _ m' w' => w' = {} ∧
      ∃ ledger, m' = { m with unconfirmed := ledger }) m (.of []) := loadUnconfirmed_loads
  refine (steps_logged hload).imp (fun _ _ => trivial) fun r m₁ log₁ _ hr => ?_
  obtain ⟨⟨heard, hlog₁, hheard⟩, hsweep₁, ledger, rfl⟩ := hr
  have hown₁ : ∀ e ∈ log₁, Own e.1 := by
    rw [hlog₁, List.nil_append]
    exact Prog.Uses.heard (loadUnconfirmed_uses m) hheard
  cases r with
  | error e => exact hstill hown₁ (.inl (by rw [hsweep₁])) (by simp)
  | ok u =>
    rw [Routine.onOk_ok, Routine.always_bind, Routine.always_assign]
    refine ⟨trivial, ?_⟩
    rw [Routine.onOk_ok, Routine.always_bind, Routine.always_monadLift]
    refine ⟨trivial, fun r log₂ hserve => ?_⟩
    obtain ⟨stop, rfl, rfl⟩ := stopRequested_serve hserve
    have hown₂ := own_snoc ⟨.stopRequested, .ok stop⟩ hown₁ trivial
    have hsweep₂ : Sweep.of (log₁ ++ [⟨.stopRequested, .ok stop⟩]) = { stopped := stop } := by
      rw [Sweep.of_snoc, hsweep₁]
      rfl
    refine ⟨trivial, ?_⟩
    dsimp only [Routine.onOk]
    rw [Routine.always_ite]
    constructor
    · intro hstop
      exact ⟨trivial, hstill hown₂ (.inl (by rw [hsweep₂])) hzeros⟩
    · intro _
      rw [Routine.always_bind, Routine.always_monadLift]
      refine ⟨trivial, fun r log₃ hserve => ?_⟩
      obtain ⟨-, rfl⟩ := hserve
      have hown₃ := own_snoc ⟨.collectStatusMap, r⟩ hown₂ trivial
      refine ⟨trivial, ?_⟩
      cases r with
      | error e =>
        refine hstill hown₃ (.inl ?_) (by simp)
        rw [Sweep.of_snoc, hsweep₂]
        rfl
      | ok statuses =>
        dsimp only [Routine.onOk]
        rw [Routine.always_bind, Routine.always_monadLift]
        refine ⟨trivial, fun r log₄ hserve => ?_⟩
        obtain ⟨stop', rfl, rfl⟩ := stopRequested_serve hserve
        have hown₄ := own_snoc ⟨.stopRequested, .ok stop'⟩ hown₃ trivial
        have hsweep₄ : Sweep.of (log₁ ++ [⟨.stopRequested, .ok stop⟩] ++
            [⟨.collectStatusMap, .ok statuses⟩] ++ [⟨.stopRequested, .ok stop'⟩]) =
            { listed := statuses, stopped := stop' } := by
          rw [Sweep.of_snoc, Sweep.of_snoc, hsweep₂]
          rfl
        refine ⟨trivial, ?_⟩
        dsimp only [Routine.onOk]
        rw [Routine.always_ite]
        constructor
        · intro hstop'
          exact ⟨trivial, hstill hown₄ (.inr (by rw [hsweep₄]; exact hstop')) hzeros⟩
        · intro _
          have hlisted := renewListed_passed settings force m ledger hown₄ (by rw [hsweep₄])
          rwa [hsweep₄] at hlisted

/-- **A fleet pass contains its failures**: from any memory of the worker, and whatever the
environment answers, the log of the pass is that of turns over the running instances, each left
to the next unless it concerns the whole node; what is counted is what they came to; and the
backoff of an instance is changed by its own turn only. -/
theorem renewal_pass_contained (settings : Settings) (force : Bool) (m m' : Memory) (log : Log)
    (r : Except RenewalError PassResult)
    (hears : Prog.Hears (renewAllLocked settings none force m) log (r, m'))
    (hread : ∀ e ∈ log, Readable e.1 e.2) : Passed settings force m r m' log := by
  have hrun : Run logging [] (renewAllLocked settings none force m) log (.pure (r, m')) :=
    Prog.run_record [] hears hread
  exact renewAllLocked_passed.at_return hrun

/-- A node whose sidecars answer nothing, under a manager that answers every mint with 503. -/
def deafNode : (c : RenewalCall) → Raises Answer RenewalError c
  | .readLedger | .acquireUnlessHandoff _ | .startedAt _ | .handshake _ _ => .ok none
  | .collectStatusMap => .ok [("a", "running"), ("b", "exited"), ("c", "running")]
  | .renderedCompose _ => .ok (some publishedCompose)
  | .postMint _ => .ok { statusCode := 503 }
  | .postReport _ _ => .ok { statusCode := 200 }
  | .acquirePassLock | .reload _ => .ok true
  | .stopRequested | .composeInflight _ => .ok false
  | .utcNow | .monotonic => .ok 0
  | .writeLedgerTmp _ | .replaceLedger | .releasePassLock | .releaseLock _ | .putArchive _ _ _
  | .restart _ | .sleep => .ok ()

/-- What a pass over that node hears, and what it returns. -/
def deafPass : Log × Option (Except RenewalError PassResult × Memory) :=
  Prog.listen deafNode 60 (renewAllLocked {} none false {})

theorem deafPass_readable : ∀ e ∈ deafPass.1, Readable e.1 e.2 := by
  intro e he
  rw [Prog.answer_listen e he]
  obtain ⟨c, r⟩ := e
  cases c <;> first | trivial | exact ⟨_, rfl⟩

theorem renewal_pass_contained_deaf : ∃ r m, deafPass.2 = some (r, m) ∧
    Passed {} false {} r m deafPass.1 := by
  have hend : ∃ r m, deafPass.2 = some (r, m) := ⟨_, _, rfl⟩
  obtain ⟨r, m, hm⟩ := hend
  exact ⟨r, m, hm, renewal_pass_contained {} false {} m deafPass.1 r (Prog.hears_listen hm)
    deafPass_readable⟩

end Pass

end Greffer.CertRenewal

import Mathlib.Algebra.Order.Ring.Rat
import Greffer.Effects.Reliance
import Greffer.Python.Value
import Greffer.Registration.StatusReports

/-! # Sweeps and heartbeats

Every few seconds the monitor sweeps the instances of the node, reports what has changed and
publishes the map of all statuses.  Every few seconds, too, the heartbeat sends such a map to the
manager: the published one if it is recent, else one from a sweep of its own.  The manager goes by
the time that comes with the map, so it must not be later than any status in it.

The two share `app.state.status_map`, and their sweeps run in threads; between any two of their
calls the statuses may change.
-/
namespace Greffer.Heartbeat
open Effects

/-- What the code may raise. -/
inductive BeatError where
  | requests (e : Monitor.RequestsError)
  | raised (e : Exn)

/-- `requests.ConnectionError` or `requests.Timeout`. -/
def BeatError.unreachable : BeatError → Bool
  | .requests e => e.isConnectionError || e.isTimeout
  | .raised _ => false

/-- The instances and their statuses. -/
abbrev Statuses := List (String × String)

/-- `app.state.status_map`, of a sweep. -/
structure Sweep where
  map : Statuses
  /-- `at`, on the monotonic clock. -/
  takenAt : Rat
  capturedAt : Rat
  deriving DecidableEq

/-- What `_collect_or_reuse` returns. -/
structure Report where
  instances : Statuses
  degraded : Bool := false
  reasons : List String := []
  capturedAt : Rat
  deriving DecidableEq

/-- The payload of a heartbeat, as far as it is about the instances. -/
structure Beat extends Report where
  seq : Nat
  deriving DecidableEq

/-! ## The calls -/

inductive BeatCall where
  /-- `datetime.now(timezone.utc)`. -/
  | now
  | monotonic
  /-- `os.listdir`, of the data root. -/
  | listdir
  /-- `compose.get_status(greffon_id)["status"]`. -/
  | getStatus (greffonId : String)
  /-- `_report_status_change`: the status code. -/
  | reportStatusChange (greffonId status : String)
  /-- `app.state.status_map = …`. -/
  | publish (sweep : Option Sweep)
  /-- `getattr(app.state, "status_map", None)`. -/
  | statusMap
  | awaitRegistered
  /-- `requests.post`, of a heartbeat: the status code. -/
  | post (beat : Beat)
  /-- `registered.clear()` and `reregister_requested.set()`. -/
  | requestReregistration
  | sleep (seconds : Rat)

/-- What each call answers when it raises nothing. -/
@[reducible] def BeatCall.Answer : BeatCall → Type
  | .now | .monotonic => Rat
  | .listdir => List String
  | .getStatus _ => String
  | .reportStatusChange _ _ | .post _ => Nat
  | .statusMap => Option Sweep
  | .publish _ | .awaitRegistered | .requestReregistration | .sleep _ => Unit

/-- Code of the two workers. -/
abbrev Beating := Action BeatCall.Answer BeatError

/-- Make one call. -/
abbrev ask (c : BeatCall) : Beating c.Answer := Action.perform c

/-- The settings of the two workers. -/
structure Intervals where
  monitorInterval : Rat := 5
  heartbeatInterval : Rat := 5

/-! ## The sweep -/

/-- A name that `collect_status_map` passes over. -/
def isDotfile (name : String) : Bool := name.startsWith "."

/-- The loop of `collect_status_map`. -/
def collectFrom : List String → Statuses → Beating Statuses
  | [], result => return result
  | greffonId :: rest, result =>
    if isDotfile greffonId then collectFrom rest result
    else do
      let status ← ask (.getStatus greffonId)
      collectFrom rest (upsert result greffonId status)

/-- `collect_status_map`. -/
def collectStatusMap : Beating Statuses := do
  let names ← ask .listdir
  collectFrom names []

/-! ## The monitor -/

/-- The loop of `_one_monitor_tick`: what it remembers then, and the exception that has left it. -/
def reportEach : Statuses → Statuses → Beating (Statuses × Option BeatError)
  | [], prevStatus => return (prevStatus, none)
  | e :: rest, prevStatus =>
    if Monitor.changed prevStatus e then do
      match ← (ask (.reportStatusChange e.1 e.2)).outcome with
      | .error error =>
        if error.unreachable then reportEach rest prevStatus else return (prevStatus, some error)
      | .ok code =>
        if 400 ≤ code then reportEach rest prevStatus
        else reportEach rest (upsert prevStatus e.1 e.2)
    else reportEach rest (upsert prevStatus e.1 e.2)

/-- The end of a tick. -/
def publishAndSleep (settings : Intervals) (sweep : Option Sweep) (prevStatus : Statuses) :
    Beating (Option Statuses) := do
  ask (.publish sweep)
  ask (.sleep settings.monitorInterval)
  return some prevStatus

/-- A sweep that is complete, and reported. -/
def publishSwept (settings : Intervals) (map : Statuses) (capturedAt : Rat)
    (prevStatus : Statuses) : Beating (Option Statuses) := do
  let takenAt ← ask .monotonic
  publishAndSleep settings (some ⟨map, takenAt, capturedAt⟩) prevStatus

/-- A tick of `monitor_worker`.  What `_one_monitor_tick` has remembered by then stays remembered
when an exception leaves it. -/
def monitorTick (settings : Intervals) (prevStatus : Statuses) : Beating (Option Statuses) := do
  let capturedAt ← ask .now
  match ← collectStatusMap.outcome with
  | .error _ => publishAndSleep settings none prevStatus
  | .ok map => do
    match ← reportEach map prevStatus with
    | (prevStatus, some _) => publishAndSleep settings none prevStatus
    | (prevStatus, none) => publishSwept settings map capturedAt prevStatus

/-! ## The heartbeat -/

/-- The window in which a published sweep is reused. -/
def Intervals.window (settings : Intervals) : Rat :=
  settings.monitorInterval + settings.heartbeatInterval

/-- `_collect_or_reuse`, where there is nothing to reuse. -/
def collectFresh (nowIso : Rat) : Beating Report := do
  match ← collectStatusMap.outcome with
  | .ok map => return { instances := map, capturedAt := nowIso }
  | .error _ => return {
      instances := [], degraded := true, reasons := ["docker_unreachable"], capturedAt := nowIso }

/-- `_collect_or_reuse`. -/
def collectOrReuse (settings : Intervals) : Beating Report := do
  let nowIso ← ask .now
  match ← ask .statusMap with
  | none => collectFresh nowIso
  | some cached => do
    let now ← ask .monotonic
    if now - cached.takenAt < settings.window then
      return { instances := cached.map, capturedAt := cached.capturedAt }
    else collectFresh nowIso

/-- `_one_heartbeat`. -/
def oneHeartbeat (settings : Intervals) (seq : Nat) : Beating Nat := do
  let report ← collectOrReuse settings
  ask (.post { report with seq })

/-- After a heartbeat. -/
def settle (settings : Intervals) (seq : Nat) (rejected : Bool) : Beating (Option Nat) := do
  if rejected then ask .requestReregistration
  ask (.sleep settings.heartbeatInterval)
  return some seq

/-- A round of `heartbeat_worker`, once `seq` beats have been tried. -/
def heartbeatRound (settings : Intervals) (seq : Nat) : Beating (Option Nat) := do
  ask .awaitRegistered
  match ← (oneHeartbeat settings (seq + 1)).outcome with
  | .ok 403 => settle settings (seq + 1) true
  | _ => settle settings (seq + 1) false

/-! ## The node -/

/-- The two workers. -/
inductive Role where
  | monitor
  | heartbeat
  deriving DecidableEq

/-- What each keeps from round to round. -/
@[reducible] def Role.Label : Role → Type
  | .monitor => Statuses
  | .heartbeat => Nat

/-- The calls are the same for both. -/
abbrev Role.Reply (_ : Role) : BeatCall → Type := Raises BeatCall.Answer BeatError

/-- The block of each round. -/
def blocks (settings : Intervals) : Blocks Role.Reply Role.Label
  | .monitor, prevStatus => Action.block (monitorTick settings prevStatus)
  | .heartbeat, seq => Action.block (heartbeatRound settings seq)

def monitorWorker : Worker Role.Reply Role.Label := ⟨.monitor, .pure (some [])⟩

def heartbeatWorker : Worker Role.Reply Role.Label := ⟨.heartbeat, .pure (some (0 : Nat))⟩

/-- What a call of a sweep finds. -/
inductive Finding where
  | listed (names : List String)
  /-- The data root could not be listed. -/
  | unlisted
  | status (greffonId status : String)
  /-- Docker has failed to tell the status. -/
  | noStatus (greffonId : String)
  deriving DecidableEq

/-- What a call finds. -/
def finds : (c : BeatCall) → Raises BeatCall.Answer BeatError c → Option Finding
  | .listdir, .ok names => some (.listed names)
  | .getStatus greffonId, .ok status => some (.status greffonId status)
  | .listdir, .error _ => some .unlisted
  | .getStatus greffonId, .error _ => some (.noStatus greffonId)
  | _, _ => none

/-- What the workers share.  `found` is what each worker has found so far, and when. -/
structure Node where
  clock : Rat
  wall : Rat
  published : Option Sweep := none
  registered : Bool := false
  found : List (Nat × Rat × Finding) := []

/-- The worker `n` has found something. -/
def Node.note (w : Node) (n : Nat) : Option Finding → Node
  | some finding => { w with found := (n, w.wall, finding) :: w.found }
  | none => w

/-- What each call of the worker `n` may be answered, and do.  Any call to docker or to the manager
may fail. -/
def serve (n : Nat) (w : Node) (c : BeatCall) (r : Raises BeatCall.Answer BeatError c) (w' : Node) :
    Prop :=
  match c, r with
  | .now, r => r = .ok w.wall ∧ w' = w
  | .monotonic, r => r = .ok w.clock ∧ w' = w
  | .listdir, r => w' = w.note n (finds .listdir r)
  | .getStatus greffonId, r => w' = w.note n (finds (.getStatus greffonId) r)
  | .publish sweep, r => r = .ok () ∧ w' = { w with published := sweep }
  | .statusMap, r => r = .ok w.published ∧ w' = w
  | .awaitRegistered, r => r = .ok () ∧ w.registered = true ∧ w' = w
  | .requestReregistration, r => r = .ok () ∧ w' = { w with registered := false }
  | .sleep _, r => r = .ok () ∧ w' = w
  | .reportStatusChange _ _, _ | .post _, _ => w' = w

/-- **The node**: by itself the clocks advance and the registration comes and goes. -/
def node : Shared Role.Reply Node where
  serve n _ w := serve n w
  drift w w' := w.clock ≤ w'.clock ∧ w.wall ≤ w'.wall ∧
    w' = { w with clock := w'.clock, wall := w'.wall, registered := w'.registered }

end Greffer.Heartbeat

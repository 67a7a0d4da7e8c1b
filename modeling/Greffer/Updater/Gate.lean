import Greffer.Updater.Recreate

/-! # The health gate

After a recreate the stack has to answer ready, as the greffer it was, with every
container on its new image and running, before a deadline.
-/
namespace Greffer.Updater
open Effects

/-- The outcomes of the gate. -/
inductive GateOutcome where
  | ready | timeout | fatal | wrongId | notApplied | degradedOther | crashLoop
  deriving DecidableEq

/-- What the gate is asked. -/
structure GateRequest where
  grefferName : String
  grefferId : Option String
  appliedImageIds : List (String × Option String)
  checkVersion : Bool
  serviceNames : List String
  timeout : Rat

/-- `Readiness`, of a probe that was answered. -/
abbrev Readiness := ReadyzBody

/-- `parse_readyz`: `none` where the source has `ok=False`. -/
def parseReadyz (res : CommandResult (Option ReadyzBody)) : Option Readiness :=
  if res.ok then res.stdout else none

/-- `TOLERABLE_DEGRADED_REASONS`. -/
def tolerableDegradedReasons : List String := ["registration_pending"]

/-- Whether every container that has an expected image is on it. -/
def applied (appliedImageIds : List (String × Option String)) : List String → Step Bool
  | [] => return true
  | n :: rest =>
    match nonEmpty (appliedImageIds.lookup n).join with
    | none => applied appliedImageIds rest
    | some expected => do
      let actual ← containerImageIdByName n
      if actual ≠ some expected then
        return false
      applied appliedImageIds rest

/-- `all(container_running(n) for n in service_names)`. -/
def allRunning : List String → Step Bool
  | [] => return true
  | n :: rest => do
    if !(← containerRunning n) then
      return false
    allRunning rest

/-- Whether another greffer answered. -/
def answersAsAnother (req : GateRequest) (r : Readiness) : Bool :=
  match nonEmpty req.grefferId, nonEmpty r.id with
  | some expected, some actual => actual != expected
  | _, _ => false

/-- Whether every container is on its new image, if that is to be checked. -/
def onNewImages (req : GateRequest) : Step Bool :=
  if req.checkVersion then applied req.appliedImageIds req.serviceNames else return true

/-- What a greffer that answers ready decides, if anything. -/
def judgeReady (req : GateRequest) : Step (Option GateOutcome) := do
  if !(← onNewImages req) then
    return some .notApplied
  if ← allRunning req.serviceNames then
    return some .ready
  -- a sibling is not up yet
  return none

/-- What one answer of the greffer decides, if anything. -/
def judge (req : GateRequest) (r : Readiness) : Step (Option GateOutcome) :=
  if answersAsAnother req r then
    return some .wrongId
  else if r.status = some "fatal" then
    return some .fatal
  else if r.status = some "degraded" ∧
      r.reasons.any (fun x => !tolerableDegradedReasons.contains x) then
    return some .degradedOther
  else if r.status = some "ready" then
    judgeReady req
  else
    return none

/-- What one probe decides, if anything. -/
def judgeProbe (req : GateRequest) (probe : CommandResult (Option ReadyzBody)) :
    Step (Option GateOutcome) :=
  match parseReadyz probe with
  | some r => judge req r
  | none => return none

/-- The polls of the gate.  Each sleeps for two seconds, so the deadline is past after
as many as fit before it. -/
def pollGate (req : GateRequest) (deadline : Rat) (baseRestarts : Int) : Nat → Step GateOutcome
  | 0 => return .timeout
  | n + 1 => do
    if !decide ((← run .now) < deadline) then
      return .timeout
    let probe ← run (.execReadyz req.grefferName)
    match ← judgeProbe req probe with
    | some outcome => return outcome
    | none =>
      if (← restartCount req.grefferName) - baseRestarts > 1 then
        return .crashLoop
      run (.sleep 2)
      pollGate req deadline baseRestarts n

/-- `health_gate`. -/
def healthGate (req : GateRequest) : Step GateOutcome := do
  let start ← run .now
  let baseRestarts ← restartCount req.grefferName
  pollGate req (start + req.timeout) baseRestarts (req.timeout / 2).ceil.toNat

end Greffer.Updater

import Mathlib.Data.Rat.Floor
import Greffer.Effects.Within
import Greffer.Updater.Gate
import Greffer.Cli.Target
import Greffer.Cli.ImageLines

/-! # The local update

`runUpdate` resolves its target and checks it before it takes the host's update lock, reads the
version again once it holds the lock, and then rewrites the image tags of the compose file, pulls,
recreates and waits for the gate.  Until the gate has passed, a cleanup puts the old references
back, also when the process is told to terminate.

A signal arrives at a call, before or after it has done its work, or at one of the points between
two calls where it matters which of them it is (`Point`).  Python runs its handlers in the main
thread, so that the handler of a SIGTERM runs in place and raises from there (`handled`); where no
handler is installed the process is gone, and none of its calls does anything any more.
-/
namespace Greffer.Cli
open Effects
open Greffer.Updater (versionTuple isDowngradeTo CommandResult ReadyzBody Readiness GateOutcome
  parseReadyz tolerableDegradedReasons serviceRepo)

/-! ## What an update calls -/

/-- What ends a statement other than by its value. -/
inductive Interruption where
  | osError
  /-- Any other exception. -/
  | raised (text : String)
  /-- `KeyboardInterrupt`. -/
  | interrupt
  /-- A SIGTERM whose handler is about to run. -/
  | terminated
  | systemExit (code : Int)
  /-- A SIGTERM without a handler. -/
  | killed
  deriving DecidableEq

/-- What is printed, with what it is formatted with. -/
inductive Message where
  | badManifest
  | noTarget
  | check (current target available : String)
  | preflightNoId
  | preflightNoDataVolume
  | refusedBelowFloor (target : String) (minSupported : Option String)
  | refusedDowngrade (current : Option String) (target : String)
  | needsConfirmNoRollback (current target : String)
  | already (target : String)
  | inProgress (lockPath : String)
  | degradedLock
  | pullFailed (target : String)
  | updated (target : String)
  | gateFailed (reason : GateOutcome)
  | rolledBack
  | rollbackFailed

/-- The entries of `env.env` that an update reads. -/
structure EnvFile where
  grefferId : Option String := none
  grefferMode : Option String := none

/-- The points between two calls at which a signal may find the run. -/
inductive Point where
  /-- The image tags are rewritten, and no handler is installed yet. -/
  | rewritten
  /-- The `try` is about to be entered. -/
  | entering
  /-- The `finally` has been entered. -/
  | leaving
  deriving DecidableEq

/-- What an update calls. -/
inductive UpdateCall where
  | readEnv
  | composeServicesRunning (profile : Option String)
  | fetchManifest (url : String)
  | execGrefferVersion
  | dataVolumeIsNamed
  | containerImageId (service : String)
  | imageId (ref : String)
  | importFcntl
  | dataVolumeMountpoint
  | openLock (path : String)
  | flock
  | closeLock
  | sleep (seconds : Rat)
  /-- The rewriting of every image line to a tag, in one replacement of the file. -/
  | retag (target : String)
  | setImageRefs (refs : Refs)
  | installHandler
  | restoreHandler
  | composePull (profile : Option String) (services : List String)
  | composeUp (profile : Option String)
  | now
  | serviceContainerId (service : String)
  | restartCount (containerId : String)
  | healthz
  | readyz
  | report (m : Message)
  | point (p : Point)
  /-- The point at which the gate has returned. -/
  | gateReturned (outcome : GateOutcome)

/-- What each call returns. -/
@[reducible] def UpdateCall.Answer : UpdateCall → Type
  | .readEnv => EnvFile
  | .composeServicesRunning _ => List (String × Bool)
  | .fetchManifest _ => Option Manifest
  | .execGrefferVersion | .containerImageId _ | .imageId _ | .dataVolumeMountpoint
  | .serviceContainerId _ => Option String
  | .dataVolumeIsNamed => Bool
  -- whether the platform has it
  | .importFcntl => Bool
  | .retag _ => Refs
  -- whether there is a handler to restore
  | .installHandler => Bool
  | .composePull _ _ | .composeUp _ | .healthz => CommandResult Unit
  | .readyz => CommandResult (Option ReadyzBody)
  | .now => Rat
  | .restartCount _ => Int
  | .openLock _ | .flock | .closeLock | .sleep _ | .setImageRefs _ | .restoreHandler
  | .report _ | .point _ | .gateReturned _ => Unit

/-- Code of the update. -/
abbrev Step := Action UpdateCall.Answer Interruption

/-- Make one call. -/
abbrev run (c : UpdateCall) : Step c.Answer := Action.perform c

/-- `print`. -/
abbrev say (m : Message) : Step Unit := run (.report m)

/-- `EXIT_OK`. -/
def exitOk : Int := 0

/-- `EXIT_FAILED_ROLLED_BACK`. -/
def exitFailedRolledBack : Int := 1

/-- `EXIT_FAILED_ROLLBACK_FAILED`. -/
def exitFailedRollbackFailed : Int := 2

/-- `EXIT_PREFLIGHT_REFUSED`. -/
def exitPreflightRefused : Int := 3

/-- The arguments of `run_update`. -/
structure UpdateRequest where
  /-- The config directory. -/
  cfg : String
  target : Option String := none
  manifestUrl : String := "https://greffon.io/greffer-version.json"
  timeout : Rat := 600
  confirmNoRollback : Bool := false
  checkOnly : Bool := false

/-! ## Modes -/

/-- `active_services`. -/
def activeServices (mode : String) : List String :=
  if mode = "tunnel" then ["greffer", "nginx", "tunnel-sidecar"] else ["greffer", "nginx"]

/-- `profile_for_mode`. -/
def profileForMode (mode : String) : Option String :=
  if mode = "tunnel" then some "tunnel" else none

/-- `_resolve_mode`. -/
def resolveMode (env : EnvFile) : Step String :=
  match nonEmpty env.grefferMode with
  | some persisted => return persisted
  | none => do
    let running ← run (.composeServicesRunning (some "tunnel"))
    return if (running.lookup "tunnel-sidecar").isSome then "tunnel" else "proxy"

/-! ## The gate -/

/-- What the gate is asked. -/
structure GateRequest where
  grefferId : Option String
  target : String
  services : List String
  profile : Option String
  timeout : Rat
  appliedRef : Option String := none

/-- Whether two image ids were read and are the same. -/
def sameImage (running target : Option String) : Bool :=
  match nonEmpty running, nonEmpty target with
  | some running, some target => running == target
  | _, _ => false

/-- `GREFFER_REPO`, with a tag. -/
def grefferImage (tag : String) : String := "greffon/greffer:" ++ tag

/-- `_version_applied`. -/
def versionApplied (g : GateRequest) : Step Bool := do
  let running ← run (.containerImageId "greffer")
  let target ← run (.imageId ((nonEmpty g.appliedRef).getD (grefferImage g.target)))
  return sameImage running target

/-- `svcs and all(svcs.get(s, False) for s in services)`. -/
def allUp (services : List String) (svcs : List (String × Bool)) : Bool :=
  !svcs.isEmpty && services.all fun s => (svcs.lookup s).getD false

/-- Whether another greffer answered. -/
def answersAsAnother (grefferId : Option String) (r : Readiness) : Bool :=
  match nonEmpty grefferId, nonEmpty r.id with
  | some expected, some actual => actual != expected
  | _, _ => false

/-- What a greffer that answers ready decides, if anything. -/
def judgeReady (g : GateRequest) : Step (Option GateOutcome) := do
  if !(← versionApplied g) then
    return some .notApplied
  let svcs ← run (.composeServicesRunning g.profile)
  -- a sibling that is not up yet decides nothing
  return if allUp g.services svcs then some .ready else none

/-- What an answer of `/readyz` decides, if anything. -/
def judge (g : GateRequest) (r : Readiness) : Step (Option GateOutcome) :=
  if answersAsAnother g.grefferId r then
    return some .wrongId
  else if r.status = some "fatal" then
    return some .fatal
  else if r.status = some "degraded" ∧
      r.reasons.any (fun x => !tolerableDegradedReasons.contains x) then
    return some .degradedOther
  else if r.status = some "ready" then
    judgeReady g
  else
    return none

/-- What one probe decides, if anything. -/
def judgeProbe (g : GateRequest) : Step (Option GateOutcome) := do
  if !(← run .healthz).ok then
    return none
  match parseReadyz (← run .readyz) with
  | none => return none
  | some r => judge g r

/-- The restarts of the container, if there is one. -/
def restartsOf (cid : Option String) : Step Int :=
  match nonEmpty cid with
  | none => return 0
  | some cid => run (.restartCount cid)

/-- Whether the container restarted more than once since the gate began. -/
def crashLooping (cid : Option String) (baseRestarts : Int) : Step Bool :=
  match nonEmpty cid with
  | none => return false
  | some cid => do
    let restarts ← run (.restartCount cid)
    return decide (restarts - baseRestarts > 1)

/-- The polls of the gate.  Each sleeps for two seconds, so the deadline is past after as many as
fit before it. -/
def pollGate (g : GateRequest) (deadline : Rat) (cid : Option String) (baseRestarts : Int) :
    Nat → Step GateOutcome
  | 0 => return .timeout
  | n + 1 => do
    if !decide ((← run .now) < deadline) then
      return .timeout
    match ← judgeProbe g with
    | some outcome => return outcome
    | none =>
      if ← crashLooping cid baseRestarts then
        return .crashLoop
      run (.sleep 2)
      pollGate g deadline cid baseRestarts n

/-- As many polls as fit before a deadline. -/
def pollsWithin (timeout : Rat) : Nat := (timeout / 2).ceil.toNat

/-- `health_gate`. -/
def healthGate (g : GateRequest) : Step GateOutcome := do
  let start ← run .now
  let cid ← run (.serviceContainerId "greffer")
  let baseRestarts ← restartsOf cid
  pollGate g (start + g.timeout) cid baseRestarts (pollsWithin g.timeout)

/-! ## The rollback -/

/-- Whether a probe finds the old node ready, as the greffer it was. -/
def probeOld (g : GateRequest) : Step Bool := do
  if !(← run .healthz).ok then
    return false
  match parseReadyz (← run .readyz) with
  | none => return false
  | some r =>
    if r.status = some "ready" ∧ answersAsAnother g.grefferId r = false then
      let svcs ← run (.composeServicesRunning g.profile)
      return allUp g.services svcs
    else
      return false

/-- The loop of `_rollback_health`. -/
def pollRollback (g : GateRequest) (deadline : Rat) : Nat → Step Bool
  | 0 => return false
  | n + 1 => do
    if !decide ((← run .now) < deadline) then
      return false
    if ← probeOld g then
      return true
    run (.sleep 2)
    pollRollback g deadline n

/-- `_rollback_health`. -/
def rollbackHealth (g : GateRequest) : Step Bool := do
  let timeout := min g.timeout 120
  let start ← run .now
  pollRollback g (start + timeout) (pollsWithin timeout)

/-- `_rollback`. -/
def rollback (g : GateRequest) (oldRefs : Refs) : Step Int := do
  run (.setImageRefs oldRefs)
  let up ← run (.composeUp g.profile)
  if ← (if up.ok then rollbackHealth g else return false) then
    say .rolledBack
    return exitFailedRolledBack
  say .rollbackFailed
  return exitFailedRollbackFailed

/-! ## The lock -/

/-- What `_acquire_update_lock` returns, where it returns a lock. -/
inductive LockHandle where
  | file
  /-- `_NO_HOST_LOCK`. -/
  | noHostLock
  deriving DecidableEq

/-- The lock file of a directory. -/
def lockIn (dir : String) : String := dir ++ "/.update.lock"

/-- `_update_lock_path`. -/
def updateLockPath (cfg : String) : Step String := do
  let mountpoint ← run .dataVolumeMountpoint
  return lockIn ((nonEmpty mountpoint).getD cfg)

/-- `open(path, "w")`, where a file that cannot be opened is one way to go on. -/
def opens (path : String) : Step Bool :=
  Action.tryExcept (do run (.openLock path); return true) fun
    | .osError => return false
    | e => Action.raise e

/-- One `flock`, without waiting. -/
def flocks : Step Bool :=
  Action.tryExcept (do run .flock; return true) fun
    | .osError => return false
    | e => Action.raise e

/-- The attempts at the lock, so many of them left. -/
def retryLock : Nat → Step Bool
  | 0 => return false
  | n + 1 => do
    if ← flocks then
      return true
    if n ≠ 0 then
      run (.sleep (1 / 20))
    retryLock n

/-- Open the lock file, or the one of the config directory with a warning. -/
def openUpdateLock (cfg path : String) : Step Unit := do
  if ← opens path then
    if path = lockIn cfg then say .degradedLock else return
  else
    run (.openLock (lockIn cfg))
    say .degradedLock

/-- `_acquire_update_lock`. -/
def acquireUpdateLock (cfg : String) : Step (Option LockHandle) := do
  if !(← run .importFcntl) then
    return some .noHostLock
  let path ← updateLockPath cfg
  openUpdateLock cfg path
  if ← retryLock 20 then
    return some .file
  run .closeLock
  return none

/-- `_release_update_lock`. -/
def releaseUpdateLock : LockHandle → Step Unit
  | .noHostLock => return
  | .file => Action.tryExcept (run .closeLock) fun
    | .osError => return
    | e => Action.raise e

/-! ## The window -/

/-- `run_update`'s variables that its cleanup reads. -/
structure Locals where
  gatePassed : Bool := false

/-- Code of the window. -/
abbrev Task := Routine UpdateCall.Answer Interruption Locals

/-- `set_image_tag`. -/
def setImageTag (target : String) : Step Refs :=
  if isValidImageTag target then run (.retag target)
  else Action.raise (.raised ("refusing to write invalid image tag: " ++ target))

/-- `_disarm`. -/
def disarm (oldRefs : Refs) : Task Unit := do
  let l ← Routine.locals
  if !l.gatePassed then
    run (.setImageRefs oldRefs)

/-- `_on_sigterm`. -/
def onSigterm (oldRefs : Refs) {α : Type} : Task α := do
  disarm oldRefs
  let l ← Routine.locals
  Routine.raise (.systemExit (if l.gatePassed then exitOk else 143))

/-- Code during which the handler may run. -/
def handled (oldRefs : Refs) {α : Type} (m : Task α) : Task α :=
  m.tryExcept fun
    | .terminated => onSigterm oldRefs
    | e => Routine.raise e

/-- The services of `SERVICE_REPO`. -/
def publishedServices : List String := ["greffer", "nginx", "tunnel-sidecar"]

/-- The body of the inner `try`. -/
def attempt (g : GateRequest) (oldRefs : Refs) : Task Int := do
  let pull ← run (.composePull (some "tunnel") publishedServices)
  if !pull.ok then
    say (.pullFailed g.target)
    return exitFailedRolledBack
  let up ← run (.composeUp g.profile)
  if !up.ok then
    rollback g oldRefs
  else
    let outcome ← healthGate g
    run (.gateReturned outcome)
    if outcome = .ready then
      Routine.assign fun l => { l with gatePassed := true }
      say (.updated g.target)
      return exitOk
    say (.gateFailed outcome)
    rollback g oldRefs

/-- The inner `finally`. -/
def cleanup (oldRefs : Refs) (prev : Bool) : Task Unit := do
  run (.point .leaving)
  disarm oldRefs
  if prev then
    run .restoreHandler

/-- Rewrite, pull, recreate, gate. -/
def mutate (g : GateRequest) : Task Int := do
  let oldRefs ← setImageTag g.target
  run (.point .rewritten)
  let prev ← handled oldRefs do
    let prev ← run .installHandler
    run (.point .entering)
    return prev
  Routine.tryFinally (handled oldRefs (attempt g oldRefs)) (handled oldRefs (cleanup oldRefs prev))

/-! ## The update -/

/-- What a run has decided on before it takes the lock. -/
structure Plan where
  manifest : Option Manifest
  currentVersion : Option String
  gate : GateRequest

namespace Plan
variable (p : Plan)

/-- The target. -/
def target : String := p.gate.target

/-- The answer of `--check`. -/
def available : String :=
  if belowFloor (some p.target) (floorOf p.manifest) = some true then
    "no — target is BELOW the supported floor " ++ (floorOf p.manifest).getD ""
  else if isDowngradeTo p.currentVersion (some p.target) = some true then
    "no — target is OLDER than current"
  else if p.currentVersion.isSome ∧ p.currentVersion ≠ some p.target then "yes"
  else "no/unknown"

/-- Whether the pair of versions needs a confirmation that was not given. -/
def unconfirmed (confirmNoRollback : Bool) (current : Option String) : Bool :=
  noRollbackBlocked p.manifest current p.target != some false && !confirmNoRollback

/-- The message of an unconfirmed pair. -/
def needsConfirm (current : Option String) : Message :=
  .needsConfirmNoRollback ((nonEmpty current).getD "unknown") p.target

end Plan

/-- The pre-flight: the code it ends with, if it ends there. -/
def preflight (req : UpdateRequest) (p : Plan) : Step (Option Int) := do
  if nonEmpty p.gate.grefferId = none then
    say .preflightNoId
    return some exitPreflightRefused
  if !(← run .dataVolumeIsNamed) then
    say .preflightNoDataVolume
    return some exitPreflightRefused
  if belowFloor (some p.target) (floorOf p.manifest) = some true then
    say (.refusedBelowFloor p.target (floorOf p.manifest))
    return some exitPreflightRefused
  if isDowngradeTo p.currentVersion (some p.target) = some true ∧ req.target = none then
    say (.refusedDowngrade p.currentVersion p.target)
    return some exitPreflightRefused
  if p.unconfirmed req.confirmNoRollback p.currentVersion then
    say (p.needsConfirm p.currentVersion)
    return some exitPreflightRefused
  let running ← run (.containerImageId "greffer")
  let target ← run (.imageId (grefferImage p.target))
  if sameImage running target then
    say (.already p.target)
    return some exitOk
  return none

/-- The check of a version that has moved: the code it ends with, if it ends there. -/
def recheck (req : UpdateRequest) (p : Plan) (locked : Option String) : Step (Option Int) := do
  if locked = p.currentVersion then
    return none
  if isDowngradeTo locked (some p.target) = some true ∧ req.target = none then
    say (.refusedDowngrade locked p.target)
    return some exitPreflightRefused
  if p.unconfirmed req.confirmNoRollback locked then
    say (p.needsConfirm locked)
    return some exitPreflightRefused
  return none

/-- The section under the lock. -/
def underLock (req : UpdateRequest) (p : Plan) : Task Int := do
  let locked ← run .execGrefferVersion
  match ← recheck req p locked with
  | some code => return code
  | none => mutate p.gate

/-- From the pre-flight on. -/
def carryOut (req : UpdateRequest) (p : Plan) : Task Int := do
  match ← preflight req p with
  | some code => return code
  | none =>
    match ← acquireUpdateLock req.cfg with
    | none => do
      let lockPath ← updateLockPath req.cfg
      say (.inProgress lockPath)
      return exitPreflightRefused
    | some lock => Routine.tryFinally (underLock req p) (releaseUpdateLock lock)

/-- The target, once it is resolved. -/
def withTarget (req : UpdateRequest) (env : EnvFile) (mode : String) (manifest : Option Manifest)
    (currentVersion : Option String) (target : String) : Task Int := do
  let p : Plan :=
    { manifest, currentVersion
      gate :=
        { grefferId := env.grefferId, target
          services := activeServices mode
          profile := profileForMode mode
          timeout := req.timeout } }
  if req.checkOnly then
    say (.check ((nonEmpty currentVersion).getD "unknown") target p.available)
    return exitOk
  carryOut req p

/-- `run_update`, before its variables are set. -/
def updateTask (req : UpdateRequest) : Task Int := do
  let env ← run .readEnv
  let mode ← resolveMode env
  let manifest ← run (.fetchManifest req.manifestUrl)
  let currentVersion ← run .execGrefferVersion
  match resolveTarget req.target manifest with
  | none => do
    say (if manifest.isSome ∧ req.target = none then .badManifest else .noTarget)
    return exitPreflightRefused
  | some target => withTarget req env mode manifest currentVersion target

/-- `run_update`. -/
def runUpdate (req : UpdateRequest) : Step Int := (updateTask req).run {}

/-! ## What the blocks call -/

/-- Calls that only look, wait, print or open the lock file. -/
def Observing : UpdateCall → Prop
  | .readEnv | .composeServicesRunning _ | .dataVolumeIsNamed | .containerImageId _ | .imageId _
  | .importFcntl | .dataVolumeMountpoint | .openLock _ | .sleep _ | .now | .serviceContainerId _
  | .restartCount _ | .healthz | .readyz | .report _ => True
  | _ => False

section Blocks
variable (g : GateRequest) {P : Interruption → Prop}

theorem resolveMode_observes (env : EnvFile) : (resolveMode env).Within Observing P := by
  unfold resolveMode
  split
  · exact Action.within_pure _
  · exact (Action.within_perform trivial).bind fun _ => Action.within_pure _

theorem versionApplied_observes : (versionApplied g).Within Observing P :=
  (Action.within_perform trivial).bind fun _ =>
    (Action.within_perform trivial).bind fun _ => Action.within_pure _

theorem judge_observes (r : Readiness) : (judge g r).Within Observing P := by
  unfold judge
  split
  · exact Action.within_pure _
  split
  · exact Action.within_pure _
  split
  · exact Action.within_pure _
  split
  · refine (versionApplied_observes g).bind fun applied => ?_
    split
    · exact Action.within_pure _
    · exact (Action.within_perform trivial).bind fun _ => Action.within_pure _
  · exact Action.within_pure _

theorem judgeProbe_observes : (judgeProbe g).Within Observing P := by
  refine (Action.within_perform trivial).bind fun live => ?_
  split
  · exact Action.within_pure _
  · refine (Action.within_perform trivial).bind fun probe => ?_
    split
    · exact Action.within_pure _
    · exact judge_observes g _

theorem crashLooping_observes (cid : Option String) (base : Int) :
    (crashLooping cid base).Within Observing P := by
  unfold crashLooping
  split
  · exact Action.within_pure _
  · exact (Action.within_perform trivial).bind fun _ => Action.within_pure _

theorem pollGate_observes (deadline : Rat) (cid : Option String) (base : Int) (n : Nat) :
    (pollGate g deadline cid base n).Within Observing P := by
  induction n with
  | zero => exact Action.within_pure _
  | succ n ih =>
    refine (Action.within_perform trivial).bind fun now => ?_
    split
    · exact Action.within_pure _
    · refine (judgeProbe_observes g).bind fun verdict => ?_
      cases verdict with
      | some outcome => exact Action.within_pure _
      | none =>
        refine (crashLooping_observes cid base).bind fun looping => ?_
        split
        · exact Action.within_pure _
        · exact (Action.within_perform trivial).bind fun _ => ih

theorem healthGate_observes : (healthGate g).Within Observing P := by
  refine (Action.within_perform trivial).bind fun start => ?_
  refine (Action.within_perform trivial).bind fun cid => ?_
  refine Action.Within.bind ?_ fun base => pollGate_observes g _ _ _ _
  unfold restartsOf
  split
  · exact Action.within_pure _
  · exact Action.within_perform trivial

theorem probeOld_observes : (probeOld g).Within Observing P := by
  refine (Action.within_perform trivial).bind fun live => ?_
  split
  · exact Action.within_pure _
  · refine (Action.within_perform trivial).bind fun probe => ?_
    split
    · exact Action.within_pure _
    · split
      · exact (Action.within_perform trivial).bind fun _ => Action.within_pure _
      · exact Action.within_pure _

theorem pollRollback_observes (deadline : Rat) (n : Nat) :
    (pollRollback g deadline n).Within Observing P := by
  induction n with
  | zero => exact Action.within_pure _
  | succ n ih =>
    refine (Action.within_perform trivial).bind fun now => ?_
    split
    · exact Action.within_pure _
    · refine (probeOld_observes g).bind fun healthy => ?_
      split
      · exact Action.within_pure _
      · exact (Action.within_perform trivial).bind fun _ => ih

theorem rollbackHealth_observes : (rollbackHealth g).Within Observing P :=
  (Action.within_perform trivial).bind fun _ => pollRollback_observes g _ _

theorem updateLockPath_observes (cfg : String) : (updateLockPath cfg).Within Observing P :=
  (Action.within_perform trivial).bind fun _ => Action.within_pure _

theorem opens_observes (path : String) : (opens path).Within Observing P := by
  refine Action.Within.tryExcept ((Action.within_perform trivial).bind fun _ => Action.within_pure _) ?_
  intro e he
  cases e with
  | osError => exact Action.within_pure _
  | _ => exact Action.within_raise he

theorem preflight_observes (req : UpdateRequest) (p : Plan) :
    (preflight req p).Within Observing P := by
  have hrefuse (m : Message) (code : Int) :
      (do say m; return some code : Step (Option Int)).Within Observing P :=
    (Action.within_perform trivial).bind fun _ => Action.within_pure _
  unfold preflight
  split
  · exact hrefuse _ _
  refine (Action.within_perform trivial).bind fun named => ?_
  split
  · exact hrefuse _ _
  split
  · exact hrefuse _ _
  split
  · exact hrefuse _ _
  split
  · exact hrefuse _ _
  refine (Action.within_perform trivial).bind fun running => ?_
  refine (Action.within_perform trivial).bind fun target => ?_
  split
  · exact hrefuse _ _
  · exact Action.within_pure _

theorem recheck_observes (req : UpdateRequest) (p : Plan) (locked : Option String) :
    (recheck req p locked).Within Observing P := by
  have hrefuse (m : Message) (code : Int) :
      (do say m; return some code : Step (Option Int)).Within Observing P :=
    (Action.within_perform trivial).bind fun _ => Action.within_pure _
  unfold recheck
  split
  · exact Action.within_pure _
  split
  · exact hrefuse _ _
  split
  · exact hrefuse _ _
  · exact Action.within_pure _

/-- The blocks that take and release the lock make its calls besides. -/
theorem retryLock_within {ok : UpdateCall → Prop} (hobserve : ∀ c, Observing c → ok c)
    (hflock : ok .flock) (n : Nat) : (retryLock n).Within ok P := by
  induction n with
  | zero => exact Action.within_pure _
  | succ n ih =>
    have hflocks : flocks.Within ok P := by
      refine Action.Within.tryExcept ((Action.within_perform hflock).bind fun _ => Action.within_pure _) ?_
      intro e he
      cases e with
      | osError => exact Action.within_pure _
      | _ => exact Action.within_raise he
    refine hflocks.bind fun locked => ?_
    split
    · exact Action.within_pure _
    · split
      · exact (Action.within_perform (hobserve (.sleep (1 / 20)) trivial)).bind fun _ => ih
      · exact ih

theorem openUpdateLock_observes (cfg path : String) : (openUpdateLock cfg path).Within Observing P := by
  refine (opens_observes path).bind fun opened => ?_
  split
  · split
    · exact Action.within_perform trivial
    · exact Action.within_pure _
  · exact (Action.within_perform trivial).bind fun _ => Action.within_perform trivial

theorem acquireUpdateLock_within {ok : UpdateCall → Prop} (hobserve : ∀ c, Observing c → ok c)
    (hflock : ok .flock) (hclose : ok .closeLock) (cfg : String) :
    (acquireUpdateLock cfg).Within ok P := by
  refine (Action.within_perform (hobserve .importFcntl trivial)).bind fun present => ?_
  split
  · exact Action.within_pure _
  refine ((updateLockPath_observes cfg).mono hobserve).bind fun path => ?_
  refine ((openUpdateLock_observes cfg path).mono hobserve).bind fun _ => ?_
  refine (retryLock_within hobserve hflock 20).bind fun locked => ?_
  split
  · exact Action.within_pure _
  · exact (Action.within_perform hclose).bind fun _ => Action.within_pure _

theorem releaseUpdateLock_within {ok : UpdateCall → Prop} (hclose : ok .closeLock)
    (lock : LockHandle) : (releaseUpdateLock lock).Within ok P := by
  cases lock with
  | noHostLock => exact Action.within_pure _
  | file =>
    refine Action.Within.tryExcept (Action.within_perform hclose) ?_
    intro e he
    cases e with
    | osError => exact Action.within_pure _
    | _ => exact Action.within_raise he

end Blocks

end Greffer.Cli

import Greffer.Backup.BackupJob

/-! # The restore job

`restoreInstance` stops a running instance, takes a safety snapshot of all its
volumes, leaves a durable pointer to it, and only then overwrites the data
volumes.  With database artifacts in the manifest it also starts the database
services, feeds each its dump, and leaves the instance running.

The blocks of the job are functions that say whether to go on; a block that ends
the job (a `return` in the source) has assigned the payload it ends with.
-/
namespace Greffer.Backup
open Effects Docker

/-- What the restore job assigns. -/
structure RestoreLocals where
  payload : RestorePayload
  safetyId : String := ""
  overwriteStarted : Bool := false
  dbStarted : Bool := false

/-- Code of the restore job. -/
abbrev RestoreSteps := Routine Answer JobError RestoreLocals

namespace RestoreLocals

/-- `payload["error_code"] = code`. -/
def fail (code : ErrorCode) (l : RestoreLocals) : RestoreLocals :=
  { l with payload := { l.payload with errorCode := some code } }

/-- The payload of a failure after the safety snapshot. -/
def failWithSafety (code : ErrorCode) (l : RestoreLocals) : RestoreLocals :=
  { l with payload :=
    { restoreId := l.payload.restoreId, status := .failed, errorCode := some code,
      safetyResticSnapshotId := some l.safetyId } }

/-- The payload of a success. -/
def succeed (alreadyRunning : Bool) (l : RestoreLocals) : RestoreLocals :=
  { l with payload :=
    { restoreId := l.payload.restoreId, status := .success,
      safetyResticSnapshotId := some l.safetyId, alreadyRunning := alreadyRunning } }

/-- `payload["safety_restic_snapshot_id"] = safety_id`. -/
def nameSafety (l : RestoreLocals) : RestoreLocals :=
  { l with payload := { l.payload with safetyResticSnapshotId := some l.safetyId } }

end RestoreLocals

/-- The database artifacts of a manifest: service and snapshot. -/
def dbArtifacts (manifest : Option (List (String × String))) : List (String × String) :=
  (manifest.getD []).filterMap fun e =>
    if startsWith e.1 "db:" then some (String.ofList (e.1.toList.drop 3), e.2) else none

/-! ## Database services -/

/-- One look of `_wait_db_healthy`. -/
def dbHealthy (service : String) (listed : List Container) : Bool :=
  match listed.find? fun c => c.label serviceLabel == some service with
  | some c => c.health == some "healthy"
  | none => false

/-- The polls of `_wait_db_healthy`, each of which sleeps for two seconds. -/
def pollHealthy (instanceId service : String) : Nat → Job Bool
  | 0 => return false
  | n + 1 => do
    if !(← call .beforeDeadline) then
      return false
    let listed ← call (.listInstanceContainers instanceId)
    if dbHealthy service listed then
      return true
    call .sleep
    pollHealthy instanceId service n

/-- `_wait_db_healthy`, with its timeout of 180 seconds. -/
def waitDbHealthy (instanceId service : String) : Job Bool := pollHealthy instanceId service 90

/-- `_restore_hook_for_service`. -/
def restoreHookForService (instanceId service : String) : Job (Option (String × List String)) := do
  let listed ← call (.listInstanceContainers instanceId)
  match listed.find? fun c => c.label serviceLabel == some service with
  | none => return none
  | some c =>
    match c.isRunning, present (c.label "com.greffon.backup.restore") with
    | true, some command =>
      let argv ← hookArgv command
      return some (c.id, argv)
    | _, _ => return none

/-- `_db_volumes_from_containers`. -/
def dbVolumesFromContainers (instanceId : String) (services : List String) :
    Job (List String) := do
  let listed ← call (.listInstanceContainers instanceId)
  return (listed.filter fun c => services.any fun s => c.label serviceLabel == some s).flatMap
    Container.volumeMounts

/-- `_restore_database`: `restic dump` into the restore command. -/
def restoreDatabase (settings : Settings) (containerId : String) (restoreArgv : List String)
    (snapshot dumpFilename : String) : Job Unit := do
  let env ← Action.ofExcept (resticEnv settings)
  let (consumed, produced) ← pipe (.restic ⟨env, .dump snapshot dumpFilename, [], false⟩)
    (.dockerExec containerId restoreArgv true)
  if produced.returncode ≠ 0 then
    Action.raise (.backup .restoreDumpFailed)
  if consumed.returncode ≠ 0 then
    Action.raise (.backup .restoreFailed)

/-! ## The blocks of the job -/

/-- The request: what to restore, and where from. -/
structure RestoreRequest where
  settings : Settings
  instanceId : String
  resticSnapshotId : String
  restoreId : String
  manifest : Option (List (String × String))
  volumeClasses : Option (List (String × String))

namespace RestoreRequest
variable (req : RestoreRequest)

/-- The database artifacts to restore. -/
def artifacts : List (String × String) := dbArtifacts req.manifest

/-- The durable state file. -/
def stateFile : FileRef := .restoreState req.instanceId req.restoreId

/-- Stop a running instance and wait until it rests. -/
def quiesce (startedStopped : Bool) : RestoreSteps Bool := do
  if !startedStopped then
    return true
  call (.composeStop req.instanceId)
  if ← waitStopped req.instanceId req.settings.backupStopTimeoutSeconds then
    return true
  Routine.assign (RestoreLocals.fail .stopTimeout)
  return false

/-- Without the class map a database volume cannot be told from a data volume. -/
def unclassified : Bool :=
  !req.artifacts.isEmpty && (req.volumeClasses.getD []).isEmpty

/-- The safety snapshot, and the durable pointer to it. -/
def takeSafety (safetyMounts : List Mount) : RestoreSteps Bool := do
  let ended ← runRestic req.settings (.backup (safetyTag req.instanceId)) safetyMounts true
  if ended.returncode ≠ 0 then
    Routine.assign (RestoreLocals.fail .safetySnapshotFailed)
    return false
  let (safetyId, _) ← (Action.ofExcept (parseSummary ended.stdout) : Job (String × Option Int))
  Routine.assign fun l => { l with safetyId := safetyId }
  writeJson req.stateFile (.state
    { restoreId := req.restoreId, status := .overwriting,
      safetyResticSnapshotId := some safetyId })
  return true

/-- The volumes to overwrite: with database artifacts the data-class ones, after
the guard against a database volume among them. -/
def dataMounts (safetyMounts : List Mount) : RestoreSteps (Option (List Mount)) := do
  if req.artifacts.isEmpty then
    return some safetyMounts
  let mounts ← hotBackupMounts req.settings req.instanceId (req.volumeClasses.getD [])
  let dbVols ← dbVolumesFromContainers req.instanceId (req.artifacts.map Prod.fst)
  if mounts.any fun m => dbVols.contains m.1 then
    Routine.assign (RestoreLocals.failWithSafety .dbVolumeMisclassified)
    return none
  return some mounts

/-- The snapshot the data volumes come from. -/
def dataSnapshot : String :=
  (present (((req.manifest.getD []).find? fun e => e.1 == "data").map Prod.snd)).getD
    req.resticSnapshotId

/-- The irreversible overwrite. -/
def overwriteData (mounts : List Mount) : RestoreSteps Bool := do
  if mounts.isEmpty then
    return true
  let ended ← runRestic req.settings (.restore req.dataSnapshot) mounts false
  if ended.returncode ≠ 0 then
    Routine.assign (RestoreLocals.failWithSafety (restoreClassify ended.stderr))
    return false
  return true

/-- The dumps, one service after the other. -/
def restoreDumps : List (String × String) → RestoreSteps Bool
  | [] => return true
  | (service, snapshot) :: rest => do
    if !(← waitDbHealthy req.instanceId service) then
      Routine.assign (RestoreLocals.failWithSafety .dbNotReady)
      return false
    match ← restoreHookForService req.instanceId service with
    | none =>
      Routine.assign (RestoreLocals.failWithSafety .noRestoreHook)
      return false
    | some (containerId, restoreArgv) =>
      restoreDatabase req.settings containerId restoreArgv snapshot
        (req.instanceId ++ "/" ++ service ++ ".dump")
      restoreDumps rest

/-- The database services, if there are artifacts, and then the whole instance. -/
def restoreDatabases : RestoreSteps Bool := do
  if req.artifacts.isEmpty then
    Routine.assign (RestoreLocals.succeed false)
    return true
  -- assigned before the start, which may create containers even if it fails
  Routine.assign fun l => { l with dbStarted := true }
  startServices req.instanceId (req.artifacts.map Prod.fst)
  if !(← req.restoreDumps req.artifacts) then
    return false
  restart req.instanceId
  Routine.assign (RestoreLocals.succeed true)
  return true

/-- The overwrite, from the first destructive command to the result. -/
def overwrite (safetyMounts : List Mount) : RestoreSteps Unit := do
  Routine.assign fun l => { l with overwriteStarted := true }
  match ← req.dataMounts safetyMounts with
  | none => return ()
  | some mounts =>
    if !(← req.overwriteData mounts) then
      return ()
    if ← req.restoreDatabases then
      forget req.settings req.instanceId true

/-- The `try` block of `restore_instance`. -/
def body (startedStopped : Bool) : RestoreSteps Unit := do
  if !(← req.quiesce startedStopped) then
    return ()
  ensureRepo req.settings
  if req.unclassified then
    Routine.assign (RestoreLocals.fail .volumeUnclassified)
    return ()
  let safetyMounts ← backupMounts req.settings req.instanceId
  if ← req.takeSafety safetyMounts then
    req.overwrite safetyMounts

/-- The `except` clauses of `restore_instance`. -/
def handler : JobError → RestoreSteps Unit
  | .backup code => Routine.assign fun l => (l.fail code).nameSafety
  | _ => Routine.assign RestoreLocals.nameSafety

/-- The teardown of a database restore that failed: stop, and wait. -/
def teardown : Job Unit := do
  call (.composeStop req.instanceId)
  call (.trackComposeChild req.instanceId)
  let _ ← waitStopped req.instanceId req.settings.backupStopTimeoutSeconds true

/-- The `finally` of `restore_instance`, up to the durable state. -/
def cleanup (startedStopped : Bool) : RestoreSteps Unit := do
  let l ← Routine.locals
  if startedStopped && !l.overwriteStarted && l.payload.status != .success then
    let _ ← ((restart req.instanceId).outcome : Job (Except JobError Unit))
  else if l.dbStarted && l.payload.status != .success then
    let _ ← (req.teardown.outcome : Job (Except JobError Unit))
  writeJson req.stateFile (.state l.payload)

/-- The end of `restore_instance`: the hand-off, the lock, the callback. -/
def report (releaseLock : Bool) : RestoreSteps Unit := do
  let l ← Routine.locals
  if l.payload.status = .success ∧ l.payload.alreadyRunning = false then
    call (.reserveHandoff req.instanceId)
  if releaseLock then
    call .releaseLock
  if ← postCallback req.settings req.instanceId (.restore l.payload) then
    remove req.stateFile

end RestoreRequest

/-- `restore_instance`. -/
def restoreInstance (settings : Settings) (instanceId resticSnapshotId restoreId : String)
    (destination : Option Destination) (manifest volumeClasses : Option (List (String × String)))
    (releaseLock : Bool) : RestoreSteps Unit := do
  let req : RestoreRequest :=
    ⟨effectiveSettings settings destination instanceId, instanceId, resticSnapshotId, restoreId,
      manifest, volumeClasses⟩
  Routine.assign fun _ => { payload :=
    { restoreId := restoreId, status := .failed, errorCode := some .restoreFailed } }
  let st ← getStatus instanceId
  let startedStopped := st.status == .running
  Routine.tryFinally (Routine.tryExcept (req.body startedStopped) RestoreRequest.handler)
    (do
      req.cleanup startedStopped
      req.report releaseLock)

end Greffer.Backup

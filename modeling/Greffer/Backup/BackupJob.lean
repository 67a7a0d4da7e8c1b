import Greffer.Backup.Calls

/-! # The backup job

`backupInstance` is cold by default (stop, snapshot, start again) and hot when it
is given the manager's volume classes (no stop: the data-class volumes as one
snapshot, each database as a dump piped into restic).

The variables the job assigns are `BackupLocals`; what its handlers and its
`finally` see is what they were when the failing statement left them.
-/
namespace Greffer.Backup
open Effects Docker

/-! ## Pipes -/

/-- Wait for a killed child, but not for long. -/
def reap (child : Child) : Job Unit :=
  Action.tryExcept (do
      let _ ← call (.await child))
    fun
    | .raised (.timeoutExpired _) => return ()
    | e => Action.raise e

/-- A pipe that is given up: on a timeout both ends are killed, and waited for briefly. -/
def abandon {α : Type} (producer consumer : Child) : JobError → Job α
  | .raised (.timeoutExpired _) => do
    call (.kill producer)
    call (.kill consumer)
    reap producer
    reap consumer
    Action.raise (.backup .timeout)
  | e => Action.raise e

/-- `producer | consumer`: how the consumer and the producer ended.  Both waits are
bounded. -/
def pipe (producer consumer : Child) : Job (Ended × Ended) := do
  call (.start producer)
  call (.start consumer)
  Action.tryExcept (do
      let consumed ← call (.await consumer)
      let produced ← call (.await producer)
      return (consumed, produced))
    (abandon producer consumer)

/-- `_dump_and_backup`: the dump command's output into `restic backup --stdin`. -/
def dumpAndBackup (settings : Settings) (instanceId containerId : String)
    (dumpArgv : List String) (stdinFilename : String) : Job (String × Int) := do
  let env ← Action.ofExcept (resticEnv settings)
  let restic := ResticCommand.backupStdin stdinFilename (instanceTag instanceId)
  let (consumed, produced) ←
    pipe (.dockerExec containerId dumpArgv false) (.restic ⟨env, restic, [], false⟩)
  -- the producer gates first: restic exits 0 on a truncated stream
  if produced.returncode ≠ 0 then
    Action.raise (.backup .dumpFailed)
  if consumed.returncode ≠ 0 then
    Action.raise (.backup (classify consumed.stderr))
  let (snapshotId, bytesAdded) ← Action.ofExcept (parseSummary consumed.stdout)
  match bytesAdded with
  | none => Action.raise (.backup .dumpEmpty)
  | some bytes =>
    if bytes = 0 then
      Action.raise (.backup .dumpEmpty)
    return (snapshotId, bytes)

/-! ## Hot backups -/

/-- A dump hook: its service, its container, its command line. -/
structure Hook where
  service : String
  containerId : String
  argv : List String

/-- The loop of `_dump_hooks`. -/
def dumpHooksOf : List Container → Job (List Hook)
  | [] => return []
  | c :: rest => do
    match c.isRunning, present (c.label "com.greffon.backup.dump") with
    | true, some command =>
      let argv ← hookArgv command
      let hooks ← dumpHooksOf rest
      return ⟨c.serviceName, c.id, argv⟩ :: hooks
    | _, _ => dumpHooksOf rest

/-- `_dump_hooks`: one for each running container that declares one. -/
def dumpHooks (instanceId : String) : Job (List Hook) := do
  let listed ← call (.listInstanceContainers instanceId)
  dumpHooksOf listed

/-- `manifest[key] = value`. -/
def setArtifact (manifest : List (String × String)) (key value : String) :
    List (String × String) :=
  if manifest.any fun e => e.1 == key then
    manifest.map fun e => if e.1 = key then (key, value) else e
  else manifest ++ [(key, value)]

/-- The dumps of `_run_hot_backup`. -/
def dumpAll (settings : Settings) (instanceId : String) :
    List Hook → List (String × String) → Int → Job (List (String × String) × Int)
  | [], manifest, total => return (manifest, total)
  | hook :: rest, manifest, total => do
    let (snapshotId, bytes) ← dumpAndBackup settings instanceId hook.containerId hook.argv
      (instanceId ++ "/" ++ hook.service ++ ".dump")
    dumpAll settings instanceId rest (setArtifact manifest ("db:" ++ hook.service) snapshotId)
      (total + bytes)

/-- `restic backup /data`, of a job that fails with it. -/
def snapshotData (settings : Settings) (instanceId : String) (mounts : List Mount) :
    Job (String × Option Int) := do
  let ended ← runRestic settings (.backup (instanceTag instanceId)) mounts true
  if ended.returncode ≠ 0 then
    Action.raise (.backup (classify ended.stderr))
  Action.ofExcept (parseSummary ended.stdout)

/-- The database volumes of a class map. -/
def databaseVolumes (volumeClasses : List (String × String)) : List (String × String) :=
  volumeClasses.filter fun e => e.2 == "database"

/-- The hooks of a hot backup, reconciled with the database volumes: one volume is
dumped by exactly one hook, and anything else is refused. -/
def hotHooks (instanceId : String) (volumeClasses : List (String × String)) : Job (List Hook) := do
  if (databaseVolumes volumeClasses).isEmpty then
    return []
  let hooks ← dumpHooks instanceId
  if (databaseVolumes volumeClasses).length > 1 || hooks.length > 1 then
    Action.raise (.backup .multipleDatabaseUnsupported)
  else if hooks.isEmpty then
    Action.raise (.backup .noDumpHook)
  else
    return hooks

/-- The data snapshot of a hot backup, if there is anything to snapshot. -/
def hotData (settings : Settings) (instanceId : String) (mounts : List Mount) :
    Job (List (String × String) × Int) := do
  if mounts.isEmpty then
    return ([], 0)
  let (snapshotId, bytes) ← snapshotData settings instanceId mounts
  return ([("data", snapshotId)], bytes.getD 0)

/-- The payload of a hot backup: the data snapshot is the primary one. -/
def hotPayload (backupId : String) (manifest : List (String × String)) (total : Int) :
    BackupPayload where
  backupId := backupId
  status := .success
  snapshotId := (present ((manifest.find? fun e => e.1 == "data").map Prod.snd)).or
    (manifest.head?.map Prod.snd)
  bytesAdded := some total
  manifest := some manifest

/-- `_run_hot_backup`. -/
def runHotBackup (settings : Settings) (instanceId backupId : String)
    (volumeClasses : List (String × String)) : Job BackupPayload := do
  let mounts ← hotBackupMounts settings instanceId volumeClasses
  if mounts.isEmpty && (databaseVolumes volumeClasses).isEmpty then
    Action.raise (.backup .noDataVolumes)
  else
    let hooks ← hotHooks instanceId volumeClasses
    ensureRepo settings
    let (manifest, total) ← hotData settings instanceId mounts
    let (manifest, total) ← dumpAll settings instanceId hooks manifest total
    return hotPayload backupId manifest total

/-! ## The job -/

/-- What the backup job assigns. -/
structure BackupLocals where
  payload : BackupPayload
  stoppedForBackup : Bool := false

/-- Code of the backup job. -/
abbrev BackupSteps := Routine Answer JobError BackupLocals

/-- `payload["error_code"] = code`. -/
def BackupLocals.fail (code : ErrorCode) (l : BackupLocals) : BackupLocals :=
  { l with payload := { l.payload with errorCode := some code } }

/-- The cold snapshot, once nothing runs. -/
def coldSnapshot (settings : Settings) (instanceId backupId : String) : BackupSteps Unit := do
  let mounts ← backupMounts settings instanceId
  ensureRepo settings
  let ended ← runRestic settings (.backup (instanceTag instanceId)) mounts true
  if ended.returncode ≠ 0 then
    Routine.assign (BackupLocals.fail (classify ended.stderr))
  else
    let (snapshotId, bytesAdded) ←
      (Action.ofExcept (parseSummary ended.stdout) : Job (String × Option Int))
    Routine.assign fun l => { l with payload :=
      { backupId := backupId, status := .success, snapshotId := some snapshotId,
        bytesAdded := bytesAdded } }

/-- The `try` block of `backup_instance`. -/
def backupBody (settings : Settings) (instanceId backupId : String)
    (volumeClasses : Option (List (String × String))) (wasRunning : Bool) : BackupSteps Unit := do
  let st ← getStatus instanceId
  if st.status == .unknow then
    Routine.assign (BackupLocals.fail .instanceMissing)
  else if !(volumeClasses.getD []).isEmpty then
    let payload ← runHotBackup settings instanceId backupId (volumeClasses.getD [])
    Routine.assign fun l => { l with payload := payload }
  else if wasRunning then
    -- a crash before the restart below is repaired at the next boot
    writeJson (.backupMarker instanceId) (.marker backupId)
    call (.composeStop instanceId)
    Routine.assign fun l => { l with stoppedForBackup := true }
    if ← waitStopped instanceId settings.backupStopTimeoutSeconds then
      coldSnapshot settings instanceId backupId
    else
      Routine.assign (BackupLocals.fail .stopTimeout)
  else
    coldSnapshot settings instanceId backupId

/-- The `except` clauses of `backup_instance`. -/
def backupHandler : JobError → BackupSteps Unit
  | .backup code => Routine.assign (BackupLocals.fail code)
  | _ => Routine.assign (BackupLocals.fail .snapshotFailed)

/-- The `finally` of `backup_instance`, up to the release of the lock. -/
def backupCleanup (settings : Settings) (instanceId : String) (destination : Option Destination) :
    BackupSteps Unit := do
  let l ← Routine.locals
  if l.stoppedForBackup then
    let _ ← ((restart instanceId).outcome : Job (Except JobError Unit))
  remove (.backupMarker instanceId)
  if l.payload.status = .success then
    forget settings instanceId false
    if destination.isSome then
      match ← repoStats settings with
      | some bytes => Routine.assign fun l =>
          { l with payload := { l.payload with repoBytes := some bytes } }
      | none => pure ()

/-- What follows the restart in `backupCleanup`: the marker, and retention. -/
def backupRetain (settings : Settings) (instanceId : String) (destination : Option Destination)
    (l : BackupLocals) : BackupSteps Unit := do
  remove (.backupMarker instanceId)
  if l.payload.status = .success then
    forget settings instanceId false
    if destination.isSome then
      match ← repoStats settings with
      | some bytes => Routine.assign fun l =>
          { l with payload := { l.payload with repoBytes := some bytes } }
      | none => pure ()

theorem backupCleanup_eq (settings : Settings) (instanceId : String)
    (destination : Option Destination) :
    backupCleanup settings instanceId destination = (do
      let l ← Routine.locals
      if l.stoppedForBackup then
        let _ ← ((restart instanceId).outcome : Job (Except JobError Unit))
        backupRetain settings instanceId destination l
      else
        backupRetain settings instanceId destination l) := rfl

/-- The end of `backup_instance`: the lock, then the callback. -/
def backupReport (settings : Settings) (instanceId : String) (releaseLock : Bool) :
    BackupSteps Unit := do
  if releaseLock then
    call .releaseLock
  let l ← Routine.locals
  let _ ← postCallback settings instanceId (.backup l.payload)

/-- `backup_instance`. -/
def backupInstance (settings : Settings) (instanceId backupId : String)
    (destination : Option Destination) (volumeClasses : Option (List (String × String)))
    (releaseLock : Bool) : BackupSteps Unit := do
  let settings := effectiveSettings settings destination instanceId
  Routine.assign fun _ => { payload :=
    { backupId := backupId, status := .failed, errorCode := some .snapshotFailed } }
  let st ← getStatus instanceId
  let wasRunning := st.status == .running
  Routine.tryFinally
    (Routine.tryExcept (backupBody settings instanceId backupId volumeClasses wasRunning)
      backupHandler)
    (do
      backupCleanup settings instanceId destination
      backupReport settings instanceId releaseLock)

end Greffer.Backup

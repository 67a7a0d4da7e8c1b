import Greffer.Backup.RestoreJob

/-! # Accepting a job

`spawnBackup` and `spawnRestore` take the per-instance lock without waiting and
start a thread that runs the job under it (`lockedJob`).  The job releases the
lock itself before its callback; the wrapper releases it again on every path, and
the second release does nothing.
-/
namespace Greffer.Backup
open Effects

/-- `spawn_backup` and `spawn_restore`, up to the start of the thread. -/
def spawn (instanceId : String) : Job Unit := do
  if !(← call (.acquireLock instanceId)) then
    Action.raise (.busy instanceId)
  (call .startThread).tryExcept fun _ => do
    -- a thread that never starts would leave the lock held for ever
    call .releaseLock
    Action.raise (.busy instanceId)

/-- `_locked_job`. -/
def lockedJob {L : Type} (job : Routine Answer JobError L Unit) :
    Routine Answer JobError L Unit :=
  Routine.tryFinally job (call .releaseLock)

/-- The thread of an accepted backup. -/
def backupThread (settings : Settings) (instanceId backupId : String)
    (destination : Option Destination) (volumeClasses : Option (List (String × String))) :
    BackupSteps Unit :=
  lockedJob (backupInstance settings instanceId backupId destination volumeClasses true)

/-- The thread of an accepted restore. -/
def restoreThread (settings : Settings) (instanceId resticSnapshotId restoreId : String)
    (destination : Option Destination) (manifest volumeClasses : Option (List (String × String))) :
    RestoreSteps Unit :=
  lockedJob (restoreInstance settings instanceId resticSnapshotId restoreId destination manifest
    volumeClasses true)

/-- A job to accept. -/
inductive AcceptedJob where
  /-- `spawn_backup`. -/
  | backup (settings : Settings) (instanceId backupId : String)
      (destination : Option Destination) (volumeClasses : Option (List (String × String)))
  /-- `spawn_restore`. -/
  | restore (settings : Settings) (instanceId resticSnapshotId restoreId : String)
      (destination : Option Destination) (manifest volumeClasses : Option (List (String × String)))

namespace AcceptedJob

/-- The instance whose lock the job takes. -/
def instanceId : AcceptedJob → String
  | backup _ i _ _ _ => i
  | restore _ i _ _ _ _ _ => i

/-- The thread of the job.  Its variables are assigned before they are read. -/
def thread : AcceptedJob → Job Unit
  | backup settings i b dest classes =>
    (backupThread settings i b dest classes).run { payload := { backupId := b, status := .failed } }
  | restore settings i snap r dest manifest classes =>
    (restoreThread settings i snap r dest manifest classes).run
      { payload := { restoreId := r, status := .failed } }

end AcceptedJob

end Greffer.Backup

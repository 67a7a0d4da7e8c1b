import Greffer.Backup.Calls
import Greffer.Effects.Implement
import Greffer.Effects.Threads

/-! # Repository-wide operations

`prune` and `check` run over a whole repository, in a thread of their own, under a lock
for the repository's key.  The locks are made on demand and kept in a registry; a job
that ends takes its lock out of the registry and then releases it, so that the registry
does not grow.  Under per-instance repositories one job goes through all of them, under
the lock of their common base.
-/
namespace Greffer.Backup
open Effects

/-- A lock of the registry, an object with an identity of its own: the key it was made
for, and a number. -/
structure RepoLock where
  repo : String
  number : Nat
  deriving DecidableEq

/-- The operations. -/
inductive RepoOp where
  | prune
  | check
  deriving DecidableEq

/-- The operation, as the request names it. -/
def RepoOp.text : RepoOp → String
  | prune => "prune"
  | check => "check"

/-- What the thread of an operation is given: the key, its lock, and what to do. -/
structure RepoJob where
  repo : String
  lock : RepoLock
  op : RepoOp
  settings : Settings
  /-- The job goes through the repositories of all instances. -/
  fanOut : Bool

/-- What an operation reports: its error code, if it failed. -/
abbrev RepoOpReport := Option String

/-- The calls: those on the locks, and those of the work itself. -/
inductive RepoOpCall where
  /-- `_repo_op_lock`: the key's lock, made if there is none. -/
  | repoOpLock (repo : String)
  /-- `lock.acquire(blocking=False)`. -/
  | acquire (lock : RepoLock)
  | startThread (job : RepoJob)
  /-- The first half of `_reap_repo_op_lock`: take the lock out of the registry, if it is
  still the one there. -/
  | pop (repo : String) (lock : RepoLock)
  | release (lock : RepoLock)
  | engine (c : BackupCall)
  /-- The sidecar that runs `restic prune` or `restic check`. -/
  | start (op : RepoOp) (env : List (String × String))
  | await (op : RepoOp) (env : List (String × String))
  /-- The directories under `$GREFFON_PATH`. -/
  | listInstanceIds

/-- What each call answers. -/
@[reducible] def RepoOpCall.Answer : RepoOpCall → Type
  | .repoOpLock _ => RepoLock
  | .acquire _ => Bool
  | .engine c => Backup.Answer c
  | .await _ _ => Ended
  | .listInstanceIds => List String
  | .startThread _ | .pop _ _ | .release _ | .start _ _ => Unit

/-- Code of the repository operations. -/
abbrev RepoSteps := Action RepoOpCall.Answer JobError

namespace RepoSteps

/-- Make one call. -/
abbrev ask (c : RepoOpCall) : RepoSteps c.Answer := Action.perform c

/-- Code of the backup engine. -/
def engine {α : Type} (m : Job α) : RepoSteps α :=
  m.implement fun c => Action.perform (RepoOpCall.engine c)

end RepoSteps

open RepoSteps

/-! ## The work -/

/-- `_repo_op_error_code`: another sidecar at work on the repository is no failure. -/
def repoOpErrorCode (stderr : String) : String :=
  let text := lower stderr
  if mentions text "already locked" || mentions text "unable to create lock" then "repo_busy"
  else (classify stderr).text

/-- What `prune_repo` and `check_repo` share; `failure` is the code for a raise. -/
def runRepoOp (op : RepoOp) (failure : String) (settings : Settings) : RepoSteps RepoOpReport :=
  Action.tryExcept (do
      engine (ensureRepo settings)
      let env ← Action.ofExcept (resticEnv settings)
      ask (.start op env)
      let ended ← ask (.await op env)
      if ended.returncode ≠ 0 then
        return some (repoOpErrorCode ended.stderr)
      return none)
    fun _ => return some failure

/-- `prune_repo`. -/
def pruneRepo (settings : Settings) : RepoSteps RepoOpReport :=
  runRepoOp .prune "prune_failed" settings

/-- `check_repo`. -/
def checkRepo (settings : Settings) : RepoSteps RepoOpReport :=
  runRepoOp .check "check_failed" settings

/-- `fn`, of the job's operation. -/
def RepoOp.fn : RepoOp → Settings → RepoSteps RepoOpReport
  | prune => pruneRepo
  | check => checkRepo

/-- `_repo_missing`: only a repository that is not there is missing. -/
def repoMissing (settings : Settings) : RepoSteps Bool := do
  let ended ← engine (runRestic settings .catConfig [] true)
  if ended.returncode = 0 then
    return false
  return classify ended.stderr == .repoUninitialized

/-- The loop of `_per_instance_repo_op_job`: one repository's failure stalls no other. -/
def repoOpEach (op : RepoOp) (settings : Settings) : List String → RepoSteps Unit
  | [] => return ()
  | iid :: rest => do
    let eff := effectiveSettings settings none iid
    Action.tryExcept (do
        if !(← repoMissing eff) then
          let _ ← op.fn eff)
      fun _ => return ()
    repoOpEach op settings rest

/-! ## The lock -/

/-- `_reap_repo_op_lock`. -/
def reapRepoOpLock (repo : String) (lock : RepoLock) : RepoSteps Unit := do
  ask (.pop repo lock)
  ask (.release lock)

namespace RepoJob

/-- What the job does under its lock. -/
def work (job : RepoJob) : RepoSteps Unit :=
  if job.fanOut then do
    let ids ← ask .listInstanceIds
    repoOpEach job.op job.settings ids
  else do
    let _ ← job.op.fn job.settings

/-- `_repo_op_job` and `_per_instance_repo_op_job`: the work, and whatever comes of it the
lock is reaped. -/
def thread (job : RepoJob) : RepoSteps Unit := do
  let r ← job.work.outcome
  reapRepoOpLock job.repo job.lock
  Action.ofExcept r

/-- Start the job's thread; if it cannot be started the lock is not leaked. -/
def start (job : RepoJob) : RepoSteps RepoJob :=
  Action.tryExcept (do
      ask (.startThread job)
      return job)
    fun e => do
      reapRepoOpLock job.repo job.lock
      Action.raise e

end RepoJob

/-- The key's lock, if it is free, and the job's thread: the common end of
`spawn_repo_op` and `_spawn_per_instance_repo_op`. -/
def startLocked (repo : String) (op : RepoOp) (settings : Settings) (fanOut : Bool) :
    RepoSteps RepoJob := do
  let lock ← ask (.repoOpLock repo)
  if ← ask (.acquire lock) then
    RepoJob.start ⟨repo, lock, op, settings, fanOut⟩
  else
    Action.raise (.busy op.text)

/-- `_per_instance_fanout`. -/
def perInstanceFanout (settings : Settings) (destination : Option Destination) : Bool :=
  destination.isNone && settings.grefferBackupRepoPerInstance &&
    (present settings.grefferBackupRepo).isSome

/-- `spawn_repo_op`, and `_spawn_per_instance_repo_op` for the repositories of all
instances.  It answers with the job whose thread it has started. -/
def spawnRepoOp (settings : Settings) (op : RepoOp) (destination : Option Destination) :
    RepoSteps RepoJob :=
  if perInstanceFanout settings destination then
    startLocked (rstripSlash (settings.grefferBackupRepo.getD "")) op settings true
  else
    let eff := effectiveSettings settings destination ""
    match present eff.grefferBackupRepo with
    | none => Action.raise (.backup .repoUninitialized)
    | some repo => startLocked repo op eff false

/-- A request: the spawn, and then the thread it starts. -/
def repoOpRequest (settings : Settings) (op : RepoOp) (destination : Option Destination) :
    RepoSteps Unit := do
  let job ← spawnRepoOp settings op destination
  job.thread

end Greffer.Backup

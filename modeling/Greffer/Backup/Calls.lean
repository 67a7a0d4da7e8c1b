import Mathlib.Data.List.Sort
import Greffer.Backup.Model
import Greffer.Effects.Routine

/-! # What the backup engine calls

The calls the engine makes of its environment: the docker daemon, subprocesses,
the instance's files, the clock, the token file, the manager, and the
per-instance lock.  Every call may raise.

A subprocess is two calls, its start and the wait for its end, so that a point
between the two is a point at which it runs.
-/
namespace Greffer.Backup
open Effects Docker

/-- The files the engine touches. -/
inductive FileRef where
  /-- `<id>/l4_ports.json`. -/
  | l4Ports (instanceId : String)
  /-- `<id>/.backup_inprogress`. -/
  | backupMarker (instanceId : String)
  /-- `<id>/.restore_<restore id>.json`. -/
  | restoreState (instanceId restoreId : String)
  deriving DecidableEq

/-- Where the file is. -/
def FileRef.path (greffonPath : String) : FileRef → String
  | l4Ports i => greffonPath ++ "/" ++ i ++ "/l4_ports.json"
  | backupMarker i => greffonPath ++ "/" ++ i ++ "/.backup_inprogress"
  | restoreState i r => greffonPath ++ "/" ++ i ++ "/.restore_" ++ r ++ ".json"

/-- What is written into a state file. -/
inductive FileContent where
  /-- The marker: `{"backup_id": …}`. -/
  | marker (backupId : String)
  | state (payload : RestorePayload)
  deriving DecidableEq

/-- A child process: the restic sidecar, or a command in a container. -/
inductive Child where
  | restic (run : ResticRun)
  | dockerExec (containerId : String) (argv : List String) (interactive : Bool)

/-- How a child ended: its exit code, its output and its error output. -/
structure Ended where
  returncode : Int
  stdout : List OutLine := []
  stderr : String := ""

/-- The calls of the engine. -/
inductive BackupCall where
  /-- `client.containers.list(all=True, filters={"name": id})`. -/
  | listContainers (nameFilter : String)
  /-- `observe.list_instance_containers`. -/
  | listInstanceContainers (instanceId : String)
  /-- `client.volumes.list(filters={"name": id})`: the names. -/
  | listVolumes (nameFilter : String)
  | exists (file : FileRef)
  /-- `path.parent.mkdir(…)`, then `path.write_text`, which truncates the file and
  then writes. -/
  | writeText (file : FileRef) (content : FileContent)
  | unlink (file : FileRef)
  /-- `docker-compose stop`, not waited for. -/
  | composeStop (instanceId : String)
  | trackComposeChild (instanceId : String)
  /-- `docker-compose up -d`, of the named services or of all. -/
  | composeUp (instanceId : String) (services : List String)
  | start (child : Child)
  /-- Wait for the end of a child that has been started. -/
  | await (child : Child)
  | kill (child : Child)
  /-- `time.monotonic() < deadline`. -/
  | beforeDeadline
  | sleep
  /-- `shlex.split`. -/
  | shlexSplit (command : String)
  | resolveToken
  /-- The POST to the manager: the status code of its answer. -/
  | post (instanceId : String) (result : Result)
  | reserveHandoff (instanceId : String)
  /-- `lock.acquire(blocking=False)`, of the instance's lock. -/
  | acquireLock (instanceId : String)
  | startThread
  /-- The one-shot `release()` of `_release_once`. -/
  | releaseLock

/-- What each call answers when it raises nothing. -/
@[reducible] def Answer : BackupCall → Type
  | .listContainers _ | .listInstanceContainers _ => List Container
  | .listVolumes _ | .shlexSplit _ => List String
  | .exists _ | .beforeDeadline | .acquireLock _ => Bool
  | .await _ => Ended
  | .resolveToken => String
  | .post _ _ => Int
  | .writeText _ _ | .unlink _ | .composeStop _ | .trackComposeChild _ | .composeUp _ _
  | .start _ | .kill _ | .sleep | .reserveHandoff _ | .startThread | .releaseLock => Unit

/-- What a call answers where there is nothing, and every command succeeds. -/
def BackupCall.eventless : (c : BackupCall) → Raises Answer JobError c
  | .listContainers _ | .listInstanceContainers _ => .ok []
  | .listVolumes _ | .shlexSplit _ => .ok []
  | .exists _ | .acquireLock _ => .ok false
  | .beforeDeadline => .ok true
  | .await _ => .ok { returncode := 0 }
  | .resolveToken => .ok ""
  | .post _ _ => .ok 200
  | .writeText _ _ | .unlink _ | .composeStop _ | .trackComposeChild _ | .composeUp _ _
  | .start _ | .kill _ | .sleep | .reserveHandoff _ | .startThread | .releaseLock => .ok ()

/-- Code of the engine without variables of its own. -/
abbrev Job := Action Answer JobError

/-- Make one call. -/
abbrev call (c : BackupCall) : Job (Answer c) := Action.perform c

/-! ## Restic -/

/-- `_run_restic`. -/
def runRestic (settings : Settings) (command : ResticCommand) (mounts : List Mount)
    (readOnly : Bool) : Job Ended := do
  let env ← Action.ofExcept (resticEnv settings)
  let child := Child.restic ⟨env, command, mounts, readOnly⟩
  call (.start child)
  call (.await child)

/-- `ensure_repo`: initialise a missing repository, and clear a stale lock. -/
def ensureRepo (settings : Settings) : Job Unit := do
  let config ← runRestic settings .catConfig [] true
  if config.returncode ≠ 0 then
    let initialised ← runRestic settings .init [] true
    if initialised.returncode ≠ 0 then
      Action.raise (.backup (classify initialised.stderr))
  let _ ← runRestic settings .unlock [] true

theorem runRestic_of_env {settings : Settings} {e : JobError} (h : resticEnv settings = .error e)
    (command : ResticCommand) (mounts : List Mount) (readOnly : Bool) :
    runRestic settings command mounts readOnly = Action.raise e := by
  unfold runRestic
  rw [h]
  rfl

theorem ensureRepo_of_env {settings : Settings} {e : JobError}
    (h : resticEnv settings = .error e) : ensureRepo settings = Action.raise e := by
  unfold ensureRepo
  rw [runRestic_of_env h]
  rfl

/-- The keep arguments of `_forget`. -/
def keepArgs (settings : Settings) (safety : Bool) : Keep :=
  if safety then .last (max 1 settings.backupSafetyKeepLast)
  else .calendar (max 0 settings.backupKeepDaily) (max 0 settings.backupKeepWeekly)
    (max 0 settings.backupKeepMonthly)

/-- `_forget`: retention after an operation, which must never fail it. -/
def forget (settings : Settings) (instanceId : String) (safety : Bool) : Job Unit := do
  let tag := if safety then safetyTag instanceId else instanceTag instanceId
  let _ ← (runRestic settings (.forget tag (keepArgs settings safety)) [] true).outcome

/-- The exceptions `_repo_stats` swallows. -/
def statsSwallows : JobError → Bool
  | .raised (.valueError _) | .raised (.typeError _) | .raised (.osError _)
  | .raised (.calledProcessError _) | .raised (.timeoutExpired _) => true
  | _ => false

/-- `_repo_stats`. -/
def repoStats (settings : Settings) : Job (Option Int) :=
  Action.tryExcept (do
      let ended ← runRestic settings .stats [] true
      if ended.returncode ≠ 0 then
        return none
      match ← Action.ofExcept (resticStatsTotalSize ended.stdout) with
      | none => return none
      | some total =>
        let bytes ← Action.ofExcept (total.toInt.mapError JobError.raised)
        return some bytes)
    fun e => if statsSwallows e then return none else Action.raise e

/-! ## Volumes and files -/

/-- The nginx volume's suffix. -/
def nginxVolumeSuffix : String := "_nginx_volume"

/-- `s.startswith(pre)` and `s.endswith(suf)`. -/
def startsWith (s pre : String) : Bool := pre.toList.isPrefixOf s.toList

def endsWith (s suf : String) : Bool := suf.toList.isSuffixOf s.toList

/-- `_data_volumes`. -/
def dataVolumes (instanceId : String) : Job (List String) := do
  let vols ← call (.listVolumes instanceId)
  return (vols.filter fun v =>
    startsWith v (instanceId ++ "_") && !endsWith v nginxVolumeSuffix).insertionSort (· ≤ ·)

/-- The mount of a volume. -/
def volumeMount (vol : String) : Mount := (vol, "/data/" ++ vol)

/-- The ports file is mounted like no volume. -/
theorem volumeMount_ne_l4Ports (v greffonPath instanceId : String) : volumeMount v ≠
    ((FileRef.l4Ports instanceId).path greffonPath, "/data/_l4_ports.json") := by
  intro h
  obtain ⟨hpath, hmount⟩ := Prod.mk.inj h
  have hname : "/data/" ++ v = "/data/" ++ "_l4_ports.json" := hmount
  obtain rfl := (String.append_right_inj _).mp hname
  have hslash : '/' ∈ "_l4_ports.json".toList := by
    rw [hpath, FileRef.path, String.toList_append]
    exact List.mem_append_right _ (by decide)
  revert hslash
  decide

/-- `l4_ports.json` rides along if it is there. -/
def withL4Ports (settings : Settings) (instanceId : String) (mounts : List Mount) :
    Job (List Mount) := do
  if ← call (.exists (.l4Ports instanceId)) then
    return mounts ++ [((FileRef.l4Ports instanceId).path settings.greffonPath,
      "/data/_l4_ports.json")]
  return mounts

/-- `_backup_mounts`. -/
def backupMounts (settings : Settings) (instanceId : String) : Job (List Mount) := do
  let vols ← dataVolumes instanceId
  withL4Ports settings instanceId (vols.map volumeMount)

/-- The class a volume has in the manager's map, by its compose name. -/
def volumeClass (instanceId : String) (volumeClasses : List (String × String)) (vol : String) :
    Option String :=
  let composeName := String.ofList (vol.toList.drop (instanceId ++ "_").toList.length)
  (volumeClasses.find? fun e => e.1 == composeName).map Prod.snd

/-- The loop of `_hot_backup_mounts`. -/
def hotMounts (instanceId : String) (volumeClasses : List (String × String)) :
    List String → Except JobError (List Mount)
  | [] => .ok []
  | vol :: rest =>
    match volumeClass instanceId volumeClasses vol with
    | some "data" => (hotMounts instanceId volumeClasses rest).map (volumeMount vol :: ·)
    | some "regenerable" | some "database" => hotMounts instanceId volumeClasses rest
    -- refused rather than silently left out
    | _ => .error (.backup .volumeUnclassified)

/-- `_hot_backup_mounts`: the data-class volumes only. -/
def hotBackupMounts (settings : Settings) (instanceId : String)
    (volumeClasses : List (String × String)) : Job (List Mount) := do
  let vols ← dataVolumes instanceId
  let mounts ← Action.ofExcept (hotMounts instanceId volumeClasses vols)
  if mounts.isEmpty then
    return mounts
  withL4Ports settings instanceId mounts

/-- `except OSError`, around a file operation. -/
def ignoringOSError (m : Job Unit) : Job Unit :=
  m.tryExcept fun
    | .raised (.osError _) => return ()
    | e => Action.raise e

/-- `_write_json`. -/
def writeJson (file : FileRef) (content : FileContent) : Job Unit :=
  ignoringOSError (call (.writeText file content))

/-- `_remove`. -/
def remove (file : FileRef) : Job Unit := ignoringOSError (call (.unlink file))

/-! ## Containers -/

/-- `compose.get_status`. -/
def getStatus (instanceId : String) : Job StatusReport := do
  let listed ← call (.listContainers instanceId)
  return Docker.getStatus listed

/-- `_quiesced`, of `_wait_stopped`. -/
def quiesced (instanceId : String) (missingIsStopped : Bool) : Job Bool := do
  let st ← getStatus instanceId
  return st.status == .stopped ||
    (missingIsStopped && st.status == .unknow && st.containers.isEmpty)

/-- The polls of `_wait_stopped`.  Each sleeps for a second, so the deadline is
past after as many as it has seconds. -/
def pollStopped (instanceId : String) (missingIsStopped : Bool) : Nat → Job Bool
  | 0 => quiesced instanceId missingIsStopped
  | n + 1 => do
    if !(← call .beforeDeadline) then
      quiesced instanceId missingIsStopped
    else if ← quiesced instanceId missingIsStopped then
      return true
    else
      call .sleep
      pollStopped instanceId missingIsStopped n

/-- `_wait_stopped`. -/
def waitStopped (instanceId : String) (timeout : Int) (missingIsStopped : Bool := false) :
    Job Bool :=
  pollStopped instanceId missingIsStopped timeout.toNat

/-- A wait ends well on a look that does. -/
theorem waitStopped_always {W : Type} {M : Machine (Raises Answer JobError) W} {I P : W → Prop}
    {instanceId : String} {missing : Bool} {w : W}
    (hquiesced : ∀ w, I w → (quiesced instanceId missing).Always M I
      (fun r w' => r = .ok true → P w') w)
    (hdeadline : ∀ w r w', I w → M.serve w .beforeDeadline r w' → I w')
    (hsleep : ∀ w r w', I w → M.serve w .sleep r w' → I w') (h : I w) (timeout : Int) :
    (waitStopped instanceId timeout missing).Always M I (fun r w' => r = .ok true → P w') w := by
  unfold waitStopped
  induction timeout.toNat generalizing w with
  | zero => exact hquiesced w h
  | succ n ih =>
    unfold pollStopped
    rw [Action.always_bind]
    refine ⟨h, fun r w₁ hs => ?_⟩
    have h₁ := hdeadline w r w₁ h hs
    refine ⟨h₁, ?_⟩
    cases r with
    | error e => exact nofun
    | ok before =>
      rw [onOk_ok, Action.always_ite]
      refine ⟨fun _ => hquiesced w₁ h₁, fun _ => ?_⟩
      rw [Action.always_bind]
      refine (hquiesced w₁ h₁).mono fun r w₂ h₂ hrest => ?_
      cases r with
      | error e => exact nofun
      | ok rests =>
        cases rests with
        | true => exact ⟨h₂, fun _ => hrest rfl⟩
        | false =>
          simp only [onOk_ok, Bool.false_eq_true, if_false]
          rw [Action.always_bind]
          refine ⟨h₂, fun r w₃ hs => ?_⟩
          have h₃ := hsleep w₂ r w₃ h₂ hs
          refine ⟨h₃, ?_⟩
          cases r with
          | error e => exact nofun
          | ok u => exact ih h₃

/-- `_restart`, whose exit code nothing looks at. -/
def restart (instanceId : String) : Job Unit := call (.composeUp instanceId [])

/-- `_start_services`. -/
def startServices (instanceId : String) (services : List String) : Job Unit :=
  call (.composeUp instanceId services)

/-- The label of the service a container belongs to. -/
def serviceLabel : String := "com.docker.compose.service"

/-- A hook's command line, under an in-container timeout. -/
def hookArgv (command : String) : Job (List String) := do
  let argv ← call (.shlexSplit command)
  return ["timeout", "3600"] ++ argv

/-! ## The manager -/

/-- `_post_callback`: whether the manager acknowledged the result. -/
def postCallback (settings : Settings) (instanceId : String) (result : Result) : Job Bool :=
  Action.tryExcept (do
      if (present settings.grefferToken).isNone then
        let _ ← call .resolveToken
      let status ← call (.post instanceId result)
      return decide (200 ≤ status ∧ status < 300))
    fun
    | .raised (.requestException _) => return false
    | e => Action.raise e

end Greffer.Backup

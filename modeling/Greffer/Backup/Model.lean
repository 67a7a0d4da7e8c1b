import Greffer.Docker.Containers
import Greffer.Python.Value

/-! # The data of the backup engine

Settings and destinations, the closed taxonomy of error codes, the restic
command lines, the payloads posted to the manager, and what the engine reads of
a tool's output.
-/
namespace Greffer.Backup

/-- The error codes the manager knows. -/
inductive ErrorCode where
  | repoUninitialized | authFailed | diskFull | repoUnreachable | snapshotFailed | timeout
  | dumpFailed | dumpEmpty | restoreDumpFailed | restoreFailed | volumeUnclassified
  | noDataVolumes | multipleDatabaseUnsupported | noDumpHook | instanceMissing | stopTimeout
  | safetySnapshotFailed | dbVolumeMisclassified | dbNotReady | noRestoreHook
  deriving DecidableEq

/-- The code as it is sent. -/
def ErrorCode.text : ErrorCode → String
  | .repoUninitialized => "repo_uninitialized"
  | .authFailed => "auth_failed"
  | .diskFull => "disk_full"
  | .repoUnreachable => "repo_unreachable"
  | .snapshotFailed => "snapshot_failed"
  | .timeout => "timeout"
  | .dumpFailed => "dump_failed"
  | .dumpEmpty => "dump_empty"
  | .restoreDumpFailed => "restore_dump_failed"
  | .restoreFailed => "restore_failed"
  | .volumeUnclassified => "volume_unclassified"
  | .noDataVolumes => "no_data_volumes"
  | .multipleDatabaseUnsupported => "multiple_database_unsupported"
  | .noDumpHook => "no_dump_hook"
  | .instanceMissing => "instance_missing"
  | .stopTimeout => "stop_timeout"
  | .safetySnapshotFailed => "safety_snapshot_failed"
  | .dbVolumeMisclassified => "db_volume_misclassified"
  | .dbNotReady => "db_not_ready"
  | .noRestoreHook => "no_restore_hook"

/-- What a job may raise: `BackupError(code)`, `BusyError`, or anything else. -/
inductive JobError where
  | backup (code : ErrorCode)
  | busy (instanceId : String)
  | raised (e : Exn)
  deriving DecidableEq

/-! ## Settings -/

/-- The settings the engine reads. -/
structure Settings where
  grefferBackupRepo : Option String := none
  grefferBackupRepoPerInstance : Bool := false
  resticPassword : Option String := none
  resticPasswordFile : Option String := none
  awsAccessKeyId : Option String := none
  awsSecretAccessKey : Option String := none
  resticSidecarImage : String :=
    "restic/restic:0.17.3@sha256:8f5a62b422a2cb1277ea0dd6e826fe1acf649e5b9f02d60e5268d5fd1976255a"
  grefferId : String
  greffonPath : String := "/data"
  grefferToken : Option String := none
  backupStopTimeoutSeconds : Int := 120
  backupKeepDaily : Int := 7
  backupKeepWeekly : Int := 4
  backupKeepMonthly : Int := 6
  backupSafetyKeepLast : Int := 3

/-- A destination brokered by the manager. -/
structure Destination where
  repo : String
  resticPassword : String
  awsAccessKeyId : Option String := none
  awsSecretAccessKey : Option String := none

/-- A text setting that is set and not empty. -/
def present (v : Option String) : Option String := v.filter fun s => s != ""

/-- `base.rstrip('/')`. -/
def rstripSlash (s : String) : String :=
  String.ofList (s.toList.reverse.dropWhile (· == '/')).reverse

/-- `_effective_settings`: the brokered destination if there is one, else this
greffer's own repository, per instance if so configured. -/
def effectiveSettings (settings : Settings) (destination : Option Destination)
    (instanceId : String) : Settings :=
  match destination with
  | some dest => { settings with
      grefferBackupRepo := some dest.repo
      resticPassword := some dest.resticPassword
      -- never fall back to the file, which would take precedence
      resticPasswordFile := none
      awsAccessKeyId := (present dest.awsAccessKeyId).or settings.awsAccessKeyId
      awsSecretAccessKey := (present dest.awsSecretAccessKey).or settings.awsSecretAccessKey }
  | none =>
    match present settings.grefferBackupRepo with
    | some repo =>
      if instanceId != "" && settings.grefferBackupRepoPerInstance then
        { settings with grefferBackupRepo := some (rstripSlash repo ++ "/" ++ instanceId) }
      else settings
    | none => settings

/-- `restic_env`: the repository, its password and the S3 credentials. -/
def resticEnv (settings : Settings) : Except JobError (List (String × String)) :=
  match present settings.grefferBackupRepo with
  | none => .error (.backup .repoUninitialized)
  | some repo =>
    let password : Option (String × String) :=
      ((present settings.resticPasswordFile).map fun f => ("RESTIC_PASSWORD_FILE", f)).or
        ((present settings.resticPassword).map fun p => ("RESTIC_PASSWORD", p))
    match password with
    | none => .error (.backup .repoUninitialized)
    | some entry => .ok <|
      [("PATH", "/usr/local/bin:/usr/bin:/bin"), ("RESTIC_REPOSITORY", repo), entry] ++
        ((present settings.awsAccessKeyId).map fun k => ("AWS_ACCESS_KEY_ID", k)).toList ++
        ((present settings.awsSecretAccessKey).map fun k => ("AWS_SECRET_ACCESS_KEY", k)).toList

/-! ## Restic command lines -/

/-- The keep arguments of a retention run. -/
inductive Keep where
  | calendar (daily weekly monthly : Int)
  | last (count : Int)
  deriving DecidableEq

/-- The restic commands the engine runs. -/
inductive ResticCommand where
  | catConfig
  | init
  | unlock
  /-- `backup /data`, with its tag. -/
  | backup (tag : String)
  /-- `backup --stdin`. -/
  | backupStdin (filename tag : String)
  /-- `restore … --delete`. -/
  | restore (snapshot : String)
  | dump (snapshot filename : String)
  | stats
  | forget (tag : String) (keep : Keep)
  deriving DecidableEq

/-- The tag of an instance's backups. -/
def instanceTag (instanceId : String) : String := "instance:" ++ instanceId

/-- The tag of its safety snapshots. -/
def safetyTag (instanceId : String) : String := "safety:" ++ instanceId

namespace ResticCommand

/-- The arguments after `restic`. -/
def args (grefferId : String) : ResticCommand → List String
  | catConfig => ["cat", "config"]
  | init => ["init"]
  | unlock => ["unlock"]
  | backup tag => ["backup", "/data", "--json", "--tag", tag, "--host", grefferId]
  | backupStdin filename tag => ["backup", "--stdin", "--stdin-filename", filename,
      "--json", "--tag", tag, "--host", grefferId]
  | restore snapshot => ["restore", snapshot, "--target", "/", "--include", "/data", "--delete"]
  | dump snapshot filename => ["dump", snapshot, filename]
  | stats => ["stats", "--mode", "raw-data", "--json"]
  | forget tag keep => ["forget", "--group-by", "tags", "--tag", tag] ++
      match keep with
      | .calendar d w m => ["--keep-daily", toString d, "--keep-weekly", toString w,
          "--keep-monthly", toString m]
      | .last n => ["--keep-last", toString n]

end ResticCommand

/-- A container mount: the source and where it appears. -/
abbrev Mount := String × String

/-- One run of the restic sidecar: what is passed by environment, and the rest. -/
structure ResticRun where
  env : List (String × String)
  command : ResticCommand
  mounts : List Mount
  readOnly : Bool

/-- The `docker run` command line.  Of the environment only names are on it. -/
def ResticRun.dockerArgs (settings : Settings) (run : ResticRun) : List String :=
  ["docker", "run", "--rm"] ++
    ((run.env.map Prod.fst).filter fun k => k != "PATH" && k != "HOME").flatMap
      (fun k => ["--env", k]) ++
    run.mounts.flatMap (fun m => ["-v", m.1 ++ ":" ++ m.2 ++ if run.readOnly then ":ro" else ""]) ++
    ["--entrypoint", "restic", settings.resticSidecarImage] ++
    run.command.args settings.grefferId

/-- **Secrets stay off the command line**: it does not depend on the values of the
environment. -/
theorem ResticRun.dockerArgs_congr (settings : Settings) (run : ResticRun)
    (env : List (String × String)) (h : env.map Prod.fst = run.env.map Prod.fst) :
    { run with env := env }.dockerArgs settings = run.dockerArgs settings := by
  unfold dockerArgs
  rw [h]

/-! ## Tool output -/

/-- What the engine looks at in a line of output that is a JSON object. -/
structure ObjectLine where
  /-- If `message_type` is `summary`: `str(obj.get("snapshot_id") or "")`, and
  `data_added` if it is an int. -/
  summary : Option (String × Option Int) := none
  /-- `total_size`, if there. -/
  totalSize : Option PyValue := none

/-- A non-blank line of output, as `json.loads` takes it. -/
inductive OutLine where
  /-- `ValueError`, or JSON that is not an object. -/
  | other
  | object (o : ObjectLine)
  /-- `json.loads` raises something else, as `RecursionError`. -/
  | raises (e : Exn)

/-- What `[:64]` leaves. -/
def clip (s : String) : String := String.ofList (s.toList.take 64)

/-- The loop of `_parse_summary`. -/
def parseSummaryFrom (acc : String × Option Int) : List OutLine → Except JobError (String × Option Int)
  | [] => .ok acc
  | .other :: rest => parseSummaryFrom acc rest
  | .raises e :: _ => .error (.raised e)
  | .object o :: rest =>
    match o.summary with
    | some (id, added) => parseSummaryFrom (clip id, added.or acc.2) rest
    | none => parseSummaryFrom acc rest

/-- `_parse_summary`: the last summary's snapshot id, and the last byte count. -/
def parseSummary (out : List OutLine) : Except JobError (String × Option Int) :=
  parseSummaryFrom ("", none) out

/-- The loop of `_restic_stats_total_size`, over the lines from the end. -/
def totalSizeFrom : List OutLine → Except JobError (Option PyValue)
  | [] => .ok none
  | .other :: rest => totalSizeFrom rest
  | .raises e :: _ => .error (.raised e)
  | .object o :: rest =>
    match o.totalSize with
    | some v => .ok (some v)
    | none => totalSizeFrom rest

/-- `_restic_stats_total_size`. -/
def resticStatsTotalSize (out : List OutLine) : Except JobError (Option PyValue) :=
  totalSizeFrom out.reverse

/-- `text.lower()`, as far as the phrases looked for can tell. -/
def lower (s : String) : List Char := s.toList.map Char.toLower

/-- Whether the lowered text contains the phrase. -/
def mentions (text : List Char) (phrase : String) : Bool := decide (phrase.toList <:+: text)

/-- `_classify`. -/
def classify (stderr : String) : ErrorCode :=
  let text := lower stderr
  if mentions text "wrong password" || mentions text "invalid password" then .authFailed
  else if mentions text "unable to open config" || mentions text "does not exist" then
    .repoUninitialized
  else if ["no space", "disk full", "out of space"].any (mentions text) then .diskFull
  else if ["connection refused", "timeout", "no route", "dial tcp"].any (mentions text) then
    .repoUnreachable
  else .snapshotFailed

/-- `_restore_classify`. -/
def restoreClassify (stderr : String) : ErrorCode :=
  if classify stderr = .snapshotFailed then .restoreFailed else classify stderr

/-! ## Payloads -/

/-- The `status` of a payload. -/
inductive RunStatus where
  | failed
  | overwriting
  | success
  deriving DecidableEq

/-- The `backup-result` payload. -/
structure BackupPayload where
  backupId : String
  status : RunStatus
  errorCode : Option ErrorCode := none
  snapshotId : Option String := none
  bytesAdded : Option Int := none
  manifest : Option (List (String × String)) := none
  repoBytes : Option Int := none
  deriving DecidableEq

/-- The `restore-result` payload, which is also what the state file holds. -/
structure RestorePayload where
  restoreId : String
  status : RunStatus
  errorCode : Option ErrorCode := none
  safetyResticSnapshotId : Option String := none
  alreadyRunning : Bool := false
  deriving DecidableEq

/-- A terminal result posted to the manager. -/
inductive Result where
  | backup (payload : BackupPayload)
  | restore (payload : RestorePayload)

end Greffer.Backup

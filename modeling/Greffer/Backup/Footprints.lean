import Greffer.Backup.Spawn

/-! # What each part of the engine calls

The footprint of every helper and block, by kinds of calls.  A footprint is an
assumption-free statement about the program text; with the frame rule it gives,
for any machine, everything that only needs "this part makes no such call".
-/
namespace Greffer.Backup
open Effects

/-- What sort of thing a call does. -/
inductive Kind where
  /-- It only looks: lists, the clock, `shlex`. -/
  | look
  | exists (file : FileRef)
  | restic (command : ResticCommand)
  /-- A command in a container. -/
  | exec
  | composeStop (instanceId : String)
  | track
  | composeUp (instanceId : String)
  | write (file : FileRef) (content : FileContent)
  | unlink (file : FileRef)
  | token
  | post (result : Result)
  | handoff
  | acquire
  | thread
  | release

/-- It starts services. -/
@[simp] def Kind.Ups : Kind → Prop
  | .composeUp _ => True
  | _ => False

/-- It stops an instance. -/
@[simp] def Kind.Stops : Kind → Prop
  | .composeStop _ => True
  | _ => False

/-- The kind of a child. -/
def Child.kind : Child → Kind
  | .restic run => .restic run.command
  | .dockerExec _ _ _ => .exec

/-- The kind of a call. -/
def BackupCall.kind : BackupCall → Kind
  | .listContainers _ | .listInstanceContainers _ | .listVolumes _ | .beforeDeadline | .sleep
  | .shlexSplit _ => .look
  | .exists file => .exists file
  | .writeText file content => .write file content
  | .unlink file => .unlink file
  | .composeStop i => .composeStop i
  | .trackComposeChild _ => .track
  | .composeUp i _ => .composeUp i
  | .start child | .await child | .kill child => child.kind
  | .resolveToken => .token
  | .post _ result => .post result
  | .reserveHandoff _ => .handoff
  | .acquireLock _ => .acquire
  | .startThread => .thread
  | .releaseLock => .release

/-- Every call is of an allowed kind. -/
abbrev Within (K : Kind → Prop) {α : Type} (m : Job α) : Prop := m.Uses fun c => K c.kind

/-- Every call of a routine is of an allowed kind. -/
abbrev RWithin (K : Kind → Prop) {L α : Type} (m : Routine Answer JobError L α) : Prop :=
  m.Uses fun c => K c.kind

section Helpers
variable {K : Kind → Prop} {α : Type}

theorem call_within {c : BackupCall} (h : K c.kind) : Within K (call c) := Action.uses_perform h

theorem runRestic_within {settings : Settings} {command : ResticCommand} {mounts : List Mount}
    {readOnly : Bool} (h : K (.restic command)) :
    Within K (runRestic settings command mounts readOnly) := by
  refine Action.Uses.bind (Action.uses_ofExcept _) fun env => ?_
  exact Action.Uses.bind (call_within h) fun _ => call_within h

theorem ensureRepo_within {settings : Settings} (hcat : K (.restic .catConfig))
    (hinit : K (.restic .init)) (hunlock : K (.restic .unlock)) :
    Within K (ensureRepo settings) := by
  refine Action.Uses.bind (runRestic_within hcat) fun config => ?_
  have hrest : Within K (do
      let _ ← runRestic settings .unlock [] true) :=
    Action.Uses.bind (runRestic_within hunlock) fun _ => Action.uses_pure _
  dsimp only
  split
  · refine Action.Uses.bind (runRestic_within hinit) fun initialised => ?_
    split
    · exact Action.uses_raise _
    · exact hrest
  · exact hrest

theorem forget_within {settings : Settings} {instanceId : String} {safety : Bool}
    (h : ∀ tag keep, K (.restic (.forget tag keep))) :
    Within K (forget settings instanceId safety) :=
  Action.Uses.bind (Action.Uses.outcome (runRestic_within (h _ _))) fun _ => Action.uses_pure _

theorem repoStats_within {settings : Settings} (h : K (.restic .stats)) :
    Within K (repoStats settings) := by
  refine Action.Uses.tryExcept ?_ fun e => ?_
  · refine Action.Uses.bind (runRestic_within h) fun ended => ?_
    split
    · exact Action.uses_pure _
    refine Action.Uses.bind (Action.uses_ofExcept _) fun total => ?_
    cases total with
    | none => exact Action.uses_pure _
    | some v => exact Action.Uses.bind (Action.uses_ofExcept _) fun _ => Action.uses_pure _
  · split
    · exact Action.uses_pure _
    · exact Action.uses_raise _

theorem ignoringOSError_within {m : Job Unit} (h : Within K m) : Within K (ignoringOSError m) := by
  refine Action.Uses.tryExcept h fun e => ?_
  split
  · exact Action.uses_pure _
  · exact Action.uses_raise _

theorem writeJson_within {file : FileRef} {content : FileContent} (h : K (.write file content)) :
    Within K (writeJson file content) := ignoringOSError_within (call_within h)

theorem remove_within {file : FileRef} (h : K (.unlink file)) : Within K (remove file) :=
  ignoringOSError_within (call_within h)

theorem postCallback_within {settings : Settings} {instanceId : String} {result : Result}
    (htoken : K .token) (hpost : K (.post result)) :
    Within K (postCallback settings instanceId result) := by
  have hsend : Within K (do
      let status ← call (.post instanceId result)
      return decide (200 ≤ status ∧ status < 300)) :=
    Action.Uses.bind (call_within hpost) fun _ => Action.uses_pure _
  refine Action.Uses.tryExcept ?_ fun e => ?_
  · split
    · exact Action.Uses.bind (call_within htoken) fun _ => hsend
    · exact hsend
  · split
    · exact Action.uses_pure _
    · exact Action.uses_raise _

/-! ### What only looks -/

/-- The calls that look at docker, at a text or at the clock. -/
def BackupCall.Watches : BackupCall → Prop
  | .listContainers _ | .listInstanceContainers _ | .listVolumes _ | .beforeDeadline | .sleep
  | .shlexSplit _ => True
  | _ => False

theorem dataVolumes_watches {instanceId : String} :
    (dataVolumes instanceId).Uses BackupCall.Watches :=
  (Action.uses_perform trivial).bind fun _ => Action.uses_pure _

theorem getStatus_watches {instanceId : String} : (getStatus instanceId).Uses BackupCall.Watches :=
  (Action.uses_perform trivial).bind fun _ => Action.uses_pure _

theorem quiesced_watches {instanceId : String} {missing : Bool} :
    (quiesced instanceId missing).Uses BackupCall.Watches :=
  getStatus_watches.bind fun _ => Action.uses_pure _

theorem waitStopped_watches {instanceId : String} {timeout : Int} {missing : Bool} :
    (waitStopped instanceId timeout missing).Uses BackupCall.Watches := by
  unfold waitStopped
  induction timeout.toNat with
  | zero => exact quiesced_watches
  | succ n ih =>
    refine Action.Uses.bind (Action.uses_perform trivial) fun before => ?_
    split
    · exact quiesced_watches
    refine quiesced_watches.bind fun rests => ?_
    split
    · exact Action.uses_pure _
    · exact (Action.uses_perform trivial).bind fun _ => ih

theorem hookArgv_watches {command : String} : (hookArgv command).Uses BackupCall.Watches :=
  (Action.uses_perform trivial).bind fun _ => Action.uses_pure _

theorem dumpHooks_watches {instanceId : String} :
    (dumpHooks instanceId).Uses BackupCall.Watches := by
  refine Action.Uses.bind (Action.uses_perform trivial) fun listed => ?_
  induction listed with
  | nil => exact Action.uses_pure _
  | cons c rest ih =>
    unfold dumpHooksOf
    split
    · exact hookArgv_watches.bind fun _ => ih.bind fun _ => Action.uses_pure _
    · exact ih

theorem waitDbHealthy_watches {instanceId service : String} :
    (waitDbHealthy instanceId service).Uses BackupCall.Watches := by
  unfold waitDbHealthy
  generalize 90 = n
  induction n with
  | zero => exact Action.uses_pure _
  | succ n ih =>
    refine Action.Uses.bind (Action.uses_perform trivial) fun before => ?_
    split
    · exact Action.uses_pure _
    refine Action.Uses.bind (Action.uses_perform trivial) fun listed => ?_
    split
    · exact Action.uses_pure _
    · exact (Action.uses_perform trivial).bind fun _ => ih

theorem restoreHookForService_watches {instanceId service : String} :
    (restoreHookForService instanceId service).Uses BackupCall.Watches := by
  refine Action.Uses.bind (Action.uses_perform trivial) fun listed => ?_
  split
  · exact Action.uses_pure _
  · split
    · exact hookArgv_watches.bind fun _ => Action.uses_pure _
    · exact Action.uses_pure _

theorem dbVolumesFromContainers_watches {instanceId : String} {services : List String} :
    (dbVolumesFromContainers instanceId services).Uses BackupCall.Watches :=
  (Action.uses_perform trivial).bind fun _ => Action.uses_pure _

variable (hlook : K .look)
include hlook

theorem within_of_watches {m : Job α} (h : m.Uses BackupCall.Watches) : Within K m := by
  refine h.mono fun c hc => ?_
  have hkind : c.kind = .look := by cases c <;> first | rfl | exact hc.elim
  rwa [hkind]

omit hlook in
theorem withL4Ports_within {settings : Settings} {instanceId : String} {mounts : List Mount}
    (hports : K (.exists (.l4Ports instanceId))) :
    Within K (withL4Ports settings instanceId mounts) := by
  refine Action.Uses.bind (call_within hports) fun there => ?_
  split <;> exact Action.uses_pure _

theorem backupMounts_within {settings : Settings} {instanceId : String}
    (hports : K (.exists (.l4Ports instanceId))) : Within K (backupMounts settings instanceId) :=
  Action.Uses.bind (within_of_watches hlook dataVolumes_watches) fun _ => withL4Ports_within hports

theorem hotBackupMounts_within {settings : Settings} {instanceId : String}
    {volumeClasses : List (String × String)} (hports : K (.exists (.l4Ports instanceId))) :
    Within K (hotBackupMounts settings instanceId volumeClasses) := by
  refine Action.Uses.bind (within_of_watches hlook dataVolumes_watches) fun vols => ?_
  refine Action.Uses.bind (Action.uses_ofExcept _) fun mounts => ?_
  split
  · exact Action.uses_pure _
  · exact withL4Ports_within hports

theorem getStatus_within {instanceId : String} : Within K (getStatus instanceId) :=
  within_of_watches hlook getStatus_watches

theorem waitStopped_within {instanceId : String} {timeout : Int} {missing : Bool} :
    Within K (waitStopped instanceId timeout missing) :=
  within_of_watches hlook waitStopped_watches

theorem waitDbHealthy_within {instanceId service : String} :
    Within K (waitDbHealthy instanceId service) :=
  within_of_watches hlook waitDbHealthy_watches

theorem restoreHookForService_within {instanceId service : String} :
    Within K (restoreHookForService instanceId service) :=
  within_of_watches hlook restoreHookForService_watches

omit hlook

/-! ### Pipes -/

theorem abandon_within {producer consumer : Child} {e : JobError} (hp : K producer.kind)
    (hc : K consumer.kind) : Within K (abandon producer consumer e : Job α) := by
  have hreap : ∀ {child : Child}, K child.kind → Within K (reap child) := by
    intro child h
    refine Action.Uses.tryExcept ?_ fun e => ?_
    · exact Action.Uses.bind (call_within h) fun _ => Action.uses_pure _
    · split
      · exact Action.uses_pure _
      · exact Action.uses_raise _
  unfold abandon
  split
  · refine Action.Uses.bind (call_within hp) fun _ => ?_
    refine Action.Uses.bind (call_within hc) fun _ => ?_
    refine Action.Uses.bind (hreap hp) fun _ => ?_
    exact Action.Uses.bind (hreap hc) fun _ => Action.uses_raise _
  · exact Action.uses_raise _

theorem abandon_returns {producer consumer : Child} {e : JobError} :
    (abandon producer consumer e : Job α).Returns fun r => ∀ a, r ≠ .ok a := by
  have herror : ∀ (e : JobError) (a : α), (.error e : Except JobError α) ≠ .ok a :=
    fun _ _ hx => by cases hx
  unfold abandon
  split
  · refine .thenAny herror fun _ => .thenAny herror fun _ => ?_
    exact .thenAny herror fun _ => .thenAny herror fun _ => herror _
  · exact herror _

theorem pipe_within {producer consumer : Child} (hp : K producer.kind) (hc : K consumer.kind) :
    Within K (pipe producer consumer) := by
  refine Action.Uses.bind (call_within hp) fun _ => ?_
  refine Action.Uses.bind (call_within hc) fun _ => ?_
  refine Action.Uses.tryExcept ?_ fun e => abandon_within hp hc
  refine Action.Uses.bind (call_within hc) fun _ => ?_
  exact Action.Uses.bind (call_within hp) fun _ => Action.uses_pure _

theorem dumpAndBackup_within {settings : Settings} {instanceId containerId stdinFilename : String}
    {dumpArgv : List String} (hexec : K .exec)
    (hstdin : K (.restic (.backupStdin stdinFilename (instanceTag instanceId)))) :
    Within K (dumpAndBackup settings instanceId containerId dumpArgv stdinFilename) := by
  refine Action.Uses.bind (Action.uses_ofExcept _) fun env => ?_
  refine Action.Uses.bind (pipe_within hexec hstdin) fun ends => ?_
  obtain ⟨consumed, produced⟩ := ends
  dsimp only
  split
  · exact Action.uses_raise _
  split
  · exact Action.uses_raise _
  refine Action.Uses.bind (Action.uses_ofExcept _) fun summary => ?_
  obtain ⟨snapshotId, bytesAdded⟩ := summary
  cases bytesAdded with
  | none => exact Action.uses_raise _
  | some bytes =>
    dsimp only
    split
    · exact Action.uses_raise _
    · exact Action.uses_pure _

theorem restoreDatabase_within {settings : Settings} {containerId snapshot dumpFilename : String}
    {restoreArgv : List String} (hexec : K .exec)
    (hdump : K (.restic (.dump snapshot dumpFilename))) :
    Within K (restoreDatabase settings containerId restoreArgv snapshot dumpFilename) := by
  refine Action.Uses.bind (Action.uses_ofExcept _) fun env => ?_
  refine Action.Uses.bind (pipe_within hdump hexec) fun ⟨consumed, produced⟩ => ?_
  dsimp only
  split
  · exact Action.uses_raise _
  · split
    · exact Action.uses_raise _
    · exact Action.uses_pure _

end Helpers

/-! ## The jobs -/

section Jobs
variable {K : Kind → Prop}

/-- The kinds of calls that open a repository. -/
structure OpensRepo (K : Kind → Prop) : Prop where
  catConfig : K (.restic .catConfig)
  init : K (.restic .init)
  unlock : K (.restic .unlock)

theorem lift_within {L α : Type} {m : Job α} (h : Within K m) :
    RWithin K (monadLift m : Routine Answer JobError L α) := Routine.uses_monadLift h

theorem dumpAll_within {settings : Settings} {instanceId : String} (hexec : K .exec)
    (hstdin : ∀ file, K (.restic (.backupStdin file (instanceTag instanceId))))
    (hooks : List Hook) (manifest : List (String × String)) (total : Int) :
    Within K (dumpAll settings instanceId hooks manifest total) := by
  induction hooks generalizing manifest total with
  | nil => exact Action.uses_pure _
  | cons hook rest ih =>
    exact Action.Uses.bind (dumpAndBackup_within hexec (hstdin _)) fun ⟨_, _⟩ => ih _ _

theorem snapshotData_within {settings : Settings} {instanceId : String} {mounts : List Mount}
    (hdata : K (.restic (.backup (instanceTag instanceId)))) :
    Within K (snapshotData settings instanceId mounts) := by
  refine Action.Uses.bind (runRestic_within hdata) fun ended => ?_
  dsimp only
  split
  · exact Action.uses_raise _
  · exact Action.uses_ofExcept _

theorem hotHooks_within {instanceId : String} {volumeClasses : List (String × String)}
    (hlook : K .look) : Within K (hotHooks instanceId volumeClasses) := by
  unfold hotHooks
  split
  · exact Action.uses_pure _
  refine Action.Uses.bind (within_of_watches hlook dumpHooks_watches) fun hooks => ?_
  split
  · exact Action.uses_raise _
  split
  · exact Action.uses_raise _
  · exact Action.uses_pure _

theorem hotData_within {settings : Settings} {instanceId : String} {mounts : List Mount}
    (hdata : K (.restic (.backup (instanceTag instanceId)))) :
    Within K (hotData settings instanceId mounts) := by
  unfold hotData
  split
  · exact Action.uses_pure _
  · exact Action.Uses.bind (snapshotData_within hdata) fun _ => Action.uses_pure _

theorem runHotBackup_within {settings : Settings} {instanceId backupId : String}
    {volumeClasses : List (String × String)} (hlook : K .look)
    (hports : K (.exists (.l4Ports instanceId))) (hrepo : OpensRepo K) (hexec : K .exec)
    (hdata : K (.restic (.backup (instanceTag instanceId))))
    (hstdin : ∀ file, K (.restic (.backupStdin file (instanceTag instanceId)))) :
    Within K (runHotBackup settings instanceId backupId volumeClasses) := by
  refine Action.Uses.bind (hotBackupMounts_within hlook hports) fun mounts => ?_
  split
  · exact Action.uses_raise _
  refine Action.Uses.bind (hotHooks_within hlook) fun hooks => ?_
  refine Action.Uses.bind (ensureRepo_within hrepo.catConfig hrepo.init hrepo.unlock) fun _ => ?_
  refine Action.Uses.bind (hotData_within hdata) fun ⟨manifest, total⟩ => ?_
  exact Action.Uses.bind (dumpAll_within hexec hstdin _ _ _) fun _ => Action.uses_pure _

theorem coldSnapshot_within {settings : Settings} {instanceId backupId : String}
    (hlook : K .look) (hports : K (.exists (.l4Ports instanceId))) (hrepo : OpensRepo K)
    (hdata : K (.restic (.backup (instanceTag instanceId)))) :
    RWithin K (coldSnapshot settings instanceId backupId) := by
  refine Routine.Uses.bind (lift_within (backupMounts_within hlook hports)) fun mounts => ?_
  refine Routine.Uses.bind
    (lift_within (ensureRepo_within hrepo.catConfig hrepo.init hrepo.unlock)) fun _ => ?_
  refine Routine.Uses.bind (lift_within (runRestic_within hdata)) fun ended => ?_
  split
  · exact Routine.uses_assign _
  · exact Routine.Uses.bind (lift_within (Action.uses_ofExcept _)) fun _ => Routine.uses_assign _

theorem backupBody_within {settings : Settings} {instanceId backupId : String}
    {volumeClasses : Option (List (String × String))} {wasRunning : Bool}
    (hlook : K .look) (hports : K (.exists (.l4Ports instanceId))) (hrepo : OpensRepo K)
    (hexec : K .exec) (hdata : K (.restic (.backup (instanceTag instanceId))))
    (hstdin : ∀ file, K (.restic (.backupStdin file (instanceTag instanceId))))
    (hmarker : K (.write (.backupMarker instanceId) (.marker backupId)))
    (hstop : K (.composeStop instanceId)) :
    RWithin K (backupBody settings instanceId backupId volumeClasses wasRunning) := by
  refine Routine.Uses.bind (lift_within (getStatus_within hlook)) fun st => ?_
  split
  · exact Routine.uses_assign _
  split
  · refine Routine.Uses.bind (lift_within ?_) fun _ => Routine.uses_assign _
    exact runHotBackup_within hlook hports hrepo hexec hdata hstdin
  split
  · refine Routine.Uses.bind (lift_within (writeJson_within hmarker)) fun _ => ?_
    refine Routine.Uses.bind (lift_within (call_within hstop)) fun _ => ?_
    refine Routine.Uses.bind (Routine.uses_assign _) fun _ => ?_
    refine Routine.Uses.bind (lift_within (waitStopped_within hlook)) fun rests => ?_
    split
    · exact coldSnapshot_within hlook hports hrepo hdata
    · exact Routine.uses_assign _
  · exact coldSnapshot_within hlook hports hrepo hdata

theorem backupHandler_within {e : JobError} : RWithin K (backupHandler e) := by
  cases e <;> exact Routine.uses_assign _

theorem backupRetain_within {settings : Settings} {instanceId : String}
    {destination : Option Destination} {l : BackupLocals}
    (hmarker : K (.unlink (.backupMarker instanceId)))
    (hforget : ∀ tag keep, K (.restic (.forget tag keep))) (hstats : K (.restic .stats)) :
    RWithin K (backupRetain settings instanceId destination l) := by
  refine Routine.Uses.bind (lift_within (remove_within hmarker)) fun _ => ?_
  split
  · refine Routine.Uses.bind (lift_within (forget_within hforget)) fun _ => ?_
    split
    · refine Routine.Uses.bind (lift_within (repoStats_within hstats)) fun bytes => ?_
      cases bytes with
      | none => exact Routine.uses_pure _
      | some bytes => exact Routine.uses_assign _
    · exact Routine.uses_pure _
  · exact Routine.uses_pure _

theorem backupCleanup_within {settings : Settings} {instanceId : String}
    {destination : Option Destination} (hup : K (.composeUp instanceId))
    (hmarker : K (.unlink (.backupMarker instanceId)))
    (hforget : ∀ tag keep, K (.restic (.forget tag keep))) (hstats : K (.restic .stats)) :
    RWithin K (backupCleanup settings instanceId destination) := by
  have hretain (l : BackupLocals) : RWithin K (backupRetain settings instanceId destination l) :=
    backupRetain_within hmarker hforget hstats
  rw [backupCleanup_eq]
  refine Routine.Uses.bind Routine.uses_locals fun l => ?_
  split
  · exact Routine.Uses.bind (lift_within (Action.Uses.outcome (call_within hup))) fun _ => hretain l
  · exact hretain l

theorem backupReport_within {settings : Settings} {instanceId : String} {release : Bool}
    (hrelease : K .release) (htoken : K .token) (hpost : ∀ result, K (.post result)) :
    RWithin K (backupReport settings instanceId release) := by
  have hsend : RWithin K (do
      let l ← Routine.locals
      let _ ← postCallback settings instanceId (.backup l.payload) : BackupSteps Unit) := by
    refine Routine.Uses.bind Routine.uses_locals fun l => ?_
    exact Routine.Uses.bind (lift_within (postCallback_within htoken (hpost _))) fun _ =>
      Routine.uses_pure _
  unfold backupReport
  dsimp only
  split
  · exact Routine.Uses.bind (lift_within (call_within hrelease)) fun _ => hsend
  · exact hsend

namespace RestoreRequest
variable (req : RestoreRequest)

theorem quiesce_within {started : Bool} (hlook : K .look) (hstop : K (.composeStop req.instanceId)) :
    RWithin K (req.quiesce started) := by
  unfold quiesce
  split
  · exact Routine.uses_pure _
  refine Routine.Uses.bind (lift_within (call_within hstop)) fun _ => ?_
  refine Routine.Uses.bind (lift_within (waitStopped_within hlook)) fun rests => ?_
  split
  · exact Routine.uses_pure _
  · exact Routine.Uses.bind (Routine.uses_assign _) fun _ => Routine.uses_pure _

theorem takeSafety_within {mounts : List Mount}
    (hsafety : K (.restic (.backup (safetyTag req.instanceId))))
    (hwrite : ∀ safetyId, K (.write req.stateFile (.state
      { restoreId := req.restoreId, status := .overwriting,
        safetyResticSnapshotId := some safetyId }))) :
    RWithin K (req.takeSafety mounts) := by
  refine Routine.Uses.bind (lift_within (runRestic_within hsafety)) fun ended => ?_
  split
  · exact Routine.Uses.bind (Routine.uses_assign _) fun _ => Routine.uses_pure _
  refine Routine.Uses.bind (lift_within (Action.uses_ofExcept _)) fun ⟨safetyId, _⟩ => ?_
  refine Routine.Uses.bind (Routine.uses_assign _) fun _ => ?_
  exact Routine.Uses.bind (lift_within (writeJson_within (hwrite _))) fun _ => Routine.uses_pure _

theorem dataMounts_within {mounts : List Mount} (hlook : K .look)
    (hports : K (.exists (.l4Ports req.instanceId))) :
    RWithin K (req.dataMounts mounts) := by
  unfold dataMounts
  split
  · exact Routine.uses_pure _
  refine Routine.Uses.bind (lift_within (hotBackupMounts_within hlook hports)) fun mounts => ?_
  refine Routine.Uses.bind (lift_within (within_of_watches hlook dbVolumesFromContainers_watches)) fun vols => ?_
  split
  · exact Routine.Uses.bind (Routine.uses_assign _) fun _ => Routine.uses_pure _
  · exact Routine.uses_pure _

theorem overwriteData_within {mounts : List Mount} (hrestore : ∀ snap, K (.restic (.restore snap))) :
    RWithin K (req.overwriteData mounts) := by
  unfold overwriteData
  split
  · exact Routine.uses_pure _
  refine Routine.Uses.bind (lift_within (runRestic_within (hrestore _))) fun ended => ?_
  split
  · exact Routine.Uses.bind (Routine.uses_assign _) fun _ => Routine.uses_pure _
  · exact Routine.uses_pure _

theorem restoreDumps_within (hlook : K .look) (hexec : K .exec)
    (hdump : ∀ snap file, K (.restic (.dump snap file))) (artifacts : List (String × String)) :
    RWithin K (req.restoreDumps artifacts) := by
  induction artifacts with
  | nil => exact Routine.uses_pure _
  | cons artifact rest ih =>
    obtain ⟨service, snapshot⟩ := artifact
    refine Routine.Uses.bind (lift_within (waitDbHealthy_within hlook)) fun healthy => ?_
    split
    · exact Routine.Uses.bind (Routine.uses_assign _) fun _ => Routine.uses_pure _
    refine Routine.Uses.bind (lift_within (restoreHookForService_within hlook)) fun hook => ?_
    cases hook with
    | none => exact Routine.Uses.bind (Routine.uses_assign _) fun _ => Routine.uses_pure _
    | some hook =>
      exact Routine.Uses.bind (lift_within (restoreDatabase_within hexec (hdump _ _))) fun _ => ih

theorem restoreDatabases_within (hlook : K .look) (hexec : K .exec)
    (hup : K (.composeUp req.instanceId))
    (hdump : ∀ snap file, K (.restic (.dump snap file))) : RWithin K req.restoreDatabases := by
  unfold restoreDatabases
  split
  · exact Routine.Uses.bind (Routine.uses_assign _) fun _ => Routine.uses_pure _
  refine Routine.Uses.bind (Routine.uses_assign _) fun _ => ?_
  refine Routine.Uses.bind (lift_within (call_within hup)) fun _ => ?_
  refine Routine.Uses.bind (req.restoreDumps_within hlook hexec hdump _) fun done => ?_
  split
  · exact Routine.uses_pure _
  refine Routine.Uses.bind (lift_within (call_within hup)) fun _ => ?_
  exact Routine.Uses.bind (Routine.uses_assign _) fun _ => Routine.uses_pure _

theorem overwrite_within {mounts : List Mount} (hlook : K .look)
    (hports : K (.exists (.l4Ports req.instanceId))) (hexec : K .exec)
    (hup : K (.composeUp req.instanceId)) (hdump : ∀ snap file, K (.restic (.dump snap file)))
    (hrestore : ∀ snap, K (.restic (.restore snap)))
    (hforget : ∀ tag keep, K (.restic (.forget tag keep))) : RWithin K (req.overwrite mounts) := by
  refine Routine.Uses.bind (Routine.uses_assign _) fun _ => ?_
  refine Routine.Uses.bind (req.dataMounts_within hlook hports) fun mounts => ?_
  cases mounts with
  | none => exact Routine.uses_pure _
  | some mounts =>
    refine Routine.Uses.bind (req.overwriteData_within hrestore) fun done => ?_
    split
    · exact Routine.uses_pure _
    refine Routine.Uses.bind (req.restoreDatabases_within hlook hexec hup hdump) fun done => ?_
    split
    · exact lift_within (forget_within hforget)
    · exact Routine.uses_pure _

theorem body_within {started : Bool} (hlook : K .look)
    (hports : K (.exists (.l4Ports req.instanceId))) (hexec : K .exec)
    (hstop : K (.composeStop req.instanceId)) (hrepo : OpensRepo K)
    (hup : K (.composeUp req.instanceId))
    (hsafety : K (.restic (.backup (safetyTag req.instanceId))))
    (hdump : ∀ snap file, K (.restic (.dump snap file)))
    (hrestore : ∀ snap, K (.restic (.restore snap)))
    (hforget : ∀ tag keep, K (.restic (.forget tag keep)))
    (hwrite : ∀ content, K (.write req.stateFile content)) : RWithin K (req.body started) := by
  refine Routine.Uses.bind (req.quiesce_within hlook hstop) fun rests => ?_
  split
  · exact Routine.uses_pure _
  refine Routine.Uses.bind
    (lift_within (ensureRepo_within hrepo.catConfig hrepo.init hrepo.unlock)) fun _ => ?_
  split
  · exact Routine.Uses.bind (Routine.uses_assign _) fun _ => Routine.uses_pure _
  refine Routine.Uses.bind (lift_within (backupMounts_within hlook hports)) fun mounts => ?_
  refine Routine.Uses.bind (req.takeSafety_within hsafety fun _ => hwrite _) fun done => ?_
  split
  · exact req.overwrite_within hlook hports hexec hup hdump hrestore hforget
  · exact Routine.uses_pure _

theorem handler_within {e : JobError} : RWithin K (handler e) := by
  cases e <;> exact Routine.uses_assign _

theorem teardown_within (hlook : K .look) (hstop : K (.composeStop req.instanceId))
    (htrack : K .track) :
    Within K req.teardown := by
  refine Action.Uses.bind (call_within hstop) fun _ => ?_
  refine Action.Uses.bind (call_within htrack) fun _ => ?_
  exact Action.Uses.bind (waitStopped_within hlook) fun _ => Action.uses_pure _

theorem cleanup_within {started : Bool} (hlook : K .look) (hup : K (.composeUp req.instanceId))
    (hstop : K (.composeStop req.instanceId)) (htrack : K .track)
    (hwrite : ∀ content, K (.write req.stateFile content)) : RWithin K (req.cleanup started) := by
  refine Routine.Uses.bind Routine.uses_locals fun l => ?_
  have hlast : RWithin K (writeJson req.stateFile (.state l.payload) : RestoreSteps Unit) :=
    lift_within (writeJson_within (hwrite _))
  dsimp only
  split
  · refine Routine.Uses.bind (lift_within (Action.Uses.outcome (call_within hup))) fun _ => ?_
    exact hlast
  · split
    · refine Routine.Uses.bind
        (lift_within (Action.Uses.outcome (req.teardown_within hlook hstop htrack))) fun _ => ?_
      exact hlast
    · exact hlast

/-- The report of a job, with the payload it ended with. -/
theorem report_uses {release : Bool} (l : RestoreLocals) (hhandoff : K .handoff)
    (hrelease : K .release) (htoken : K .token) (hpost : K (.post (.restore l.payload)))
    (hunlink : K (.unlink req.stateFile)) :
    (req.report release l).Uses fun c => K c.kind := by
  have hsend : RWithin K (do
      if ← postCallback req.settings req.instanceId (.restore l.payload) then
        remove req.stateFile : RestoreSteps Unit) := by
    refine Routine.Uses.bind (lift_within (postCallback_within htoken hpost)) fun acked => ?_
    split
    · exact lift_within (remove_within hunlink)
    · exact Routine.uses_pure _
  have hfree : RWithin K (do
      if release then
        call .releaseLock
      if ← postCallback req.settings req.instanceId (.restore l.payload) then
        remove req.stateFile : RestoreSteps Unit) := by
    split
    · exact Routine.Uses.bind (lift_within (call_within hrelease)) fun _ => hsend
    · exact hsend
  have hreport : RWithin K (do
      if l.payload.status = .success ∧ l.payload.alreadyRunning = false then
        call (.reserveHandoff req.instanceId)
      if release then
        call .releaseLock
      if ← postCallback req.settings req.instanceId (.restore l.payload) then
        remove req.stateFile : RestoreSteps Unit) := by
    dsimp only
    split
    · exact Routine.Uses.bind (lift_within (call_within hhandoff)) fun _ => hfree
    · exact hfree
  exact hreport l

theorem report_within {release : Bool} (hhandoff : K .handoff) (hrelease : K .release)
    (htoken : K .token) (hpost : ∀ result, K (.post result)) (hunlink : K (.unlink req.stateFile)) :
    RWithin K (req.report release) :=
  fun l => req.report_uses l hhandoff hrelease htoken (hpost _) hunlink

/-! ### What the blocks assign -/

/-- What a failure, and the id of the safety snapshot, leave true of the variables. -/
structure KeptByFailure (P : RestoreLocals → Prop) : Prop where
  fail : ∀ code l, P l → P (RestoreLocals.fail code l)
  failWithSafety : ∀ code l, P l → P (RestoreLocals.failWithSafety code l)
  safetyId : ∀ id l, P l → P { l with safetyId := id }

section Kept
variable {P : RestoreLocals → Prop} (hP : KeptByFailure P)
include hP

theorem quiesce_keeps {started : Bool} : (req.quiesce started).Keeps P := by
  unfold quiesce
  split
  · exact Routine.keeps_pure _
  refine Routine.keeps_lift.bind fun _ => Routine.keeps_lift.bind fun rests => ?_
  split
  · exact Routine.keeps_pure _
  · exact (Routine.keeps_assign (hP.fail _)).bind fun _ => Routine.keeps_pure _

theorem takeSafety_keeps {mounts : List Mount} : (req.takeSafety mounts).Keeps P := by
  refine Routine.keeps_lift.bind fun ended => ?_
  split
  · exact (Routine.keeps_assign (hP.fail _)).bind fun _ => Routine.keeps_pure _
  refine Routine.keeps_lift.bind fun ⟨safetyId, _⟩ => ?_
  exact (Routine.keeps_assign (hP.safetyId _)).bind fun _ => Routine.keeps_lift.bind fun _ =>
    Routine.keeps_pure _

theorem dataMounts_keeps {mounts : List Mount} : (req.dataMounts mounts).Keeps P := by
  unfold dataMounts
  split
  · exact Routine.keeps_pure _
  refine Routine.keeps_lift.bind fun _ => Routine.keeps_lift.bind fun _ => ?_
  split
  · exact (Routine.keeps_assign (hP.failWithSafety _)).bind fun _ => Routine.keeps_pure _
  · exact Routine.keeps_pure _

theorem overwriteData_keeps {mounts : List Mount} : (req.overwriteData mounts).Keeps P := by
  unfold overwriteData
  split
  · exact Routine.keeps_pure _
  refine Routine.keeps_lift.bind fun _ => ?_
  split
  · exact (Routine.keeps_assign (hP.failWithSafety _)).bind fun _ => Routine.keeps_pure _
  · exact Routine.keeps_pure _

theorem restoreDumps_keeps (artifacts : List (String × String)) :
    (req.restoreDumps artifacts).Keeps P := by
  induction artifacts with
  | nil => exact Routine.keeps_pure _
  | cons artifact rest ih =>
    obtain ⟨service, snapshot⟩ := artifact
    refine Routine.keeps_lift.bind fun healthy => ?_
    split
    · exact (Routine.keeps_assign (hP.failWithSafety _)).bind fun _ => Routine.keeps_pure _
    refine Routine.keeps_lift.bind fun hook => ?_
    cases hook with
    | none =>
      exact (Routine.keeps_assign (hP.failWithSafety _)).bind fun _ => Routine.keeps_pure _
    | some hook => exact Routine.keeps_lift.bind fun _ => ih

end Kept

end RestoreRequest

end Jobs

end Greffer.Backup

import Greffer.Backup.Footprints

/-! # Whose files a job touches

**A job looks at, writes and removes files of its own instance, and runs compose for it.**
Everything else that it calls is apart from files, as the kind of the call says.
-/
namespace Greffer.Backup
open Effects

/-- The call is apart from files and from compose, or about those of the instance. -/
def Owns (instanceId : String) (own : FileRef → Prop) : BackupCall → Prop
  | .exists file | .writeText file _ | .unlink file => own file
  | .composeStop i | .composeUp i _ => i = instanceId
  | _ => True

/-- The kinds of these calls. -/
def Owned (instanceId : String) (own : FileRef → Prop) : Kind → Prop
  | .exists file | .write file _ | .unlink file => own file
  | .composeStop i | .composeUp i => i = instanceId
  | _ => True

section
variable {instanceId : String} {own : FileRef → Prop}

theorem owns_of_owned {c : BackupCall} (h : Owned instanceId own c.kind) :
    Owns instanceId own c := by
  cases c <;> first | exact h | trivial

theorem uses_of_owned {L α : Type} {m : Routine Answer JobError L α}
    (h : RWithin (Owned instanceId own) m) : m.Uses (Owns instanceId own) :=
  fun l => (h l).mono fun _ => owns_of_owned

theorem owned_repo : OpensRepo (Owned instanceId own) := ⟨trivial, trivial, trivial⟩

/-- **A backup's files are its own instance's**: the ports file and the marker. -/
theorem backupThread_owns (hports : own (.l4Ports instanceId))
    (hmarker : own (.backupMarker instanceId)) {settings : Settings} {backupId : String}
    {destination : Option Destination} {volumeClasses : Option (List (String × String))} :
    (backupThread settings instanceId backupId destination volumeClasses).Uses
      (Owns instanceId own) := by
  refine uses_of_owned (Routine.Uses.tryFinally ?_ (lift_within (call_within trivial)))
  refine Routine.Uses.bind (Routine.uses_assign _) fun _ => ?_
  refine Routine.Uses.bind (lift_within (getStatus_within trivial)) fun st => ?_
  refine Routine.Uses.tryFinally ?_ ?_
  · refine Routine.Uses.tryExcept ?_ fun _ => backupHandler_within
    exact backupBody_within trivial hports owned_repo trivial trivial (fun _ => trivial) hmarker rfl
  · refine Routine.Uses.bind ?_ fun _ => backupReport_within trivial trivial fun _ => trivial
    exact backupCleanup_within rfl hmarker (fun _ _ => trivial) trivial

/-- **So are a restore's**: the ports file and the state file. -/
theorem restoreThread_owns {settings : Settings} {snapshotId restoreId : String}
    (hports : own (.l4Ports instanceId)) (hstate : own (.restoreState instanceId restoreId))
    {destination : Option Destination} {manifest volumeClasses : Option (List (String × String))} :
    (restoreThread settings instanceId snapshotId restoreId destination manifest
      volumeClasses).Uses (Owns instanceId own) := by
  let req : RestoreRequest := ⟨effectiveSettings settings destination instanceId, instanceId,
    snapshotId, restoreId, manifest, volumeClasses⟩
  refine uses_of_owned (Routine.Uses.tryFinally ?_ (lift_within (call_within trivial)))
  refine Routine.Uses.bind (Routine.uses_assign _) fun _ => ?_
  refine Routine.Uses.bind (lift_within (getStatus_within trivial)) fun st => ?_
  refine Routine.Uses.tryFinally ?_ ?_
  · refine Routine.Uses.tryExcept ?_ fun _ => RestoreRequest.handler_within
    exact req.body_within trivial hports trivial rfl owned_repo rfl trivial (fun _ _ => trivial)
      (fun _ => trivial) (fun _ _ => trivial) fun _ => hstate
  · refine Routine.Uses.bind (req.cleanup_within trivial rfl rfl trivial fun _ => hstate) fun _ => ?_
    exact req.report_within trivial trivial trivial (fun _ => trivial) hstate

end

end Greffer.Backup

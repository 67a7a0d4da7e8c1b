import Greffer.Backup.OwnFiles
import Greffer.Compose.Preflight
import Greffer.Effects.Touching
import Greffer.Instance.BakedFiles
import Greffer.Instance.Teardown
import Greffer.Python.Paths

/-! # Where an instance's files are

The endpoints of an instance join fields of their requests to `$GREFFON_PATH`: the id, the
name of a baked file, the id of a restore.  **A path is contained** if it lies in the
directory of the id once it is normalized, and the id is one component of a path.

The id of a start, a stop, a backup, a restore and a decommission has a pattern, and the
names of baked files are checked; whatever these requests make of them is contained.  The
restore id has only a length, and `/restore-status/` takes both of its fields as they come.
So **a restore is contained exactly if its restore id, read as a path, returns to the
instance's directory** (`paths_contained_iff`): `.restore_` and `.json` stand around it, and
what is between may climb.
-/
namespace Greffer.Instance
open Effects
open Compose (Yaml Entries Dict Greffon GreffonInfo Configuration VolumeFile VolumeInfo joinPath
  acceptedId createGreffonInfo nginxService)
open Paths (isComponent Inside Returns)
open Backup (AcceptedJob FileRef BackupCall)

/-- The path lies in the directory of the instance, which one component names. -/
def Contained (root instanceId path : String) : Prop :=
  isComponent instanceId = true ∧ Inside (Paths.join root instanceId) path

/-! ## The stop and the restore status -/

/-- The calls of a stop. -/
inductive StopCall where
  | updateInProgress
  /-- `os.path.exists`, of the instance's directory. -/
  | dirExists (instanceId : String)
  /-- `os.makedirs`, of the instance's directory. -/
  | makeDir (instanceId : String)
  /-- `docker-compose … stop`, which is only started. -/
  | composeStop (instanceId : String)
  | trackComposeChild (instanceId : String)
  | writeClientToml (content : Option String)

/-- What each call answers when it raises nothing. -/
@[reducible] def StopCall.Answer : StopCall → Type
  | .updateInProgress | .dirExists _ => Bool
  | .makeDir _ | .composeStop _ | .trackComposeChild _ | .writeClientToml _ => Unit

/-- The code of a stop. -/
abbrev Stopping := Action (ControlCall.Answer StopCall.Answer) ControlError

/-- Make one call. -/
abbrev stopOp (c : StopCall) : Stopping c.Answer := Action.perform (ControlCall.handler c)

/-- `compose.stop`: `get_greffon_path` makes the directory if it is not there. -/
def stopCompose (instanceId : String) : Stopping Unit := do
  if !(← stopOp (.dirExists instanceId)) then
    stopOp (.makeDir instanceId)
  stopOp (.composeStop instanceId)

/-- `stop_greffon`. -/
def stopGreffon (instanceId : String) (tunnelClientToml : Option String) : Stopping Unit := do
  if ← stopOp .updateInProgress then
    Action.raise (.http 409 "update_in_progress")
  else
    stopCompose instanceId
    stopOp (.trackComposeChild instanceId)
    stopOp (.writeClientToml tunnelClientToml)

/-- The endpoint, with the lock it holds. -/
def stopRequest (instanceId : String) (tunnelClientToml : Option String) : Stopping Unit :=
  serializeInstanceOp instanceId (stopGreffon instanceId tunnelClientToml)

/-- The calls of `/restore-status/`. -/
inductive StatusFileCall where
  | exists (path : String)
  /-- `json.loads(path.read_text())`. -/
  | loads (path : String)

/-- What each call answers when it raises nothing. -/
@[reducible] def StatusFileCall.Answer : StatusFileCall → Type
  | .exists _ => Bool
  | .loads _ => Backup.RestorePayload

/-- The name of a restore's state file. -/
def stateName (restoreId : String) : String := ".restore_" ++ restoreId ++ ".json"

/-- `_restore_state_path`. -/
def restoreStatePath (root instanceId restoreId : String) : String :=
  Paths.join (Paths.join root instanceId) (stateName restoreId)

/-- The exceptions that `restore_status` answers with `unknown`. -/
def unreadable : Exn → Bool
  | .osError _ | .valueError _ => true
  | _ => false

/-- `restore_status`: the persisted payload, or `none` for `unknown`. -/
def restoreStatus (root instanceId restoreId : String) :
    Action StatusFileCall.Answer Exn (Option Backup.RestorePayload) := do
  let path := restoreStatePath root instanceId restoreId
  if ← Action.perform (StatusFileCall.exists path) then
    Action.tryExcept (do
        let payload ← Action.perform (StatusFileCall.loads path)
        return some payload)
      fun e => if unreadable e then return none else Action.raise e
  else return none

/-! ## What the calls touch -/

/-- The file of a path is in the directory of the instance. -/
def instanceFile (root instanceId name : String) : String :=
  Paths.join (Paths.join root instanceId) name

/-- The path of a file that is copied from. -/
def VolumeFile.source? : VolumeFile → Option String
  | .path src _ => some src
  | .content _ _ => none

/-- The paths of a start's calls.  The ports of the fourth layer are kept in a file. -/
def StartCall.touched (root instanceId : String) : StartCall → List String
  | .allocatePorts _ info => [instanceFile root info.id "l4_ports.json"]
  | .dirExists | .makeDir => [Paths.join root instanceId]
  | .exists name | .remove name => [instanceFile root instanceId name]
  | .makeStageDir => [instanceFile root instanceId "config"]
  | .writeStaged name _ => [Paths.join (instanceFile root instanceId "config") name]
  | .writeCompose _ => [instanceFile root instanceId composeName]
  | .createNginxConf info => [instanceFile root info.id "nginx.conf"]
  | .createVolumesThenCopyFiles info =>
    info.volumes.flatMap fun v => v.2.files.filterMap VolumeFile.source?
  | .composeStart i => [instanceFile root i composeName, instanceFile root i "deploy.log"]
  | _ => []

/-- The paths of a stop's calls. -/
def StopCall.touched (root : String) : StopCall → List String
  | .dirExists i | .makeDir i => [Paths.join root i]
  | .composeStop i => [instanceFile root i composeName]
  | _ => []

/-- The paths of a decommission's calls. -/
def OpCall.touched (root : String) : OpCall → List String
  | .composeFileExists i | .writeCompose i _ | .composeDown i | .composeUp i | .composeStop i =>
    [instanceFile root i composeName]
  | .removeCompose i => [instanceFile root i templateName, instanceFile root i composeName]
  | .rmtree i | .dirExists i => [Paths.join root i]
  | _ => []

/-- A file of the backup engine, as `pathlib` joins it. -/
def fileLocation (root : String) : FileRef → String
  | .l4Ports i => instanceFile root i "l4_ports.json"
  | .backupMarker i => instanceFile root i ".backup_inprogress"
  | .restoreState i r => restoreStatePath root i r

/-- The paths of a job's calls.  A mounted ports file has been looked at before. -/
def jobTouched (root : String) : BackupCall → List String
  | .exists file | .writeText file _ | .unlink file => [fileLocation root file]
  | .composeStop i => [Paths.join root i, instanceFile root i composeName]
  | .composeUp i _ => [instanceFile root i composeName]
  | _ => []

/-- The path of a status call. -/
def StatusFileCall.touched : StatusFileCall → List String
  | .exists path | .loads path => [path]

/-- A handler's calls, between those of the lock. -/
def ControlCall.touched {H : Type} (touched : H → List String) : ControlCall H → List String
  | .handler h => touched h
  | _ => []

/-- **An allocation gives ports, and nothing else.** -/
def Allocates : (c : ControlCall StartCall) →
    Raises (ControlCall.Answer StartCall.Answer) ControlError c → Prop
  | .handler (.allocatePorts _ info), r => ∀ allocated, r = .ok (.ok allocated) →
      allocated.id = info.id ∧ allocated.volumes = info.volumes
  | _, _ => True

/-! ## The requests -/

/-- A request whose fields become paths, with the directory of all instances. -/
inductive FileRequest where
  | start (settings : StartSettings) (repr : Repr)
      (parse : String → Except Compose.ParseError Yaml) (greffon : Greffon)
      (tunnelClientToml : Option String)
  | stop (root instanceId : String) (tunnelClientToml : Option String)
  /-- `/backup/` and `/restore/`. -/
  | job (job : AcceptedJob)
  | decommission (root instanceId : String)
  | restoreStatus (root instanceId restoreId : String)

/-- `Field(min_length=1, max_length=64)`. -/
def acceptedText (text : String) : Bool := 1 ≤ text.length && text.length ≤ 64

/-- The directory that a job's settings name. -/
def jobRoot : AcceptedJob → String
  | .backup settings _ _ _ _ => settings.greffonPath
  | .restore settings _ _ _ _ _ _ => settings.greffonPath

namespace FileRequest

/-- What the request models accept.  `/restore-status/` has no model. -/
def accepted : FileRequest → Bool
  | start _ _ _ greffon _ => acceptedId greffon.id
  | stop _ instanceId _ => acceptedId instanceId
  | job (.backup _ instanceId backupId _ _) => acceptedId instanceId && acceptedText backupId
  | job (.restore _ instanceId snapshotId restoreId _ _ _) =>
    acceptedId instanceId && acceptedText snapshotId && acceptedText restoreId
  | decommission _ instanceId => acceptedId instanceId
  | restoreStatus _ _ _ => true

/-- Every path that any run of the request touches is contained. -/
def Contains : FileRequest → Prop
  | start settings repr parse greffon toml =>
    Prog.TouchesOnly (ControlCall.touched (StartCall.touched settings.greffonPath greffon.id))
      Allocates (Contained settings.greffonPath greffon.id)
      (startRequest settings repr parse greffon toml)
  | stop root instanceId toml =>
    Prog.TouchesOnly (ControlCall.touched (StopCall.touched root)) (fun _ _ => True)
      (Contained root instanceId) (stopRequest instanceId toml)
  | job j =>
    Prog.TouchesOnly (jobTouched (jobRoot j)) (fun _ _ => True)
      (Contained (jobRoot j) j.instanceId)
      (do Backup.spawn j.instanceId; j.thread : Backup.Job Unit)
  | decommission root instanceId =>
    Prog.TouchesOnly (ControlCall.touched (OpCall.touched root)) (fun _ _ => True)
      (Contained root instanceId) (Instance.decommission instanceId)
  | restoreStatus root instanceId restoreId =>
    Prog.TouchesOnly StatusFileCall.touched (fun _ _ => True) (Contained root instanceId)
      (Instance.restoreStatus root instanceId restoreId)

/-- **The restore id returns**, and a status's id is one component. -/
def Returning : FileRequest → Prop
  | job (.restore settings instanceId _ restoreId _ _ _) =>
    Returns (Paths.join settings.greffonPath instanceId) (stateName restoreId)
  | restoreStatus root instanceId restoreId =>
    isComponent instanceId = true ∧ Returns (Paths.join root instanceId) (stateName restoreId)
  | _ => True

end FileRequest

/-! ## Components -/

theorem isComponent_of_accepted {id : String} (h : acceptedId id = true) :
    isComponent id = true := by
  rw [acceptedId, Bool.and_eq_true, Bool.and_eq_true, List.all_eq_true] at h
  obtain ⟨⟨hne, -⟩, hall⟩ := h
  have hdot : '.' ∉ id.toList := fun hmem => absurd (hall _ hmem) (by decide)
  have hslash : '/' ∉ id.toList := fun hmem => absurd (hall _ hmem) (by decide)
  have hno (text : String) (htext : '.' ∈ text.toList) : id ≠ text :=
    fun heq => hdot (heq ▸ htext)
  simp [isComponent, hno "." (by decide), hno ".." (by decide), bne_iff_ne.mp hne, hslash]

theorem isComponent_of_bare {name : String} (h : isBareName name = true) :
    isComponent name = true := by
  simp only [isBareName, Bool.and_eq_true, List.all_eq_true] at h
  obtain ⟨⟨⟨hne, hdot⟩, hup⟩, hall⟩ := h
  have hslash : '/' ∉ name.toList := fun hmem => absurd (hall _ hmem) (by decide)
  simp [isComponent, bne_iff_ne.mp hne, bne_iff_ne.mp hdot, bne_iff_ne.mp hup, hslash]

/-- The compose's join is `os.path.join`, for a relative name. -/
theorem joinPath_eq {base name : String} (h : isComponent name = true) :
    joinPath base name = Paths.join base name := by
  rw [Paths.join, if_neg (by simp [Paths.isAbsolute_of_isComponent h])]
  rfl

section Contained
variable {root id : String}

theorem contained_dir (hid : isComponent id = true) : Contained root id (Paths.join root id) :=
  ⟨hid, .refl _⟩

theorem contained_file (hid : isComponent id = true) {name : String}
    (hname : isComponent name = true) : Contained root id (instanceFile root id name) :=
  ⟨hid, (Inside.refl _).join_component hname⟩

theorem Contained.join {path name : String} (h : Contained root id path)
    (hname : isComponent name = true) : Contained root id (Paths.join path name) :=
  ⟨h.1, h.2.join_component hname⟩

/-- The state file's name begins with a dot. -/
theorem stateName_relative (restoreId : String) :
    Paths.isAbsolute (stateName restoreId) = false := by
  rw [Paths.isAbsolute, stateName, String.append_assoc, String.toList_append]
  rfl

/-- **The state file is contained exactly if its restore id returns.** -/
theorem contained_state_iff (hid : isComponent id = true) (restoreId : String) :
    Contained root id (restoreStatePath root id restoreId) ↔
      Returns (Paths.join root id) (stateName restoreId) := by
  have hup : id.toList ≠ Paths.up := by
    intro heq
    have hname : id = ".." := String.toList_injective heq
    rw [hname] at hid
    exact absurd hid (by decide)
  have htop : (Paths.normal (Paths.join root id)).2.head? = some id.toList := by
    rw [Paths.normal_join_component hid]
    rfl
  rw [← Paths.inside_join_iff (stateName_relative restoreId) htop hup]
  exact ⟨And.right, fun h => ⟨hid, h⟩⟩

end Contained

/-! ## What a start knows of its instance -/

/-- The files that are copied into volumes are the instance's own. -/
def Filed (root instanceId : String) (volumes : Dict VolumeInfo) : Prop :=
  ∀ e ∈ volumes, ∀ f ∈ e.2.files, ∀ src, VolumeFile.source? f = some src →
    Contained root instanceId src

/-- An info of the instance, whose files are its own. -/
structure Own (root instanceId : String) (info : GreffonInfo) : Prop where
  id : info.id = instanceId
  files : Filed root instanceId info.volumes

theorem Filed.set {root id : String} {volumes : Dict VolumeInfo} (h : Filed root id volumes)
    {k : Yaml} {v : VolumeInfo} (hfiles : ∀ f ∈ v.files, ∀ src, VolumeFile.source? f = some src →
      Contained root id src) : Filed root id (Dict.set volumes k v) := by
  intro e he
  rcases Dict.mem_set he with he | ⟨heq, -⟩
  · exact h e he
  · exact heq ▸ hfiles

theorem filed_kept (root id : String) : Compose.KeptByCollection (Filed root id) := by
  refine ⟨fun hv hfiles => hv.set ?_, fun hv hget hfiles => hv.set ?_⟩
  · rw [hfiles]
    rintro f ⟨⟩
  · rw [hfiles]
    exact hv _ (Dict.mem_of_get? hget)

/-- nginx's volume has its configuration copied from the instance's directory. -/
theorem filed_nginx {root : String} {greffon : Greffon} (hid : isComponent greffon.id = true) :
    Filed root greffon.id [(.str nginxService, Compose.nginxVolume root greffon)] := by
  intro e he f hf src hsrc
  rw [List.mem_singleton.mp he] at hf
  simp only [Compose.nginxVolume, List.mem_cons, List.not_mem_nil, or_false] at hf
  rcases hf with rfl | rfl | rfl
  · cases hsrc
    have hconf : isComponent "nginx.conf" = true := by decide
    rw [joinPath_eq hconf, joinPath_eq hid]
    exact contained_file hid hconf
  · cases hsrc
  · cases hsrc

theorem own_of_created {root : String} {compose : Yaml} {greffon : Greffon} {strict : Bool}
    {extraKeys : Option String} {info : GreffonInfo} {normalized : Entries}
    (hid : isComponent greffon.id = true)
    (h : createGreffonInfo root compose greffon strict extraKeys = .ok (info, normalized)) :
    Own root greffon.id info := by
  obtain ⟨hfiles, hsame⟩ := (filed_kept root greffon.id).created (filed_nginx hid) h
  exact ⟨hsame, hfiles⟩

theorem Own.append {root id : String} {info : GreffonInfo} (h : Own root id info)
    (hid : isComponent id = true) (volume : Yaml) {name : String}
    (hname : isComponent name = true) :
    Own root id (appendFile info volume (.path (stagedPath root info.id name) name)) := by
  refine ⟨h.id, fun e he f hf src hsrc => ?_⟩
  obtain ⟨e', he', rfl⟩ := List.mem_map.mp he
  split at hf
  · rcases List.mem_append.mp hf with hf | hf
    · exact h.files e' he' f hf src hsrc
    · rw [List.mem_singleton.mp hf] at hsrc
      cases hsrc
      have hconfig : isComponent "config" = true := by decide
      rw [h.id, stagedPath, joinPath_eq hname, joinPath_eq hconfig, joinPath_eq hid]
      exact ((contained_dir hid).join (by decide)).join hname
  · exact h.files e' he' f hf src hsrc

/-! ## A start -/

section Start
variable {settings : StartSettings} {repr : Repr} {setter : EnvironmentSetter} {id : String}
  (hid : isComponent id = true)

/-- The start's calls, in the directory of its instance. -/
abbrev StartsWithin {α : Type} (settings : StartSettings) (id : String) (P : α → Prop)
    (m : Starting α) : Prop :=
  m.Secures (ControlCall.touched (StartCall.touched settings.greffonPath id)) Allocates
    (Contained settings.greffonPath id) P

theorem starts_aside {c : StartCall} (h : c.touched settings.greffonPath id = []) :
    StartsWithin settings id (fun _ => True) (startOp c) := Action.secures_aside h

theorem starts_at {c : StartCall} {path : String}
    (hc : c.touched settings.greffonPath id = [path])
    (h : Contained settings.greffonPath id path) :
    StartsWithin settings id (fun _ => True) (startOp c) := Action.secures_at hc h

include hid

theorem getGreffonPath_starts : StartsWithin settings id (fun _ => True) getGreffonPath := by
  unfold getGreffonPath
  refine (starts_at rfl (contained_dir hid)).bind fun there _ => ?_
  split
  · exact starts_at rfl (contained_dir hid)
  · exact Action.secures_pure trivial

theorem removeIfThere_starts {name : String} (hname : isComponent name = true) :
    StartsWithin settings id (fun _ => True) (removeIfThere name) := by
  unfold removeIfThere
  refine (starts_at rfl (contained_file hid hname)).bind fun there _ => ?_
  split
  · exact starts_at rfl (contained_file hid hname)
  · exact Action.secures_pure trivial

theorem removeComposeFile_starts : StartsWithin settings id (fun _ => True) removeComposeFile := by
  unfold removeComposeFile
  refine (getGreffonPath_starts hid).bind fun _ _ => ?_
  refine (removeIfThere_starts hid (by decide)).bind fun _ _ => ?_
  exact removeIfThere_starts hid (by decide)

theorem stagedDestinationPath_starts (info : GreffonInfo) (destination : Entries) :
    StartsWithin settings id (fun r => ∀ staged, r = .ok staged → isComponent staged.1 = true)
      (stagedDestinationPath repr info destination) := by
  unfold stagedDestinationPath
  cases hname : stagedName repr info destination with
  | error e =>
    cases e with
    | refused message => exact Action.secures_pure fun _ h => by cases h
    | raised e => exact Action.secures_raise _
  | ok staged =>
    refine (getGreffonPath_starts hid).bind fun _ _ => ?_
    refine (starts_at rfl (contained_file hid (by decide))).bind fun _ _ => ?_
    refine Action.secures_pure fun _ h => ?_
    cases h
    exact isComponent_of_bare (stagedName_volume hname).1

omit hid in
theorem renderBakedFile_starts (info : GreffonInfo) (raw : RawData) (name : String) :
    StartsWithin settings id (fun _ => True) (renderBakedFile info raw name) := by
  unfold renderBakedFile
  refine (starts_aside rfl).bind fun r _ => ?_
  cases r <;> exact Action.secures_pure trivial

omit hid in
theorem renderedJson_starts (info : GreffonInfo) (destination : Entries) (value : Yaml)
    (name : String) :
    StartsWithin settings id (fun _ => True) (renderedJson info destination value name) := by
  unfold renderedJson
  split
  · split
    · exact Action.secures_pure trivial
    · refine (renderBakedFile_starts info _ name).bind fun r _ => ?_
      cases r <;> exact Action.secures_pure trivial
    · exact (starts_aside rfl).bind fun _ _ => Action.secures_pure trivial
  · exact Action.secures_pure trivial

omit hid in
theorem renderedFile_starts (info : GreffonInfo) (destination : Entries) (raw : RawData)
    (name : String) :
    StartsWithin settings id (fun _ => True) (renderedFile info destination raw name) := by
  unfold renderedFile
  split
  · refine (renderBakedFile_starts info _ name).bind fun r _ => ?_
    cases r <;> exact Action.secures_pure trivial
  · exact Action.secures_pure trivial

theorem writeAndList_starts {info : GreffonInfo} (hinfo : Own settings.greffonPath id info)
    {staged : String × Yaml} (hname : isComponent staged.1 = true) (data : StagedData) :
    StartsWithin settings id (Own settings.greffonPath id)
      (writeAndList settings info staged data) := by
  unfold writeAndList
  refine (starts_at rfl ((contained_file hid (by decide)).join hname)).bind fun _ _ => ?_
  exact Action.secures_pure (hinfo.append hid staged.2 hname)

theorem applyJson_starts {info : GreffonInfo} (hinfo : Own settings.greffonPath id info)
    (destination : Entries) (value : Yaml) :
    StartsWithin settings id (fun r => ∀ info', r = .ok info' → Own settings.greffonPath id info')
      (applyJson settings repr info destination value) := by
  unfold applyJson
  refine (stagedDestinationPath_starts hid info destination).bind fun r hr => ?_
  cases r with
  | error message => exact Action.secures_pure fun _ h => by cases h
  | ok staged =>
    refine (renderedJson_starts info destination value staged.1).bind fun r _ => ?_
    cases r with
    | error message => exact Action.secures_pure fun _ h => by cases h
    | ok v =>
      refine (writeAndList_starts hid hinfo (hr staged rfl) _).bind fun info' h => ?_
      exact Action.secures_pure fun _ heq => Except.ok.inj heq ▸ h

omit hid in
theorem settle_starts {α : Type} (r : Except Exn α) :
    StartsWithin settings id (fun _ => True) (settle r) :=
  Action.secures_ofExcept fun _ _ => trivial

theorem applyFile_starts {info : GreffonInfo} (hinfo : Own settings.greffonPath id info)
    (destination : Entries) (value : Yaml) :
    StartsWithin settings id (fun r => ∀ info', r = .ok info' → Own settings.greffonPath id info')
      (applyFile settings repr info destination value) := by
  unfold applyFile
  refine (stagedDestinationPath_starts hid info destination).bind fun r hr => ?_
  cases r with
  | error message => exact Action.secures_pure fun _ h => by cases h
  | ok staged =>
    refine (removeComposeFile_starts hid).bind fun _ _ => ?_
    refine (settle_starts _).bind fun uri _ => ?_
    refine (starts_aside rfl).bind fun raw _ => ?_
    refine (renderedFile_starts info destination raw staged.1).bind fun r _ => ?_
    cases r with
    | error message => exact Action.secures_pure fun _ h => by cases h
    | ok data =>
      refine (writeAndList_starts hid hinfo (hr staged rfl) _).bind fun info' h => ?_
      exact Action.secures_pure fun _ heq => Except.ok.inj heq ▸ h

theorem applyDestination_starts {info : GreffonInfo} (hinfo : Own settings.greffonPath id info)
    (template : Entries) (value destination : Yaml) :
    StartsWithin settings id (fun r => ∀ out, r = .ok out → Own settings.greffonPath id out.1)
      (applyDestination settings repr setter info template value destination) := by
  unfold applyDestination
  refine (settle_starts _).bind fun type _ => ?_
  split
  · refine (applyJson_starts hid hinfo _ value).bind fun r hr => ?_
    cases r with
    | error message => exact Action.secures_pure fun _ h => by cases h
    | ok info' => exact Action.secures_pure fun _ h => Except.ok.inj h ▸ hr info' rfl
  split
  · have henv : StartsWithin settings id (fun _ => True)
        (applyEnv setter template destination.entries value) := by
      unfold applyEnv
      exact (removeComposeFile_starts hid).bind fun _ _ => settle_starts _
    refine henv.bind fun template' _ => ?_
    exact Action.secures_pure fun _ h => Except.ok.inj h ▸ hinfo
  split
  · refine (applyFile_starts hid hinfo _ value).bind fun r hr => ?_
    cases r with
    | error message => exact Action.secures_pure fun _ h => by cases h
    | ok info' => exact Action.secures_pure fun _ h => Except.ok.inj h ▸ hr info' rfl
  · exact Action.secures_pure fun _ h => Except.ok.inj h ▸ hinfo

/-- **The loop of the configurations** keeps the info its own. -/
theorem applyDestinations_starts {info : GreffonInfo} (hinfo : Own settings.greffonPath id info)
    (template : Entries) (destinations : List (Except Exn (Yaml × Yaml))) :
    StartsWithin settings id (fun r => ∀ out, r = .ok out → Own settings.greffonPath id out.1)
      (applyDestinations settings repr setter info template destinations) := by
  induction destinations generalizing info template with
  | nil => exact Action.secures_pure fun _ h => Except.ok.inj h ▸ hinfo
  | cons x rest ih =>
    cases x with
    | error e => exact Action.secures_raise _
    | ok p =>
      unfold applyDestinations
      refine (applyDestination_starts hid hinfo template p.1 p.2).bind fun r hr => ?_
      cases r with
      | error message => exact Action.secures_pure fun _ h => by cases h
      | ok out => exact ih (hr out rfl) out.2

theorem createCompose_starts (info : GreffonInfo) (template : Entries) :
    StartsWithin settings id (fun _ => True) (createCompose info template) := by
  unfold createCompose
  refine (getGreffonPath_starts hid).bind fun _ _ => ?_
  refine (starts_aside rfl).bind fun r _ => ?_
  cases r with
  | error message => exact Action.secures_pure trivial
  | ok text =>
    refine (starts_at rfl (contained_file hid (by decide))).bind fun _ _ => ?_
    exact Action.secures_pure trivial

theorem bringUp_starts {info : GreffonInfo} (hinfo : Own settings.greffonPath id info)
    (tunnelClientToml : Option String) :
    StartsWithin settings id (fun _ => True) (bringUp settings info tunnelClientToml) := by
  unfold bringUp
  refine (starts_at rfl ?_).bind fun _ _ => ?_
  · rw [hinfo.id]
    exact contained_file hid (by decide)
  refine (Action.secures_perform ?_ fun _ _ => trivial).bind fun _ (_ : True) => ?_
  · intro t ht
    obtain ⟨e, he, ht⟩ := List.mem_flatMap.mp ht
    obtain ⟨f, hf, hsrc⟩ := List.mem_filterMap.mp ht
    exact hinfo.files e he f hf t hsrc
  refine (Action.secures_perform ?_ fun _ _ => trivial).bind fun _ (_ : True) => ?_
  · rw [hinfo.id]
    intro t ht
    rcases List.mem_pair.mp ht with rfl | rfl
    · exact contained_file hid (by decide)
    · exact contained_file hid (by decide)
  refine (starts_aside rfl).bind fun _ _ => ?_
  split
  · exact (starts_aside rfl).bind fun _ _ => starts_aside rfl
  · exact starts_aside rfl

theorem startParsed_starts {info : GreffonInfo} (hinfo : Own settings.greffonPath id info)
    (compose : Entries) (tunnelClientToml : Option String) :
    StartsWithin settings id (fun _ => True)
      (startParsed settings repr info compose tunnelClientToml) := by
  unfold startParsed
  have hallocated : StartsWithin settings id
      (fun r => ∀ info', r = .ok info' → Own settings.greffonPath id info')
      (startOp (.allocatePorts (l4BindHost settings) info)) := by
    refine Action.secures_perform ?_ fun r hr info' heq => ?_
    · intro t ht
      rw [List.mem_singleton.mp ht, hinfo.id]
      exact contained_file hid (by decide)
    · obtain ⟨hsame, hvolumes⟩ := hr info' (congrArg Except.ok heq)
      exact ⟨hsame.trans hinfo.id, hvolumes ▸ hinfo.files⟩
  refine hallocated.bind fun r hr => ?_
  cases r with
  | error e => exact Action.secures_raise _
  | ok info' =>
    have hinfo' := hr info' rfl
    refine (starts_aside rfl).bind fun _ _ => ?_
    refine (settle_starts _).bind fun template _ => ?_
    refine (applyDestinations_starts hid hinfo' template _).bind fun r hr => ?_
    cases r with
    | error message => exact Action.secures_raise _
    | ok out =>
      refine (createCompose_starts hid out.1 out.2).bind fun r _ => ?_
      cases r with
      | error message => exact Action.secures_raise _
      | ok u => exact bringUp_starts hid (hr out rfl) tunnelClientToml

omit hid in
theorem startGreffon_starts {parse : String → Except Compose.ParseError Yaml} {greffon : Greffon}
    (hgreffon : isComponent greffon.id = true) (tunnelClientToml : Option String) :
    StartsWithin settings greffon.id (fun _ => True)
      (startGreffon settings repr parse greffon tunnelClientToml) := by
  unfold startGreffon
  refine (starts_aside rfl).bind fun updating _ => ?_
  split
  · exact Action.secures_raise _
  have hfetched : StartsWithin settings greffon.id (fun _ => True) (fetched greffon) := by
    unfold fetched
    split
    · exact Action.secures_pure trivial
    · exact starts_aside rfl
  refine hfetched.bind fun compose _ => ?_
  split
  · exact Action.secures_raise _
  · rename_i info normalized hparse
    obtain ⟨raw, -, hcreated⟩ := Compose.bind_ok_iff.mp hparse
    have hinfo := own_of_created hgreffon (Compose.mapError_ok_iff.mp hcreated)
    exact startParsed_starts hgreffon hinfo normalized tunnelClientToml

end Start

/-! ## The other requests -/

section Requests
variable {H : Type} {HAns : H → Type} {touched : H → List String} {ok : String → Prop}

/-- **The lock's calls touch nothing.** -/
theorem serializeInstanceOp_secures {honest : (c : ControlCall H) →
      Raises (ControlCall.Answer HAns) ControlError c → Prop} {P : Unit → Prop}
    {handler : Action (ControlCall.Answer HAns) ControlError Unit}
    (h : handler.Secures (ControlCall.touched touched) honest ok P) (instanceId : String) :
    (serializeInstanceOp instanceId handler).Secures (ControlCall.touched touched) honest ok
      fun _ => True := by
  have hlock : ∀ c : ControlCall H, c.touched touched = [] →
      (Action.perform c : Action (ControlCall.Answer HAns) ControlError _).Secures
        (ControlCall.touched touched) honest ok fun _ => True := by
    intro c hc
    refine Action.secures_perform (fun t ht => ?_) fun _ _ => trivial
    rw [hc] at ht
    cases ht
  unfold serializeInstanceOp
  refine (hlock (.acquire instanceId) rfl).bind fun taken _ => ?_
  split
  · refine (hlock (.clearHandoff instanceId) rfl).bind fun _ _ => ?_
    refine h.outcome.bind fun r _ => ?_
    refine (hlock (.release instanceId) rfl).bind fun _ _ => ?_
    exact Action.secures_ofExcept fun _ _ => trivial
  · exact Action.secures_raise _

end Requests

section Stop
variable {root instanceId : String}

/-- A stop's calls, in the directory of its instance. -/
abbrev StopsWithin {α : Type} (root instanceId : String) (m : Stopping α) : Prop :=
  m.Secures (ControlCall.touched (StopCall.touched root)) (fun _ _ => True)
    (Contained root instanceId) fun _ => True

theorem stops_aside {c : StopCall} (h : c.touched root = []) :
    StopsWithin root instanceId (stopOp c) := Action.secures_aside h

theorem stops_at {c : StopCall} {path : String} (hc : c.touched root = [path])
    (h : Contained root instanceId path) : StopsWithin root instanceId (stopOp c) :=
  Action.secures_at hc h

theorem stopGreffon_stops (hid : isComponent instanceId = true)
    (tunnelClientToml : Option String) :
    StopsWithin root instanceId (stopGreffon instanceId tunnelClientToml) := by
  have hstop : StopsWithin root instanceId (stopCompose instanceId) := by
    unfold stopCompose
    refine (stops_at rfl (contained_dir hid)).bind fun there _ => ?_
    split
    · refine (stops_at rfl (contained_dir hid)).bind fun _ _ => ?_
      exact stops_at rfl (contained_file hid (by decide))
    · exact stops_at rfl (contained_file hid (by decide))
  unfold stopGreffon
  refine (stops_aside rfl).bind fun updating _ => ?_
  split
  · exact Action.secures_raise _
  refine hstop.bind fun _ _ => ?_
  refine (stops_aside rfl).bind fun _ _ => ?_
  exact stops_aside rfl

end Stop

section Decommission
variable {root instanceId : String}

/-- A decommission's calls, in the directory of its instance. -/
abbrev OperatesWithin {α : Type} (root instanceId : String) (m : Operation α) : Prop :=
  m.Secures (ControlCall.touched (OpCall.touched root)) (fun _ _ => True)
    (Contained root instanceId) fun _ => True

theorem operates_aside {c : OpCall} (h : c.touched root = []) :
    OperatesWithin root instanceId (op c) := Action.secures_aside h

theorem operates_at {c : OpCall} {path : String} (hc : c.touched root = [path])
    (h : Contained root instanceId path) : OperatesWithin root instanceId (op c) :=
  Action.secures_at hc h

theorem listInstanceVolumes_operates :
    OperatesWithin root instanceId (listInstanceVolumes instanceId) := by
  unfold listInstanceVolumes
  refine (operates_aside rfl).bind fun res _ => ?_
  split
  · exact (Action.secures_raise _).bind fun _ (_ : True) => Action.secures_pure trivial
  · exact Action.secures_pure trivial

theorem removeVolumes_operates (names : List String) :
    OperatesWithin root instanceId (removeVolumes names) := by
  induction names with
  | nil => exact Action.secures_pure trivial
  | cons name rest ih => exact (operates_aside rfl).bind fun _ _ => ih

theorem decommissionGreffon_operates (hid : isComponent instanceId = true) :
    OperatesWithin root instanceId (decommissionGreffon instanceId) := by
  have hrefuse : OperatesWithin root instanceId refuseIfUpdating := by
    unfold refuseIfUpdating
    refine (operates_aside rfl).bind fun updating _ => ?_
    split
    · exact Action.secures_raise _
    · exact Action.secures_pure trivial
  have hdown : OperatesWithin root instanceId (down instanceId) := by
    unfold down
    refine (operates_at rfl (contained_file hid (by decide))).bind fun there _ => ?_
    split
    · refine (operates_at rfl (contained_file hid (by decide))).bind fun _ _ => ?_
      exact Action.secures_pure trivial
    · exact Action.secures_pure trivial
  have hremove : OperatesWithin root instanceId (removeInstanceVolumes instanceId) := by
    unfold removeInstanceVolumes
    refine listInstanceVolumes_operates.bind fun names _ => ?_
    exact (removeVolumes_operates names).bind fun _ _ => Action.secures_pure trivial
  unfold decommissionGreffon
  refine hrefuse.bind fun _ _ => ?_
  refine hdown.bind fun _ _ => ?_
  refine hremove.bind fun removed _ => ?_
  refine (operates_at rfl (contained_dir hid)).bind fun _ _ => ?_
  refine listInstanceVolumes_operates.bind fun residual _ => ?_
  refine (operates_at rfl (contained_dir hid)).bind fun remains _ => ?_
  split
  · exact (Action.secures_raise _).bind fun _ (_ : True) => Action.secures_pure trivial
  · exact Action.secures_pure trivial

end Decommission

/-! ## The jobs -/

section Jobs
variable {root instanceId : String}

/-- A job's own calls touch its own files. -/
theorem touched_of_owns (hid : isComponent instanceId = true) {own : FileRef → Prop}
    (hown : ∀ file, own file → Contained root instanceId (fileLocation root file))
    {c : BackupCall} (h : Backup.Owns instanceId own c) :
    ∀ t ∈ jobTouched root c, Contained root instanceId t := by
  intro t ht
  cases c with
  | «exists» file | writeText file _ | unlink file =>
    exact List.mem_singleton.mp ht ▸ hown file h
  | composeStop i =>
    cases h
    rcases List.mem_pair.mp ht with rfl | rfl
    · exact contained_dir hid
    · exact contained_file hid (by decide)
  | composeUp i _ =>
    cases h
    exact List.mem_singleton.mp ht ▸ contained_file hid (by decide)
  | _ => cases ht

/-- The acceptance of a job touches nothing. -/
theorem spawn_owns {own : FileRef → Prop} :
    (Backup.spawn instanceId).Uses (Backup.Owns instanceId own) := by
  refine Action.Uses.bind (Action.uses_perform trivial) fun taken => ?_
  split
  · exact (Action.uses_raise _).bind fun _ => Action.Uses.tryExcept (Action.uses_perform trivial)
      fun _ => (Action.uses_perform trivial).bind fun _ => Action.uses_raise _
  · exact Action.Uses.tryExcept (Action.uses_perform trivial)
      fun _ => (Action.uses_perform trivial).bind fun _ => Action.uses_raise _

/-- **A job touches its own files**, as far as they are contained. -/
theorem job_touches (hid : isComponent instanceId = true) (own : FileRef → Prop)
    (hown : ∀ file, own file → Contained root instanceId (fileLocation root file)) {L : Type}
    {thread : Routine Backup.Answer Backup.JobError L Unit} (l : L)
    (h : thread.Uses (Backup.Owns instanceId own)) :
    Prog.TouchesOnly (jobTouched root) (fun _ _ => True) (Contained root instanceId)
      (do Backup.spawn instanceId; thread.run l : Backup.Job Unit) := by
  have hjob : (do Backup.spawn instanceId; thread.run l : Backup.Job Unit).Uses
      (Backup.Owns instanceId own) :=
    spawn_owns.bind fun _ => Prog.Uses.bind (h l) fun _ => trivial
  exact Prog.touchesOnly_of_uses (Prog.Uses.mono hjob fun c hc => touched_of_owns hid hown hc)

theorem contained_ports (hid : isComponent instanceId = true) :
    Contained root instanceId (fileLocation root (.l4Ports instanceId)) :=
  contained_file hid (by decide)

theorem contained_marker (hid : isComponent instanceId = true) :
    Contained root instanceId (fileLocation root (.backupMarker instanceId)) :=
  contained_file hid (by decide)

theorem backup_contained (hid : isComponent instanceId = true) (settings : Backup.Settings)
    (backupId : String) (destination : Option Backup.Destination)
    (classes : Option (List (String × String))) :
    (FileRequest.job (.backup settings instanceId backupId destination classes)).Contains := by
  refine job_touches hid (fun file => Contained settings.greffonPath instanceId
    (fileLocation settings.greffonPath file)) (fun _ h => h) _ ?_
  exact Backup.backupThread_owns (contained_ports hid) (contained_marker hid)

/-- **A restore is contained if its state file is.** -/
theorem restore_contained (hid : isComponent instanceId = true) (settings : Backup.Settings)
    (snapshotId restoreId : String) (destination : Option Backup.Destination)
    (manifest classes : Option (List (String × String)))
    (hstate : Contained settings.greffonPath instanceId
      (restoreStatePath settings.greffonPath instanceId restoreId)) :
    (FileRequest.job (.restore settings instanceId snapshotId restoreId destination manifest
      classes)).Contains := by
  refine job_touches hid (fun file => Contained settings.greffonPath instanceId
    (fileLocation settings.greffonPath file)) (fun _ h => h) _ ?_
  exact Backup.restoreThread_owns (contained_ports hid) hstate

/-- A container of the instance that runs. -/
def busyContainer : Docker.Container where
  id := "c"
  name := "c"
  labels := []
  status := "running"
  stateStatus := some "running"
  exitCode := none
  policyName := none
  health := none
  volumeMounts := []

/-- A day on which a restore is accepted and sees its instance run, and then nothing works. -/
def badDay (root : String) (w : List String) (c : BackupCall) :
    Raises Backup.Answer Backup.JobError c × List String :=
  (match c with
    | .acquireLock _ => .ok true
    | .startThread => .ok ()
    | .listContainers _ => .ok [busyContainer]
    | _ => .error (.busy ""), w ++ jobTouched root c)

theorem badDay_serves (root : String) (w : List String) (c : BackupCall) :
    (touching (jobTouched root) fun _ _ => True).serve w c (badDay root w c).1
      (badDay root w c).2 := ⟨trivial, rfl⟩

/-- **Every restore may touch its state file.** -/
theorem restore_touches_state (root instanceId : String) (settings : Backup.Settings)
    (snapshotId restoreId : String) (destination : Option Backup.Destination)
    (manifest classes : Option (List (String × String))) :
    ∃ w q, Run (touching (jobTouched root) fun _ _ => True) []
        (do Backup.spawn instanceId
            (Backup.AcceptedJob.restore settings instanceId snapshotId restoreId destination
              manifest classes).thread : Backup.Job Unit) w q ∧
      restoreStatePath root instanceId restoreId ∈ w := by
  refine ⟨_, _, Prog.run_evalFor (h := badDay root) (badDay_serves root) 6 _ _, ?_⟩
  have hw : restoreStatePath root instanceId restoreId ∈
      [] ++ [] ++ [] ++ [Paths.join root instanceId, instanceFile root instanceId composeName] ++
        [instanceFile root instanceId composeName] ++
        [restoreStatePath root instanceId restoreId] := by simp
  exact hw

end Jobs

/-! ## The law -/

/-- `/restore-status/` looks at its path first. -/
theorem restoreStatus_contained_iff {root instanceId restoreId : String} :
    (FileRequest.restoreStatus root instanceId restoreId).Contains ↔
      Contained root instanceId (restoreStatePath root instanceId restoreId) := by
  constructor
  · intro h
    have hrun : Run (touching StatusFileCall.touched fun _ _ => True) []
        (restoreStatus root instanceId restoreId)
        [restoreStatePath root instanceId restoreId] (.pure (.ok none)) :=
      .step (r := .ok false) ⟨trivial, rfl⟩ (.refl _ _)
    exact h _ _ hrun _ List.mem_cons_self
  · intro h
    have hpath : ∀ t ∈ [restoreStatePath root instanceId restoreId],
        Contained root instanceId t := fun t ht => List.mem_singleton.mp ht ▸ h
    have hreads : (restoreStatus root instanceId restoreId).Uses fun c =>
        ∀ t ∈ c.touched, Contained root instanceId t := by
      refine Action.Uses.bind (Action.uses_perform hpath) fun there => ?_
      split
      · refine Action.Uses.tryExcept ?_ fun e => ?_
        · exact Action.Uses.bind (Action.uses_perform hpath) fun _ => Action.uses_pure _
        · split
          · exact Action.uses_pure _
          · exact Action.uses_raise _
      · exact Action.uses_pure _
    exact Prog.touchesOnly_of_uses hreads

/-- **When the paths of a request are contained.**  Whatever an accepted request is given, every
path that any run of it touches is in its instance's directory, if and only if its restore id
returns there, where it has one. -/
theorem paths_contained_iff (r : FileRequest) (h : r.accepted = true) :
    r.Contains ↔ r.Returning := by
  cases r with
  | start settings repr parse greffon toml =>
    refine iff_of_true ?_ trivial
    have hid := isComponent_of_accepted h
    exact Action.Secures.touchesOnly
      (serializeInstanceOp_secures (startGreffon_starts hid toml) greffon.id)
  | stop root instanceId toml =>
    refine iff_of_true ?_ trivial
    have hid := isComponent_of_accepted h
    exact Action.Secures.touchesOnly
      (serializeInstanceOp_secures (stopGreffon_stops hid toml) instanceId)
  | job j =>
    cases j with
    | backup settings instanceId backupId destination classes =>
      refine iff_of_true ?_ trivial
      have hid := isComponent_of_accepted (Bool.and_eq_true _ _ ▸ h).1
      exact backup_contained hid settings backupId destination classes
    | restore settings instanceId snapshotId restoreId destination manifest classes =>
      rw [FileRequest.accepted, Bool.and_eq_true, Bool.and_eq_true] at h
      have hid := isComponent_of_accepted h.1.1
      refine Iff.trans ?_ (contained_state_iff hid restoreId)
      constructor
      · intro hall
        obtain ⟨w, q, hrun, hmem⟩ := restore_touches_state settings.greffonPath instanceId settings
          snapshotId restoreId destination manifest classes
        exact hall w q hrun _ hmem
      · exact restore_contained hid settings snapshotId restoreId destination manifest classes
  | decommission root instanceId =>
    refine iff_of_true ?_ trivial
    have hid := isComponent_of_accepted h
    exact Action.Secures.touchesOnly (serializeInstanceOp_secures (P := fun _ => True)
      ((decommissionGreffon_operates hid).bind fun _ _ => Action.secures_pure trivial) instanceId)
  | restoreStatus root instanceId restoreId =>
    rw [restoreStatus_contained_iff]
    constructor
    · intro hcontained
      exact ⟨hcontained.1, (contained_state_iff hcontained.1 restoreId).mp hcontained⟩
    · rintro ⟨hid, hreturns⟩
      exact (contained_state_iff hid restoreId).mpr hreturns

/-- A restore whose id is a name. -/
def namedRestore : FileRequest := .job (.restore { grefferId := "g" } "a" "s" "r1" none none none)

/-- Its state file is in its instance's directory. -/
theorem paths_contained_named : namedRestore.Contains :=
  (paths_contained_iff namedRestore (by decide)).mpr
    (by decide : Returns (Paths.join "/data" "a") (stateName "r1"))

/-- A restore whose id climbs out, and into another instance's directory. -/
def climbingRestore : FileRequest :=
  .job (.restore { grefferId := "g" } "a" "s" "x/../../b/.restore_y" none none none)

/-- **A restore writes the state file of another instance.** -/
theorem restore_id_climbs : ¬ ∀ r : FileRequest, r.accepted = true → r.Contains := by
  intro hall
  have hcontains : climbingRestore.Contains := hall climbingRestore (by decide)
  obtain ⟨w, q, hrun, hmem⟩ := restore_touches_state "/data" "a" { grefferId := "g" }
    "s" "x/../../b/.restore_y" none none none
  have hstate := hcontains w q hrun _ hmem
  exact absurd hstate.2 (by decide)

end Greffer.Instance

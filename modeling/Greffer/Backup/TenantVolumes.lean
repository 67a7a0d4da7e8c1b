import Greffer.Backup.HotManifest
import Greffer.Compose.Reserved

/-! # The volumes of the tenant, and what a backup takes of them

A backup leaves out the sidecar's volume, which a start regenerates, by its ending
`_nginx_volume`.  The volumes of the tenant are named by the tenant's compose, so **any of
them may have that ending**: such a volume is in no cold snapshot, and a hot backup captures
it only as a database (`tenant_volume_backed_up`).  The backup reports success without it
(`tenant_volume_escapes`).

The two halves follow the two modes.  A cold backup is followed to its end, and every
snapshot on the way mounts just the volumes that the engine lists; of a hot one the value it
returns says enough (`HotRun`).
-/
namespace Greffer.Backup
open Effects Docker
open Compose (Yaml Greffon GreffonInfo Entries createGreffonInfo certificateVolume acceptedId
  volumeName declaredAll authored Collected)

/-- **A volume of the tenant**: a named volume of the instance, other than the certificate's. -/
def TenantVolume (info : GreffonInfo) (v : String) : Prop :=
  (∃ e ∈ info.volumes, e.2.value = v) ∧ v ≠ certificateVolume info.id

/-! ## Cold backups -/

/-- The mounts are those of the listed volumes. -/
def MountsListed (host : Host) (instanceId : String) (mounts : List Mount) : Prop :=
  ∀ v, volumeMount v ∈ mounts ↔ host.Listed instanceId v

/-- Every snapshot so far is of the listed volumes. -/
def SnapshotsListed (host : Host) (instanceId : String) (w : Capture) : Prop :=
  ∀ s ∈ w.snapshots, MountsListed host instanceId s.1

/-- The kinds of calls that take no snapshot. -/
def Snapless : Kind → Prop
  | .restic command => command.stores = false
  | _ => True

theorem after_snapless {w : Capture} {c : BackupCall} (h : Snapless c.kind)
    (r : Raises Answer JobError c) : (w.after c r).snapshots = w.snapshots := by
  cases c with
  | await child =>
    cases child with
    | restic run =>
      obtain ⟨env, command, mounts, readOnly⟩ := run
      cases r with
      | error e => cases command <;> rfl
      | ok ended => cases command <;> first | rfl | cases h
    | dockerExec containerId argv interactive => cases r <;> rfl
  | _ => cases r <;> rfl

section Cold
variable {host : Host} {settings : Settings} {instanceId : String} {w : Capture}

theorem job_snapless {α : Type} {m : Job α} (h : Within Snapless m)
    (hw : SnapshotsListed host instanceId w) :
    m.Always host.capturing (SnapshotsListed host instanceId)
      (fun _ w => SnapshotsListed host instanceId w) w := by
  refine h.always ?_ hw
  rintro w₁ c r w₂ hc hsnaps ⟨-, rfl⟩
  rwa [SnapshotsListed, after_snapless hc]

theorem routine_snapless {L α : Type} {m : Routine Answer JobError L α} {l : L}
    (h : RWithin Snapless m) (hw : SnapshotsListed host instanceId w) :
    m.Always host.capturing (SnapshotsListed host instanceId) (fun _ _ _ => True) l w := by
  refine Routine.Always.mono (h.always (I := SnapshotsListed host instanceId) ?_ hw)
    fun _ _ _ _ _ => trivial
  rintro w₁ c r w₂ hc hsnaps ⟨-, rfl⟩
  rwa [SnapshotsListed, after_snapless hc]

theorem withL4Ports_listed {mounts : List Mount} (h : MountsListed host instanceId mounts) :
    (withL4Ports settings instanceId mounts).Yields host.capturing
      (fun mounts' _ => MountsListed host instanceId mounts') w := by
  refine (Action.yields_trivial _ _).bind fun found w' _ => ?_
  refine Action.yields_ite (fun _ => Action.yields_pure fun v => ?_) fun _ => Action.yields_pure h
  rw [List.mem_append, h v]
  exact or_iff_left fun hv => volumeMount_ne_l4Ports _ _ _ (List.mem_singleton.mp hv)

/-- **The mounts of a cold backup.** -/
theorem backupMounts_listed : (backupMounts settings instanceId).Yields host.capturing
    (fun mounts _ => MountsListed host instanceId mounts) w := by
  refine dataVolumes_yields.bind ?_
  rintro vols w' ⟨rfl, hvols⟩
  refine withL4Ports_listed fun v => ?_
  rw [← hvols v, List.mem_map]
  constructor
  · rintro ⟨u, hu, heq⟩
    obtain rfl : u = v := (Prod.mk.inj heq).1
    exact hu
  · exact fun hv => ⟨v, hv, rfl⟩

/-- **The cold snapshot** is of the listed volumes, if it is taken. -/
theorem coldSnapshot_listed (backupId : String) (l : BackupLocals)
    (hw : SnapshotsListed host instanceId w) :
    (coldSnapshot settings instanceId backupId).Always host.capturing
      (SnapshotsListed host instanceId) (fun _ _ _ => True) l w := by
  unfold coldSnapshot
  rw [Routine.always_bind, Routine.always_monadLift]
  refine ((job_snapless (backupMounts_within trivial trivial) hw).yielding backupMounts_listed).mono ?_
  rintro (e | mounts) w₁ - ⟨hw₁, hlisted⟩
  · trivial
  replace hlisted := hlisted mounts rfl
  refine Routine.invariant_bind (routine_snapless (lift_within (ensureRepo_within rfl rfl rfl)) hw₁)
    fun _ l₁ w₂ hw₂ => ?_
  refine Routine.invariant_bind ?_ fun ended l₂ w₃ hw₃ => ?_
  · rw [Routine.always_monadLift]
    unfold runRestic
    cases resticEnv settings with
    | error e => exact ⟨hw₂, trivial⟩
    | ok env =>
      refine ⟨hw₂, ?_⟩
      rintro (e | ⟨⟩) w₃ ⟨-, rfl⟩
      · exact ⟨hw₂, trivial⟩
      · refine ⟨hw₂, ?_⟩
        rintro (e | ended) w₄ ⟨-, rfl⟩
        · exact ⟨hw₂, trivial⟩
        · refine ⟨fun s hs => ?_, trivial⟩
          rcases List.mem_append.mp hs with hs | hs
          · exact hw₂ s hs
          · rw [List.mem_singleton.mp hs]
            exact hlisted
  · refine routine_snapless ?_ hw₃
    split
    · exact Routine.uses_assign _
    · exact (lift_within (Action.uses_ofExcept _)).bind fun _ => Routine.uses_assign _

/-- **Every snapshot of a cold backup is of the listed volumes**, to the end of the job. -/
theorem coldBackup_listed (backupId : String) (destination : Option Destination)
    {volumeClasses : Option (List (String × String))} (hcold : volumeClasses.getD [] = [])
    (releaseLock : Bool) (l : BackupLocals) (hw : SnapshotsListed host instanceId w) :
    (backupInstance settings instanceId backupId destination volumeClasses releaseLock).Always
      host.capturing (SnapshotsListed host instanceId) (fun _ _ _ => True) l w := by
  unfold backupInstance
  generalize effectiveSettings settings destination instanceId = settings
  refine Routine.invariant_bind ⟨hw, trivial⟩ fun _ l w hw => ?_
  refine Routine.invariant_bind (routine_snapless (lift_within (getStatus_within trivial)) hw)
    fun st l w hw => ?_
  refine Routine.invariant_tryFinally (Routine.invariant_tryExcept ?_ fun e l w hw =>
    routine_snapless backupHandler_within hw) fun l w hw => ?_
  · unfold backupBody
    refine Routine.invariant_bind (routine_snapless (lift_within (getStatus_within trivial)) hw)
      fun st' l w hw => ?_
    rw [hcold]
    rw [Routine.always_ite]
    refine ⟨fun _ => ⟨hw, trivial⟩, fun _ => ?_⟩
    rw [if_neg (show ¬ (!([] : List (String × String)).isEmpty) = true by decide), Routine.always_ite]
    refine ⟨fun _ => ?_, fun _ => coldSnapshot_listed backupId l hw⟩
    refine Routine.invariant_bind (routine_snapless (lift_within (writeJson_within trivial)) hw)
      fun _ l w hw => ?_
    refine Routine.invariant_bind (routine_snapless (lift_within (call_within trivial)) hw)
      fun _ l w hw => ?_
    refine Routine.invariant_bind ⟨hw, trivial⟩ fun _ l w hw => ?_
    refine Routine.invariant_bind (routine_snapless (lift_within (waitStopped_within trivial)) hw)
      fun stopped l w hw => ?_
    rw [Routine.always_ite]
    exact ⟨fun _ => coldSnapshot_listed backupId l hw, fun _ => ⟨hw, trivial⟩⟩
  · refine Routine.invariant_bind (routine_snapless
      (backupCleanup_within trivial trivial (fun _ _ => rfl) rfl) hw) fun _ l w hw => ?_
    exact routine_snapless (backupReport_within trivial trivial fun _ => trivial) hw

end Cold

/-! ## Hot backups -/

/-- What becomes of a volume in a hot backup that has ended: it is in a snapshot, it is
declared regenerable, or it is a database, and the one hook there is has dumped it. -/
def Covered (host : Host) (instanceId : String) (volumeClasses : List (String × String))
    (w : Capture) (v : String) : Prop :=
  (∃ s ∈ w.snapshots, volumeMount v ∈ s.1) ∨
    volumeClass instanceId volumeClasses v = some "regenerable" ∨
    volumeClass instanceId volumeClasses v = some "database" ∧
      ∃ hook id, host.hooks = [hook] ∧ Dumped instanceId hook w id

/-- **What a hot backup misses no volume for**: a name without the sidecar's ending, or a
class that asks for no snapshot. -/
def Seen (instanceId : String) (volumeClasses : List (String × String)) (v : String) : Prop :=
  endsWith v nginxVolumeSuffix = false ∨
    volumeClass instanceId volumeClasses v = some "regenerable" ∨
    volumeClass instanceId volumeClasses v = some "database"

section Hot
variable {host : Host} {instanceId : String} {volumeClasses : List (String × String)} {w : Capture}
  {manifest : List (String × String)} {v : String}

theorem databaseVolumes_ne_nil (h : volumeClass instanceId volumeClasses v = some "database") :
    databaseVolumes volumeClasses ≠ [] := by
  obtain ⟨e, he, hclass⟩ := Option.map_eq_some_iff.mp h
  refine List.ne_nil_of_mem (List.mem_filter.mpr ⟨List.mem_of_find?_eq_some he, ?_⟩)
  rw [hclass]
  rfl

theorem HotRun.dumped (h : HotRun host instanceId volumeClasses w manifest)
    (hdb : volumeClass instanceId volumeClasses v = some "database") :
    ∃ hook id, host.hooks = [hook] ∧ Dumped instanceId hook w id := by
  obtain ⟨mounts, data, dumps, -, -, -, ⟨hnone, -⟩ | ⟨-, hook, id, hhook, -, hdumped⟩⟩ := h.parts
  · exact absurd hnone (databaseVolumes_ne_nil hdb)
  · exact ⟨hook, id, hhook, hdumped⟩

/-- **A hot backup that succeeds covers just the volumes it sees.** -/
theorem HotRun.covered_iff (h : HotRun host instanceId volumeClasses w manifest)
    (hv : host.Volume instanceId v) :
    Covered host instanceId volumeClasses w v ↔ Seen instanceId volumeClasses v := by
  constructor
  · rintro (⟨s, hs, hmounted⟩ | hregen | ⟨hdb, -⟩)
    · obtain ⟨mounts, data, dumps, hmounts, -, hdata, -⟩ := h.parts
      rcases hdata with ⟨-, -, hnone⟩ | ⟨-, ended, id, added, -, hsnap, -⟩
      · rw [hnone] at hs
        cases hs
      · rw [hsnap] at hs
        cases List.mem_singleton.mp hs
        exact .inl (Bool.eq_false_iff.mpr fun hsuffix => hmounts.listed v hsuffix hmounted)
    · exact .inr (.inl hregen)
    · exact .inr (.inr hdb)
  · rintro (hsuffix | hregen | hdb)
    · have hlisted := hv.listed (Bool.eq_false_iff.mp hsuffix)
      obtain ⟨mounts, data, dumps, hmounts, -, hdata, -⟩ := h.parts
      rcases hmounts.classified v hlisted with hclass | hregen | hdb
      · have hmounted := hmounts.mounted v hlisted hclass
        rcases hdata with ⟨rfl, -⟩ | ⟨-, ended, id, added, -, hsnap, -⟩
        · cases hmounted
        · exact .inl ⟨_, hsnap ▸ List.mem_cons_self, hmounted⟩
      · exact .inr (.inl hregen)
      · exact .inr (.inr ⟨hdb, h.dumped hdb⟩)
    · exact .inr (.inl hregen)
    · exact .inr (.inr ⟨hdb, h.dumped hdb⟩)

end Hot

/-! ## The tenant's volumes -/

/-- On a host that has the instance's volumes, the tenant's are volumes of the instance. -/
theorem TenantVolume.volume {greffonPath : String} {greffon : Greffon} {entries : Entries}
    {info : GreffonInfo} (h : Collected greffonPath greffon entries info) {host : Host}
    (hhost : ∀ e ∈ info.volumes, e.2.value ∈ host.volumes) {v : String} (hv : TenantVolume info v) :
    host.Volume greffon.id v := by
  obtain ⟨⟨e, he, rfl⟩, hne⟩ := hv
  refine ⟨hhost e he, ?_, h.id ▸ hne⟩
  obtain ⟨t, ht⟩ := h.volumesOf.prefixed e he
  rw [ht, startsWith, List.isPrefixOf_iff_prefix, String.toList_append (s := greffon.id ++ "_")]
  exact List.prefix_append _ _

/-- **Which volumes of the tenant a backup takes**: for every compose that a start accepts,
on a host that has its volumes, a cold backup mounts a volume of the tenant in each of its
snapshots just if the name does not end in `_nginx_volume`; and a hot backup that succeeds
covers it just if the name does not, or its class asks for no snapshot. -/
theorem tenant_volume_backed_up {greffonPath : String} {greffon : Greffon} {compose : Yaml}
    (hloaded : compose.WellFormed) {strict : Bool} {extraKeys : Option String} {info : GreffonInfo}
    {normalized : Entries}
    (h : createGreffonInfo greffonPath compose greffon strict extraKeys = .ok (info, normalized))
    {host : Host} (hhost : ∀ e ∈ info.volumes, e.2.value ∈ host.volumes) {v : String}
    (hv : TenantVolume info v) (settings : Settings) (backupId : String) :
    (∀ destination volumeClasses releaseLock l w q, volumeClasses.getD [] = [] →
      Run host.capturing {} (backupInstance settings greffon.id backupId destination volumeClasses
        releaseLock l) w q →
      ∀ s ∈ w.snapshots, volumeMount v ∈ s.1 ↔ endsWith v nginxVolumeSuffix = false) ∧
    ∀ volumeClasses w payload,
      Run host.capturing {} (runHotBackup settings greffon.id backupId volumeClasses) w
        (.pure (.ok payload)) →
      (Covered host greffon.id volumeClasses w v ↔ Seen greffon.id volumeClasses v) := by
  obtain ⟨rebuilt, services, -, hrebuilt⟩ :=
    Compose.createComposeTemplate_ok hloaded h "0.0.0.0"
  have hvolume := hv.volume hrebuilt.collected hhost
  constructor
  · intro destination volumeClasses releaseLock l w q hcold run s hs
    have hnone : SnapshotsListed host greffon.id {} := fun _ hs => (by cases hs)
    rw [Prog.Always.at_stop (coldBackup_listed backupId destination hcold releaseLock l hnone) run
      s hs v]
    exact ⟨fun hv => hv.2.2, fun hsuffix => hvolume.listed (Bool.eq_false_iff.mp hsuffix)⟩
  · intro volumeClasses w payload run
    obtain ⟨-, manifest, -, hrun⟩ := (runHotBackup_yields backupId).at_return run
    exact hrun.covered_iff hvolume

/-! ### A volume like the sidecar's -/

/-- A host with the sidecar's volume and two of the tenant's. -/
def hostWith (a b : String) : Host where
  volumes := ["i_nginx_volume", a, b]
  containers := []
  split _ := []

/-- Nothing runs, and everything succeeds. -/
def coldDay (host : Host) (w : Capture) (c : BackupCall) : Raises Answer JobError c × Capture :=
  match c with
  | .listContainers _ => (.ok [{ pgContainer with status := "exited" }], w)
  | c => backupDay host w c

theorem coldDay_serves (host : Host) (w : Capture) (c : BackupCall) :
    host.capturing.serve w c (coldDay host w c).1 (coldDay host w c).2 := by
  cases c with
  | listContainers i => exact ⟨trivial, rfl⟩
  | _ => exact backupDay_serves host w _

/-- A cold backup of the instance `i`. -/
def coldBackupOfI : Prog (Raises Answer JobError) (Except JobError Unit × BackupLocals) :=
  backupInstance withRepository "i" "b" none none true (failedPayload "b")

theorem tenant_volume_backed_up_data : ∃ (info : GreffonInfo) (normalized : Entries) (host : Host)
    (w : Capture) (q : Prog (Raises Answer JobError) (Except JobError Unit × BackupLocals)),
    createGreffonInfo "/data" (Compose.appMounting ["data:/data"]) (Compose.plainGreffon "i") true
      none = .ok (info, normalized) ∧ TenantVolume info "i_data" ∧
    Run host.capturing {} coldBackupOfI w q ∧ w.snapshots.length = 1 ∧
    ∀ s ∈ w.snapshots, volumeMount "i_data" ∈ s.1 := by
  obtain ⟨info, normalized, hinfo, hhost, hv⟩ : ∃ info normalized,
      createGreffonInfo "/data" (Compose.appMounting ["data:/data"]) (Compose.plainGreffon "i") true
        none = .ok (info, normalized) ∧
      (∀ e ∈ info.volumes, e.2.value ∈ (hostWith "i_data" "a_data").volumes) ∧
      TenantVolume info "i_data" :=
    ⟨_, _, rfl, by decide, ⟨_, List.mem_cons_of_mem _ List.mem_cons_self, rfl⟩, by decide⟩
  have hrun := Prog.run_evalFor (h := coldDay (hostWith "i_data" "a_data")) (coldDay_serves _) 30
    coldBackupOfI {}
  refine ⟨info, normalized, _, _, _, hinfo, hv, hrun, by rfl, fun s hs => ?_⟩
  exact ((tenant_volume_backed_up (Compose.appMounting_wellFormed _) hinfo hhost hv withRepository
    "b").1 none none true _ _ _ rfl hrun s hs).mpr (by decide)

/-- **A volume of the tenant's that is in no snapshot**: the mount of `x_nginx_volume` is
accepted, of the strict set, and the cold backup succeeds without it. -/
theorem tenant_volume_escapes : ∃ (info : GreffonInfo) (normalized : Entries) (l : BackupLocals)
    (w : Capture),
    createGreffonInfo "/data" (Compose.appMounting ["data:/data", "x_nginx_volume:/x"])
      (Compose.plainGreffon "i") true none = .ok (info, normalized) ∧
    TenantVolume info "i_x_nginx_volume" ∧
    (∀ e ∈ info.volumes, e.2.value ∈ (hostWith "i_data" "i_x_nginx_volume").volumes) ∧
    Run (hostWith "i_data" "i_x_nginx_volume").capturing {} coldBackupOfI w (.pure (.ok (), l)) ∧
    l.payload.status = .success ∧ w.snapshots.length = 1 ∧
    ∀ s ∈ w.snapshots, volumeMount "i_x_nginx_volume" ∉ s.1 := by
  have hthird {a b c : Yaml × Compose.VolumeInfo} : c ∈ [a, b, c] :=
    List.mem_cons_of_mem _ (List.mem_cons_of_mem _ List.mem_cons_self)
  refine ⟨_, _, _, _, rfl, ⟨⟨_, hthird, rfl⟩, by decide⟩, by decide,
    Prog.run_evalFor (h := coldDay (hostWith "i_data" "i_x_nginx_volume")) (coldDay_serves _) 30
      coldBackupOfI {}, by rfl, by rfl, ?_⟩
  intro s hs
  cases List.mem_singleton.mp hs
  decide

end Greffer.Backup

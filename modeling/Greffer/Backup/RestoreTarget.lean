import Greffer.Backup.RestoreRestart

/-! # What a restore overwrites

`restic restore --delete` empties every volume it is mounted on that the snapshot does not
hold.  The snapshot is named by the manifest, the volumes by the daemon and the manager's
class map, and the guard against database volumes reads the containers: three sources that
nobody has compared.

**The guard holds; the rest is taken on trust.**  Without database artifacts every volume
of the instance is mounted, also those that have come since the backup, and a manifest
without a data artifact falls back to the snapshot id of the request, which then is a
dump.  `restore_within_snapshot` says for each kind of manifest what must not have changed
since the backup for only what the snapshot holds to be overwritten.
-/
namespace Greffer.Backup
open Effects Docker

/-- The node as a backup of the instance found it: the volumes of the instance, and the class map
of a hot backup. -/
structure Taken where
  volumes : List String
  volumeClasses : Option (List (String × String)) := none

/-- A volume that the backup took as data: it was there, and had the data class if the backup was
hot. -/
def Taken.Took (t : Taken) (instanceId v : String) : Prop :=
  v ∈ t.volumes ∧ ∀ classes ∈ t.volumeClasses, volumeClass instanceId classes v = some "data"

instance (t : Taken) (instanceId v : String) : Decidable (t.Took instanceId v) :=
  inferInstanceAs (Decidable (_ ∧ _))

/-- What is there when a restore runs: the docker volumes, the instance's containers, and for
each snapshot of data what the backup that took it had found.  A dump is no snapshot of data. -/
structure Site where
  volumes : List String
  containers : List Container
  taken : String → Option Taken

/-- The volumes that a snapshot was taken over as data. -/
def Site.holds (site : Site) (instanceId snapshot : String) : List String :=
  match site.taken snapshot with
  | none => []
  | some t => t.volumes.filter fun v => t.Took instanceId v

/-- A volume was taken by the backup that a snapshot is of. -/
def Site.Took (site : Site) (instanceId snapshot v : String) : Prop :=
  ∃ t, site.taken snapshot = some t ∧ t.Took instanceId v

theorem mem_holds {site : Site} {instanceId snapshot v : String} :
    v ∈ site.holds instanceId snapshot ↔ site.Took instanceId snapshot v := by
  unfold Site.holds Site.Took
  cases site.taken snapshot with
  | none => simp
  | some t =>
    rw [List.mem_filter, decide_eq_true_iff]
    constructor
    · exact fun h => ⟨t, rfl, h.2⟩
    · rintro ⟨_, ⟨⟩, htook⟩
      exact ⟨htook.1, htook⟩

/-- The volumes among the mounts of a command. -/
def overwrittenBy (mounts : List Mount) : List String :=
  (mounts.filter fun m => m == volumeMount m.1).map Prod.fst

theorem mem_overwrittenBy {mounts : List Mount} {v : String} :
    v ∈ overwrittenBy mounts ↔ volumeMount v ∈ mounts := by
  rw [overwrittenBy, List.mem_map]
  constructor
  · rintro ⟨m, hm, rfl⟩
    obtain ⟨hmem, heq⟩ := List.mem_filter.mp hm
    rwa [← beq_iff_eq.mp heq]
  · intro hv
    exact ⟨volumeMount v, List.mem_filter.mpr ⟨hv, beq_self_eq_true _⟩, rfl⟩

namespace RestoreRequest
variable (req : RestoreRequest) (site : Site)

/-- `manifest['data']`. -/
def dataArtifact : Option String :=
  ((req.manifest.getD []).find? fun e => e.1 == "data").map Prod.snd

/-- **Only what the snapshot holds is overwritten.** -/
structure Faithful (snapshot : String) (vols : List String) : Prop where
  /-- The snapshot was taken over each of the volumes; -/
  contained : ∀ v ∈ vols, v ∈ site.holds req.instanceId snapshot
  /-- it is the manifest's data artifact, if the manifest has one; -/
  named : ∀ s ∈ req.dataArtifact, snapshot = s
  /-- if it has none, no volume is overwritten; -/
  unnamed : req.manifest.isSome = true → req.dataArtifact = none → vols = []
  /-- and no container of a database with an artifact mounts one of them. -/
  spared : ∀ v ∈ vols, v ∉ req.databaseVolumes site.containers

theorem faithful_and {snapshot : String} {vols : List String} :
    ((∀ v ∈ vols, v ∈ site.holds req.instanceId snapshot) ∧
      (∀ s ∈ req.dataArtifact, snapshot = s) ∧
      (req.manifest.isSome = true → req.dataArtifact = none → vols = []) ∧
      ∀ v ∈ vols, v ∉ req.databaseVolumes site.containers) ↔ req.Faithful site snapshot vols :=
  ⟨fun h => ⟨h.1, h.2.1, h.2.2.1, h.2.2.2⟩,
    fun h => ⟨h.contained, h.named, h.unnamed, h.spared⟩⟩

instance (snapshot : String) (vols : List String) : Decidable (req.Faithful site snapshot vols) :=
  decidable_of_iff _ (req.faithful_and site)

/-- What the request asks to overwrite: with database artifacts the volumes of the data class,
and otherwise every volume of the instance. -/
def Mounted (v : String) : Prop :=
  v ∈ site.volumes ∧ req.OwnsVolume v ∧ (req.artifacts = [] ∨ req.classOf v = some "data")

/-- The manifest has a dump of a database. -/
def HasDump : Prop := ∃ e ∈ req.manifest.getD [], startsWith e.1 "db:" = true

/-- **The node still fits the request**, by what the manifest has. -/
structure Fits : Prop where
  /-- No manifest: of the instance's volumes none has come since the backup the request names, and
  that was no hot one that left some out; -/
  plain : req.manifest = none →
    ∀ v ∈ site.volumes, req.OwnsVolume v → site.Took req.instanceId req.resticSnapshotId v
  /-- data alone: the same of the backup of the data artifact; -/
  data : ∀ s, req.dataArtifact = some s → ¬ req.HasDump →
    ∀ v ∈ site.volumes, req.OwnsVolume v → site.Took req.instanceId s v
  /-- data and dumps: no volume that is of the data class now has come since, or was of another
  class; -/
  mixed : ∀ s, req.dataArtifact = some s → req.HasDump →
    ∀ v ∈ site.volumes, req.OwnsVolume v → req.classOf v = some "data" →
      site.Took req.instanceId s v
  /-- dumps alone: no volume is of the data class now; -/
  dumps : req.manifest.isSome = true → req.dataArtifact = none → req.HasDump →
    ∀ v ∈ site.volumes, req.OwnsVolume v → req.classOf v ≠ some "data"
  /-- neither: the instance has no volume; -/
  nothing : req.manifest.isSome = true → req.dataArtifact = none → ¬ req.HasDump →
    ∀ v ∈ site.volumes, ¬ req.OwnsVolume v
  /-- and a data artifact that is the empty text stands beside an empty snapshot id. -/
  blank : req.dataArtifact = some "" → req.resticSnapshotId = ""

variable {req} in
theorem artifacts_eq_nil : req.artifacts = [] ↔ ¬ req.HasDump := by
  rw [artifacts, dbArtifacts, List.filterMap_eq_nil_iff, HasDump]
  push Not
  refine forall₂_congr fun e _ => ?_
  by_cases hdump : startsWith e.1 "db:" = true
  · simp [hdump]
  · simp [hdump]

end RestoreRequest

/-- What is known of the overwrite: whether it has been issued, and whether it went beyond
what the snapshot holds. -/
structure Target where
  issued : Bool := false
  violated : Bool := false

namespace Target

/-- A restic command is started. -/
def begun (req : RestoreRequest) (site : Site) (w : Target) (run : ResticRun) : Target :=
  match run.command with
  | .restore snapshot =>
    { issued := true
      violated := w.violated || !decide (req.Faithful site snapshot (overwrittenBy run.mounts)) }
  | _ => w

end Target

/-- The environment: until the overwrite the daemon shows the volumes and the containers that
are there; everything else is answered, or raises, as it likes. -/
def targeting (req : RestoreRequest) (site : Site) : Machine (Raises Answer JobError) Target where
  serve w c r w' :=
    match c, r with
    | .listVolumes _, .ok vols =>
      w' = w ∧ (w.issued = false → ∀ v, req.OwnsVolume v → (v ∈ vols ↔ v ∈ site.volumes))
    | .listInstanceContainers _, .ok listed =>
      w' = w ∧ (w.issued = false → listed = site.containers)
    | .start (.restic run), _ => w' = w.begun req site run
    | _, _ => w' = w

/-- Beyond what the snapshot holds exactly where the request does not fit. -/
def Target.Lawful (req : RestoreRequest) (site : Site) (w : Target) : Prop :=
  w.violated = false ↔ (w.issued = true → req.Fits site)

/-- The kinds of calls that overwrite nothing. -/
def Kind.Harmless (k : Kind) : Prop := ∀ snap, k ≠ .restic (.restore snap)

section Frames
variable {req : RestoreRequest} {site : Site} {w w' : Target} {c : BackupCall}
  {r : Raises Answer JobError c}

theorem lawful_fresh : Target.Lawful req site {} := by
  simp [Target.Lawful]

theorem harmless_serve (hk : c.kind.Harmless) (hs : (targeting req site).serve w c r w') :
    w' = w := by
  cases c with
  | listVolumes n =>
    cases r with
    | ok vols => exact hs.1
    | error e => exact hs
  | listInstanceContainers i =>
    cases r with
    | ok listed => exact hs.1
    | error e => exact hs
  | start child =>
    cases child with
    | dockerExec id argv interactive => exact hs
    | restic run =>
      have hbegun : w.begun req site run = w := by
        unfold Target.begun
        split
        · rename_i snap hcommand
          exact absurd (congrArg Kind.restic hcommand) (hk snap)
        · rfl
      exact (show w' = w.begun req site run from hs).trans hbegun
  | _ => cases r <;> exact hs

theorem harmless_within {L α : Type} {m : Routine Answer JobError L α} {l : L}
    (hm : RWithin Kind.Harmless m) (h : w.Lawful req site) :
    m.Always (targeting req site) (Target.Lawful req site) (fun _ _ w' => w' = w) l w := by
  refine (hm.always (I := (· = w)) (fun _ _ _ _ hk hI hs => (harmless_serve hk hs).trans hI)
    rfl).imp ?_ ?_
  · rintro w' rfl
    exact h
  · exact fun _ _ w' hw _ => hw

theorem harmless_action {α : Type} {m : Job α} (hm : Within Kind.Harmless m)
    (h : w.Lawful req site) :
    m.Always (targeting req site) (Target.Lawful req site) (fun _ w' => w' = w) w := by
  refine (hm.always (I := (· = w)) (fun _ _ _ _ hk hI hs => (harmless_serve hk hs).trans hI)
    rfl).imp ?_ ?_
  · rintro w' rfl
    exact h
  · exact fun _ w' hw _ => hw

theorem harmless_of_ne {k : Kind} (h : ∀ command, k ≠ .restic command) : k.Harmless :=
  fun _ => h _

theorem harmless_restic {command : ResticCommand} (h : ∀ snap, command ≠ .restore snap) :
    (Kind.restic command).Harmless := fun snap hx => h snap (Kind.restic.inj hx)

end Frames

/-! ## What is mounted -/

section Mounts
variable {req : RestoreRequest} {site : Site}

/-- The mounts are those of the volumes asked for, and beside them of no volume. -/
def Asked (req : RestoreRequest) (site : Site) (mounts : List Mount) : Prop :=
  ∀ v, volumeMount v ∈ mounts ↔ req.Mounted site v

theorem dataVolumes_lists :
    (dataVolumes req.instanceId).Always (targeting req site) (Target.Lawful req site)
      (fun r w' => w' = {} ∧
        ∀ vols, r = .ok vols → ∀ v, v ∈ vols ↔ v ∈ site.volumes ∧ req.OwnsVolume v) {} := by
  unfold dataVolumes
  rw [Action.always_bind]
  refine ⟨lawful_fresh, fun r w₁ hs => ?_⟩
  obtain rfl : w₁ = {} := harmless_serve (harmless_of_ne fun _ hx => by cases hx) hs
  refine ⟨lawful_fresh, ?_⟩
  cases r with
  | error e => exact ⟨rfl, fun vols hx => by cases hx⟩
  | ok vols =>
    refine ⟨lawful_fresh, rfl, ?_⟩
    rintro _ ⟨⟩ v
    rw [mem_instanceVolumes]
    exact and_congr_left fun howns => hs.2 rfl v howns

theorem withL4Ports_volumes {ms : List Mount} :
    (withL4Ports req.settings req.instanceId ms).Always (targeting req site)
      (Target.Lawful req site) (fun r w' => w' = {} ∧
        ∀ ms', r = .ok ms' → (∀ v, volumeMount v ∈ ms' ↔ volumeMount v ∈ ms)) {} := by
  unfold withL4Ports
  rw [Action.always_bind]
  refine ⟨lawful_fresh, fun r w₁ hs => ?_⟩
  obtain rfl : w₁ = {} := harmless_serve (harmless_of_ne fun _ hx => by cases hx) hs
  refine ⟨lawful_fresh, ?_⟩
  cases r with
  | error e => exact ⟨rfl, fun ms' hx => by cases hx⟩
  | ok found =>
    rw [onOk_ok, Action.always_ite]
    constructor
    · intro _
      refine ⟨lawful_fresh, rfl, ?_⟩
      rintro _ ⟨⟩ v
      rw [List.mem_append, List.mem_singleton]
      exact or_iff_left (volumeMount_ne_l4Ports _ _ _)
    · intro _
      refine ⟨lawful_fresh, rfl, ?_⟩
      rintro _ ⟨⟩ v
      exact Iff.rfl

theorem backupMounts_asked (hnone : req.artifacts = []) :
    (backupMounts req.settings req.instanceId).Always (targeting req site)
      (Target.Lawful req site) (fun r w' => w' = {} ∧ ∀ ms, r = .ok ms → Asked req site ms) {} := by
  unfold backupMounts
  rw [Action.always_bind]
  refine dataVolumes_lists.mono fun r w₁ _ hr => ?_
  obtain ⟨rfl, hvols⟩ := hr
  cases r with
  | error e => exact ⟨rfl, fun ms hx => by cases hx⟩
  | ok vols =>
    rw [onOk_ok]
    refine withL4Ports_volumes.mono fun r w₂ _ hr => ⟨hr.1, fun ms hms v => ?_⟩
    rw [hr.2 ms hms v, List.mem_map]
    have hmem := hvols vols rfl v
    constructor
    · rintro ⟨v', hv', heq⟩
      obtain rfl : v' = v := congrArg Prod.fst heq
      obtain ⟨hthere, howns⟩ := hmem.mp hv'
      exact ⟨hthere, howns, .inl hnone⟩
    · rintro ⟨hthere, howns, -⟩
      exact ⟨v, hmem.mpr ⟨hthere, howns⟩, rfl⟩

theorem hotBackupMounts_asked (hsome : req.artifacts ≠ []) :
    (hotBackupMounts req.settings req.instanceId (req.volumeClasses.getD [])).Always
      (targeting req site) (Target.Lawful req site)
      (fun r w' => w' = {} ∧ ∀ ms, r = .ok ms → Asked req site ms) {} := by
  unfold hotBackupMounts
  rw [Action.always_bind]
  refine dataVolumes_lists.mono fun r w₁ _ hr => ?_
  obtain ⟨rfl, hvols⟩ := hr
  cases r with
  | error e => exact ⟨rfl, fun ms hx => by cases hx⟩
  | ok vols =>
    rw [onOk_ok, Action.always_bind, Action.always_ofExcept]
    refine ⟨lawful_fresh, ?_⟩
    cases hms : hotMounts req.instanceId (req.volumeClasses.getD []) vols with
    | error e => exact ⟨rfl, fun ms hx => by cases hx⟩
    | ok ms =>
      have hasked : Asked req site ms := by
        intro v
        rw [(hotMounts_ok hms).2]
        constructor
        · rintro ⟨v', hv', hdata, heq⟩
          obtain rfl : v = v' := congrArg Prod.fst heq
          obtain ⟨hthere, howns⟩ := (hvols vols rfl v).mp hv'
          exact ⟨hthere, howns, .inr hdata⟩
        · rintro ⟨hthere, howns, hdata⟩
          exact ⟨v, (hvols vols rfl v).mpr ⟨hthere, howns⟩, hdata.resolve_left hsome, rfl⟩
      rw [onOk_ok, Action.always_ite]
      constructor
      · intro _
        refine ⟨lawful_fresh, rfl, ?_⟩
        rintro _ ⟨⟩
        exact hasked
      · intro _
        refine withL4Ports_volumes.mono fun r w₂ _ hr => ⟨hr.1, fun ms' hms' v => ?_⟩
        rw [hr.2 ms' hms' v]
        exact hasked v

/-- **What is to be overwritten**: what is asked for, and no database's. -/
theorem dataMounts_asked {mounts : List Mount} {l : RestoreLocals}
    (hcold : req.artifacts = [] → Asked req site mounts) :
    (req.dataMounts mounts).Always (targeting req site) (Target.Lawful req site)
      (fun r _ w' => w' = {} ∧ ∀ ms, r = .ok (some ms) → Asked req site ms ∧
        ∀ v, req.Mounted site v → v ∉ req.databaseVolumes site.containers) l {} := by
  unfold RestoreRequest.dataMounts
  rw [Routine.always_ite]
  constructor
  · intro hempty
    have hnone : req.artifacts = [] := List.isEmpty_iff.mp hempty
    refine ⟨lawful_fresh, rfl, ?_⟩
    rintro _ ⟨⟩
    refine ⟨hcold hnone, fun v _ hv => ?_⟩
    simp [RestoreRequest.databaseVolumes, hnone] at hv
  · intro hsome
    have hartifacts : req.artifacts ≠ [] := fun hx => hsome (List.isEmpty_iff.mpr hx)
    rw [Routine.always_bind, Routine.always_monadLift]
    refine (hotBackupMounts_asked hartifacts).mono fun r w₁ _ hr => ?_
    obtain ⟨rfl, hasked⟩ := hr
    cases r with
    | error e => exact ⟨rfl, fun ms hx => by cases hx⟩
    | ok ms =>
      unfold dbVolumesFromContainers
      rw [Routine.onOk_ok, Routine.always_bind, Routine.always_monadLift, Action.always_bind]
      refine ⟨lawful_fresh, fun r w₂ hs => ?_⟩
      obtain rfl : w₂ = {} := harmless_serve (harmless_of_ne fun _ hx => by cases hx) hs
      refine ⟨lawful_fresh, ?_⟩
      cases r with
      | error e => exact ⟨rfl, fun ms hx => by cases hx⟩
      | ok listed =>
        obtain rfl : listed = site.containers := hs.2 rfl
        rw [onOk_ok, Action.always_pure]
        refine ⟨lawful_fresh, ?_⟩
        rw [Routine.onOk_ok, Routine.always_ite]
        constructor
        · intro _
          rw [Routine.always_bind, Routine.always_assign]
          exact ⟨lawful_fresh, lawful_fresh, rfl, fun ms hx => by cases hx⟩
        · intro hguard
          refine ⟨lawful_fresh, rfl, ?_⟩
          rintro _ ⟨⟩
          refine ⟨hasked ms rfl, fun v hv hdatabase => hguard ?_⟩
          refine List.any_eq_true.mpr ⟨volumeMount v, (hasked ms rfl v).mpr hv, ?_⟩
          exact List.contains_iff_mem.mpr hdatabase

/-- **The snapshot is the manifest's**, unless that is an empty text. -/
theorem dataSnapshot_named : (∀ s ∈ req.dataArtifact, req.dataSnapshot = s) ↔
    (req.dataArtifact = some "" → req.resticSnapshotId = "") := by
  have hsnapshot : req.dataSnapshot = (present req.dataArtifact).getD req.resticSnapshotId := rfl
  rw [hsnapshot]
  cases req.dataArtifact with
  | none => simp
  | some s =>
    by_cases hs : s = ""
    · subst hs
      simp [present, Option.filter]
    · simp [present, Option.filter, hs]

theorem mounted_plain (h : ¬ req.HasDump) (v : String) :
    req.Mounted site v ↔ v ∈ site.volumes ∧ req.OwnsVolume v := by
  simp [RestoreRequest.Mounted, RestoreRequest.artifacts_eq_nil, h]

theorem mounted_classed (h : req.HasDump) (v : String) :
    req.Mounted site v ↔ v ∈ site.volumes ∧ req.OwnsVolume v ∧ req.classOf v = some "data" := by
  simp [RestoreRequest.Mounted, RestoreRequest.artifacts_eq_nil, h]

/-- **The snapshot that is restored**, by what the manifest has. -/
theorem dataSnapshot_cases (hblank : req.dataArtifact = some "" → req.resticSnapshotId = "") :
    req.dataSnapshot = req.dataArtifact.getD req.resticSnapshotId := by
  have hsnapshot : req.dataSnapshot = (present req.dataArtifact).getD req.resticSnapshotId := rfl
  rw [hsnapshot]
  cases hdata : req.dataArtifact with
  | none => rfl
  | some s =>
    by_cases hs : s = ""
    · subst hs
      exact hblank hdata
    · simp [present, Option.filter, hs]

theorem dataArtifact_none (h : req.manifest = none) : req.dataArtifact = none := by
  rw [RestoreRequest.dataArtifact, h]
  rfl

theorem not_hasDump_none (h : req.manifest = none) : ¬ req.HasDump := by
  simp [RestoreRequest.HasDump, h]

theorem faithful_iff_fits {mounts : List Mount} (hasked : Asked req site mounts)
    (hspared : ∀ v, req.Mounted site v → v ∉ req.databaseVolumes site.containers) :
    req.Faithful site req.dataSnapshot (overwrittenBy mounts) ↔ req.Fits site := by
  have hmem : ∀ v, v ∈ overwrittenBy mounts ↔ req.Mounted site v :=
    fun v => mem_overwrittenBy.trans (hasked v)
  have hnone : overwrittenBy mounts = [] ↔ ∀ v, ¬ req.Mounted site v := by
    rw [List.eq_nil_iff_forall_not_mem]
    exact forall_congr' fun v => not_congr (hmem v)
  constructor
  · intro h
    have hblank := dataSnapshot_named.mp h.named
    have htook : ∀ v, req.Mounted site v →
        site.Took req.instanceId (req.dataArtifact.getD req.resticSnapshotId) v := by
      intro v hv
      rw [← dataSnapshot_cases hblank]
      exact mem_holds.mp (h.contained v ((hmem v).mpr hv))
    have hempty : req.manifest.isSome = true → req.dataArtifact = none →
        ∀ v, ¬ req.Mounted site v := fun hmanifest hdata => hnone.mp (h.unnamed hmanifest hdata)
    constructor
    case plain =>
      intro hmanifest v hv howns
      have := htook v ((mounted_plain (not_hasDump_none hmanifest) v).mpr ⟨hv, howns⟩)
      rwa [dataArtifact_none hmanifest] at this
    case data =>
      intro s hdata hdump v hv howns
      have := htook v ((mounted_plain hdump v).mpr ⟨hv, howns⟩)
      rwa [hdata] at this
    case mixed =>
      intro s hdata hdump v hv howns hclass
      have := htook v ((mounted_classed hdump v).mpr ⟨hv, howns, hclass⟩)
      rwa [hdata] at this
    case dumps =>
      intro hmanifest hdata hdump v hv howns hclass
      exact hempty hmanifest hdata v ((mounted_classed hdump v).mpr ⟨hv, howns, hclass⟩)
    case nothing =>
      intro hmanifest hdata hdump v hv howns
      exact hempty hmanifest hdata v ((mounted_plain hdump v).mpr ⟨hv, howns⟩)
    case blank => exact hblank
  · intro h
    have hempty : req.manifest.isSome = true → req.dataArtifact = none →
        ∀ v, ¬ req.Mounted site v := by
      intro hmanifest hdata v hv
      by_cases hdump : req.HasDump
      · obtain ⟨hthere, howns, hclass⟩ := (mounted_classed hdump v).mp hv
        exact h.dumps hmanifest hdata hdump v hthere howns hclass
      · obtain ⟨hthere, howns⟩ := (mounted_plain hdump v).mp hv
        exact h.nothing hmanifest hdata hdump v hthere howns
    have htook : ∀ v, req.Mounted site v →
        site.Took req.instanceId (req.dataArtifact.getD req.resticSnapshotId) v := by
      intro v hv
      cases hdata : req.dataArtifact with
      | none =>
        -- without a manifest, or there is nothing to overwrite
        cases hmanifest : req.manifest with
        | none =>
          obtain ⟨hthere, howns⟩ := (mounted_plain (not_hasDump_none hmanifest) v).mp hv
          exact h.plain hmanifest v hthere howns
        | some manifest => exact absurd hv (hempty (by rw [hmanifest]; rfl) hdata v)
      | some s =>
        by_cases hdump : req.HasDump
        · obtain ⟨hthere, howns, hclass⟩ := (mounted_classed hdump v).mp hv
          exact h.mixed s hdata hdump v hthere howns hclass
        · obtain ⟨hthere, howns⟩ := (mounted_plain hdump v).mp hv
          exact h.data s hdata hdump v hthere howns
    refine ⟨fun v hv => ?_, dataSnapshot_named.mpr h.blank,
      fun hmanifest hdata => hnone.mpr (hempty hmanifest hdata),
      fun v hv => hspared v ((hmem v).mp hv)⟩
    rw [dataSnapshot_cases h.blank]
    exact mem_holds.mpr (htook v ((hmem v).mp hv))

end Mounts

/-! ## The job -/

section Job
variable {req : RestoreRequest} {site : Site} {l : RestoreLocals} {w : Target}

/-- **The one destructive command.** -/
theorem overwriteData_lawful {mounts : List Mount} (hasked : Asked req site mounts)
    (hspared : ∀ v, req.Mounted site v → v ∉ req.databaseVolumes site.containers) :
    (req.overwriteData mounts).Always (targeting req site) (Target.Lawful req site)
      (fun _ _ w' => w'.Lawful req site) l {} := by
  unfold RestoreRequest.overwriteData
  rw [Routine.always_ite]
  refine ⟨fun _ => ⟨lawful_fresh, lawful_fresh⟩, fun _ => ?_⟩
  unfold runRestic
  rw [Routine.always_bind, Routine.always_monadLift, Action.always_bind, Action.always_ofExcept]
  refine ⟨lawful_fresh, ?_⟩
  cases resticEnv req.settings with
  | error e => exact lawful_fresh
  | ok env =>
    rw [onOk_ok, Action.always_bind]
    refine ⟨lawful_fresh, fun r w₁ hs => ?_⟩
    have h₁ : w₁.Lawful req site := by
      rw [show w₁ = _ from hs]
      have hfits := faithful_iff_fits hasked hspared
      simpa [Target.Lawful, Target.begun] using hfits
    refine ⟨h₁, ?_⟩
    cases r with
    | error e => exact h₁
    | ok u =>
      refine ⟨h₁, fun r w₂ hs => ?_⟩
      obtain rfl : w₂ = w₁ := hs
      refine ⟨h₁, ?_⟩
      cases r with
      | error e => exact h₁
      | ok ended =>
        rw [Routine.onOk_ok, Routine.always_ite]
        refine ⟨fun _ => ?_, fun _ => ⟨h₁, h₁⟩⟩
        rw [Routine.always_bind, Routine.always_assign]
        exact ⟨h₁, h₁, h₁⟩

theorem harmless_look : Kind.look.Harmless := harmless_of_ne fun _ hx => by cases hx

theorem harmless_repo : OpensRepo Kind.Harmless := by
  constructor
  all_goals
    refine harmless_restic fun snap hx => ?_
    cases hx

/-- Everything beside that command is harmless. -/
theorem overwrite_lawful {mounts : List Mount}
    (hcold : req.artifacts = [] → Asked req site mounts) :
    (req.overwrite mounts).Always (targeting req site) (Target.Lawful req site)
      (fun _ _ w' => w'.Lawful req site) l {} := by
  unfold RestoreRequest.overwrite
  rw [Routine.always_bind, Routine.always_assign]
  refine ⟨lawful_fresh, ?_⟩
  rw [Routine.onOk_ok, Routine.always_bind]
  refine (dataMounts_asked hcold).mono fun r l₁ w₁ h₁ hr => ?_
  obtain ⟨rfl, hasked⟩ := hr
  cases r with
  | error e => exact h₁
  | ok chosen =>
    cases chosen with
    | none => exact ⟨h₁, h₁⟩
    | some ms =>
      obtain ⟨hmounts, hspared⟩ := hasked ms rfl
      rw [Routine.onOk_ok, Routine.always_bind]
      refine (overwriteData_lawful hmounts hspared).mono fun r l₂ w₂ h₂ _ => ?_
      cases r with
      | error e => exact h₂
      | ok done =>
        rw [Routine.onOk_ok, Routine.always_ite]
        refine ⟨fun _ => ⟨h₂, h₂⟩, fun _ => ?_⟩
        have hrest : RWithin Kind.Harmless (do
            if ← req.restoreDatabases then
              forget req.settings req.instanceId true : RestoreSteps Unit) := by
          refine Routine.Uses.bind (req.restoreDatabases_within harmless_look
            (harmless_of_ne fun _ hx => by cases hx) (harmless_of_ne fun _ hx => by cases hx)
            fun _ _ => harmless_restic fun _ hx => by cases hx) fun done => ?_
          split
          · exact lift_within (forget_within fun _ _ => harmless_restic fun _ hx => by cases hx)
          · exact Routine.uses_pure _
        exact (harmless_within hrest h₂).mono fun _ _ w₃ h₃ _ => h₃

theorem body_lawful {started : Bool} :
    (req.body started).Always (targeting req site) (Target.Lawful req site)
      (fun _ _ w' => w'.Lawful req site) l {} := by
  unfold RestoreRequest.body
  rw [Routine.always_bind]
  refine (harmless_within (req.quiesce_within harmless_look
    (harmless_of_ne fun _ hx => by cases hx)) lawful_fresh).mono fun r l₁ w₁ h₁ hw₁ => ?_
  obtain rfl : w₁ = {} := hw₁
  cases r with
  | error e => exact h₁
  | ok rests =>
    rw [Routine.onOk_ok, Routine.always_ite]
    refine ⟨fun _ => ⟨h₁, h₁⟩, fun _ => ?_⟩
    rw [Routine.always_bind]
    refine (harmless_within (lift_within (ensureRepo_within harmless_repo.catConfig
      harmless_repo.init harmless_repo.unlock)) h₁).mono fun r l₂ w₂ h₂ hw₂ => ?_
    obtain rfl : w₂ = {} := hw₂
    cases r with
    | error e => exact h₂
    | ok u =>
      rw [Routine.onOk_ok, Routine.always_ite]
      refine ⟨fun _ => ?_, fun _ => ?_⟩
      · rw [Routine.always_bind, Routine.always_assign]
        exact ⟨h₂, h₂, h₂⟩
      rw [Routine.always_bind, Routine.always_monadLift]
      have hmounts : (backupMounts req.settings req.instanceId).Always (targeting req site)
          (Target.Lawful req site) (fun r w' => w' = {} ∧
            ∀ ms, r = .ok ms → req.artifacts = [] → Asked req site ms) {} := by
        by_cases hnone : req.artifacts = []
        · exact (backupMounts_asked hnone).mono fun r w' _ hr => ⟨hr.1, fun ms hms _ => hr.2 ms hms⟩
        · have hports : Kind.Harmless (.exists (.l4Ports req.instanceId)) :=
            harmless_of_ne fun _ hx => by cases hx
          exact (harmless_action (backupMounts_within harmless_look hports) h₂).mono
            fun r w' _ hw' => ⟨hw', fun ms _ hx => absurd hx hnone⟩
      refine hmounts.mono fun r w₃ h₃ hr => ?_
      obtain ⟨rfl, hasked⟩ := hr
      cases r with
      | error e => exact h₃
      | ok mounts =>
        rw [Routine.onOk_ok, Routine.always_bind]
        refine (harmless_within (req.takeSafety_within (harmless_restic fun _ hx => by cases hx)
          fun _ => harmless_of_ne fun _ hx => by cases hx) h₃).mono fun r l₄ w₄ h₄ hw₄ => ?_
        obtain rfl : w₄ = {} := hw₄
        cases r with
        | error e => exact h₄
        | ok done =>
          rw [Routine.onOk_ok, Routine.always_ite]
          exact ⟨fun _ => overwrite_lawful (hasked mounts rfl), fun _ => ⟨h₄, h₄⟩⟩

theorem finally_target {started release : Bool} (h : w.Lawful req site) :
    (do req.cleanup started; req.report release : RestoreSteps Unit).Always (targeting req site)
      (Target.Lawful req site) (fun _ _ _ => True) l w := by
  have hcleanup : RWithin Kind.Harmless (req.cleanup started) := by
    refine req.cleanup_within harmless_look ?_ ?_ ?_ fun _ => ?_
    all_goals exact harmless_of_ne fun _ hx => by cases hx
  have hreport : RWithin Kind.Harmless (req.report release) := by
    refine req.report_within ?_ ?_ ?_ (fun _ => ?_) ?_
    all_goals exact harmless_of_ne fun _ hx => by cases hx
  exact (harmless_within (Routine.Uses.bind hcleanup fun _ => hreport) h).mono fun _ _ _ _ _ =>
    trivial

theorem handler_target {e : JobError} (h : w.Lawful req site) :
    (RestoreRequest.handler e).Always (targeting req site) (Target.Lawful req site)
      (fun _ _ w' => w'.Lawful req site) l w :=
  (harmless_within RestoreRequest.handler_within h).mono fun _ _ _ h' _ => h'

end Job

section Restore
variable (settings : Settings) (instanceId resticSnapshotId restoreId : String)
  (destination : Option Destination) (manifest volumeClasses : Option (List (String × String)))
  (releaseLock : Bool) (l : RestoreLocals) (site : Site)

/-- **The whole job**: the overwrite goes beyond the snapshot exactly where the request does
not fit. -/
theorem restoreInstance_target :
    (restoreInstance settings instanceId resticSnapshotId restoreId destination manifest
      volumeClasses releaseLock).Always
      (targeting (restoreRequest settings instanceId resticSnapshotId restoreId destination manifest
        volumeClasses) site)
      (Target.Lawful (restoreRequest settings instanceId resticSnapshotId restoreId destination
        manifest volumeClasses) site) (fun _ _ _ => True) l {} := by
  unfold restoreInstance
  rw [Routine.always_bind, Routine.always_assign]
  refine ⟨lawful_fresh, ?_⟩
  rw [Routine.onOk_ok, Routine.always_bind, Routine.always_monadLift]
  refine (harmless_action (getStatus_within harmless_look) lawful_fresh).mono
    fun r w₁ h₁ hw₁ => ?_
  obtain rfl : w₁ = {} := hw₁
  cases r with
  | error e => trivial
  | ok st =>
    dsimp only [Routine.onOk]
    rw [Routine.always_tryFinally, Routine.always_tryExcept]
    refine Routine.Always.mono body_lawful fun r l₂ w₂ _ h₂ => ?_
    cases r with
    | error e =>
      refine (handler_target h₂).mono fun r l₃ w₃ _ h₃ => ?_
      refine (finally_target h₃).mono fun r' l₄ w₄ _ _ => ?_
      cases r' <;> trivial
    | ok u =>
      refine (finally_target h₂).mono fun r' l₄ w₄ _ _ => ?_
      cases r' <;> trivial

/-- **A restore overwrites only what the snapshot holds, if nothing has changed that it relies
on.**  At every point of every run, whatever the volumes, the containers and the backups were: an
overwrite has gone beyond what the snapshot holds exactly if one was issued and the node does not
fit the request any more (`Fits`).  The guard for the databases never fails. -/
theorem restore_within_snapshot {w' : Target}
    {q : Prog (Raises Answer JobError) (Except JobError Unit × RestoreLocals)}
    (run : Run (targeting (restoreRequest settings instanceId resticSnapshotId restoreId
        destination manifest volumeClasses) site) {}
      (restoreInstance settings instanceId resticSnapshotId restoreId destination manifest
        volumeClasses releaseLock l) w' q) :
    w'.violated = false ↔ (w'.issued = true →
      (restoreRequest settings instanceId resticSnapshotId restoreId destination manifest
        volumeClasses).Fits site) :=
  (Prog.always_iff_runs.mp (restoreInstance_target settings instanceId resticSnapshotId restoreId
    destination manifest volumeClasses releaseLock l site) w' q run).1

end Restore

/-- An orderly daemon, on which every command succeeds. -/
def orderly (req : RestoreRequest) (site : Site) (w : Target) (c : BackupCall) :
    Raises Answer JobError c × Target :=
  match c with
  | .start (.restic run) => (.ok (), w.begun req site run)
  | .listVolumes _ => (.ok site.volumes, w)
  | .listInstanceContainers _ => (.ok site.containers, w)
  | c => (c.eventless, w)

theorem targeting_orderly (req : RestoreRequest) (site : Site) (w : Target) (c : BackupCall) :
    (targeting req site).serve w c (orderly req site w c).1 (orderly req site w c).2 := by
  cases c with
  | start child => cases child <;> rfl
  | listVolumes n => exact ⟨rfl, fun _ _ _ => Iff.rfl⟩
  | listInstanceContainers i => exact ⟨rfl, fun _ => rfl⟩
  | _ => rfl

/-- A node with the one volume of a cold backup. -/
def sameSite : Site := ⟨["i_files"], [], fun _ => some { volumes := ["i_files"] }⟩

/-- A cold restore of one volume, from a snapshot of it. -/
theorem restore_within_snapshot_cold : ∃ w' r,
    Run (targeting (restoreRequest ownRepository "i" "snap" "r" none none none)
        sameSite) {}
      (restoreInstance ownRepository "i" "snap" "r" none none none true
        { payload := { restoreId := "r", status := .failed } }) w' (.pure r) ∧
      w'.issued = true ∧ w'.violated = false := by
  refine ⟨_, _, Prog.run_evalFor (h := orderly _ _) (targeting_orderly _ _) 40 _ _, by rfl, ?_⟩
  refine (restore_within_snapshot ownRepository "i" "snap" "r" none none none true
    { payload := { restoreId := "r", status := .failed } } sameSite
    (Prog.run_evalFor (h := orderly _ _) (targeting_orderly _ _) 40 _ _)).mpr fun _ => ?_
  refine ⟨fun _ v hv _ => ⟨_, rfl, hv, fun classes hx => ?_⟩, ?_, ?_, ?_, ?_, ?_⟩
  all_goals
    intros
    contradiction

/-- **A dump is restored over a volume**: the manifest has only the dump of a database, the
request's snapshot id is that dump, and a volume of the data class has come since. -/
theorem dump_restored_over_volume : ∃ w' q,
    Run (targeting (restoreRequest ownRepository "i" "dump" "r" none (some [("db:db", "dump")])
          (some [("files", "data")]))
        ⟨["i_files"], [], fun _ => none⟩) {}
      (restoreInstance ownRepository "i" "dump" "r" none (some [("db:db", "dump")])
        (some [("files", "data")]) true { payload := { restoreId := "r", status := .failed } })
      w' q ∧ w'.issued = true ∧ w'.violated = true :=
  ⟨_, _, Prog.run_evalFor (h := orderly _ _) (targeting_orderly _ _) 40 _ _, by rfl, by rfl⟩

end Greffer.Backup

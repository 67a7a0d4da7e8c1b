import Greffer.Backup.HotManifest
import Greffer.Backup.RestoreOrder

/-! # A restore that touched nothing puts the service back

A restore of a running instance stops it first.  If the job then fails before it has
touched anything, it owes the instance a start, and it decides that by one variable:
`overwrite_started`.

**The variable is assigned too early.**  Between the assignment and the first command that
touches anything the volumes are listed, classified and compared with those of the
database containers, and each of these may refuse.  A refusal there ends the job with
nothing touched and nothing started.  `restart_before_result` says that this is the only way
to strand the instance.
-/
namespace Greffer.Backup
open Effects Docker

instance (cls : Option String) : Decidable (Classified cls) :=
  inferInstanceAs (Decidable (_ ∨ _ ∨ _))

namespace RestoreRequest
variable (req : RestoreRequest)

/-- The volumes that are the instance's, and hold its data, by their names. -/
def OwnsVolume (v : String) : Prop :=
  startsWith v (req.instanceId ++ "_") = true ∧ endsWith v nginxVolumeSuffix = false

instance (v : String) : Decidable (req.OwnsVolume v) := inferInstanceAs (Decidable (_ ∧ _))

/-- The class of a volume, in the manager's map. -/
def classOf (v : String) : Option String :=
  volumeClass req.instanceId (req.volumeClasses.getD []) v

/-- Of the listed volumes one is the instance's, and has no class. -/
def Unclassed (vols : List String) : Prop :=
  ∃ v ∈ vols, req.OwnsVolume v ∧ ¬ Classified (req.classOf v)

instance (vols : List String) : Decidable (req.Unclassed vols) :=
  inferInstanceAs (Decidable (∃ _ ∈ _, _))

/-- What the overwrite would be mounted on: the volumes of the data class, and beside
them the ports file. -/
def Overwritten (vols : List String) (ports : Bool) (source : String) : Prop :=
  ∃ v ∈ vols, (req.OwnsVolume v ∧ req.classOf v = some "data") ∧
    (source = v ∨ ports = true ∧ source = (FileRef.l4Ports req.instanceId).path
      req.settings.greffonPath)

instance (vols : List String) (ports : Bool) (source : String) :
    Decidable (req.Overwritten vols ports source) := inferInstanceAs (Decidable (∃ _ ∈ _, _))

/-- What the containers of the services with an artifact mount. -/
def databaseVolumes (listed : List Container) : List String :=
  (listed.filter fun c => (req.artifacts.map Prod.fst).any fun s =>
    c.label serviceLabel == some s).flatMap Container.volumeMounts

/-- A database container mounts what the overwrite would be mounted on. -/
def Clashes (vols : List String) (ports : Bool) (listed : List Container) : Prop :=
  ∃ source ∈ req.databaseVolumes listed, req.Overwritten vols ports source

instance (vols : List String) (ports : Bool) (listed : List Container) :
    Decidable (req.Clashes vols ports listed) := inferInstanceAs (Decidable (∃ _ ∈ _, _))

end RestoreRequest

/-- What becomes of an instance under a restore, told from the calls alone. -/
structure Outage where
  /-- What the containers looked like at entry. -/
  entry : Option Aggregate := none
  /-- The pointer to the safety snapshot has been written, or tried. -/
  pointed : Bool := false
  /-- An overwrite was started, or a start of database services issued. -/
  touched : Bool := false
  /-- A start of the whole instance was issued. -/
  restarted : Bool := false
  /-- The volumes, as last listed, and whether there was a ports file. -/
  volumes : List String := []
  ports : Bool := false
  /-- After the pointer, and before anything was touched, a look at the volumes or the
  containers failed, or showed a volume that must not be overwritten. -/
  refused : Bool := false
  /-- A result that is no success was posted. -/
  reported : Bool := false
  /-- It was posted with the instance stopped for nothing. -/
  stranded : Bool := false

namespace Outage

/-- The overwrite is being prepared. -/
def Preparing (w : Outage) : Prop := w.pointed = true ∧ w.touched = false

instance (w : Outage) : Decidable w.Preparing := inferInstanceAs (Decidable (_ ∧ _))

/-- Something was found while the overwrite is being prepared. -/
def refuse (found : Prop) [Decidable found] (w : Outage) : Outage :=
  { w with refused := w.refused || decide (w.Preparing ∧ found) }

/-- A result is posted. -/
def report (p : RestorePayload) (w : Outage) : Outage :=
  { w with
    reported := w.reported || decide (p.status ≠ .success)
    stranded := w.stranded || decide (p.status ≠ .success ∧ w.entry = some .running ∧
      w.touched = false ∧ w.restarted = false) }

/-- A restic command has been started. -/
def begun (w : Outage) : ResticCommand → Outage
  | .restore _ => { w with touched := true }
  | _ => w

/-- The instance after a call. -/
def after (req : RestoreRequest) (w : Outage) :
    (c : BackupCall) → Raises Answer JobError c → Outage
  | .listContainers _, .ok listed =>
    { w with entry := w.entry.or (some (Docker.getStatus listed).status) }
  | .writeText _ (.state p), _ => if p.status = .overwriting then { w with pointed := true } else w
  | .listVolumes _, .ok vols => { w.refuse (req.Unclassed vols) with volumes := vols }
  | .exists _, .ok found => { w with ports := found }
  | .listInstanceContainers _, .ok listed => w.refuse (req.Clashes w.volumes w.ports listed)
  | .listVolumes _, .error _ | .exists _, .error _ | .listInstanceContainers _, .error _ =>
    w.refuse True
  | .start (.restic run), _ => w.begun run.command
  | .composeUp _ [], _ => { w with restarted := true }
  | .composeUp _ (_ :: _), _ => { w with touched := true }
  | .post _ (.restore p), _ => w.report p
  | _, _ => w

end Outage

/-- The environment: every call is answered, or raises, as it likes. -/
def stopping (req : RestoreRequest) : Machine (Raises Answer JobError) Outage where
  serve w c r w' := w' = w.after req c r

/-- A failure is reported on an instance that ran exactly where a refusal came between. -/
def Outage.Lawful (w : Outage) : Prop :=
  w.stranded = true ↔ w.reported = true ∧ w.entry = some .running ∧ w.refused = true

/-! ## What a call leaves as it is -/

/-- The instance had this word at entry; this is what came of it; and nothing has been
reported. -/
structure Outage.Stands (word : Aggregate) (hit off : Bool) (w : Outage) : Prop where
  entry : w.entry = some word
  touched : w.touched = hit
  refused : w.refused = off
  restarted : w.touched = false → w.restarted = false
  reported : w.reported = false
  stranded : w.stranded = false

/-- The kinds of calls that look at the machine. -/
def Kind.Looks : Kind → Prop
  | .look | .exists _ => True
  | _ => False

/-- The kinds of calls that are no start, no overwrite and no result. -/
def Kind.Idle (k : Kind) : Prop :=
  ¬ k.Ups ∧ (∀ snap, k ≠ .restic (.restore snap)) ∧ ∀ result, k ≠ .post result

theorem idle_of_looks {k : Kind} (h : k.Looks ∨ k.Stops) : k.Idle := by
  cases k with
  | look | «exists» file | composeStop i => simp [Kind.Idle]
  | _ => simp [Kind.Looks] at h

section Frames
variable {req : RestoreRequest} {word : Aggregate} {hit off : Bool} {w w' : Outage}
  {c : BackupCall} {r : Raises Answer JobError c}

theorem Outage.Stands.lawful (h : w.Stands word hit off) : w.Lawful := by
  unfold Outage.Lawful
  simp [h.reported, h.stranded]

/-- What an idle call leaves as it is. -/
structure Outage.Drift (w w' : Outage) : Prop where
  entry : ∀ word, w.entry = some word → w'.entry = some word
  touched : w'.touched = w.touched
  restarted : w'.restarted = w.restarted
  reported : w'.reported = w.reported
  stranded : w'.stranded = w.stranded
  refused : w.refused = true ∨ ¬ w.Preparing → w'.refused = w.refused

theorem Outage.Drift.refl (w : Outage) : w.Drift w :=
  ⟨fun _ h => h, rfl, rfl, rfl, rfl, fun _ => rfl⟩

theorem drift_refuse (found : Prop) [Decidable found] : w.Drift (w.refuse found) := by
  refine ⟨fun _ h => h, rfl, rfl, rfl, rfl, fun h => ?_⟩
  rcases h with h | h
  · simp [Outage.refuse, h]
  · simp [Outage.refuse, h]

/-- **An idle call looks, or changes nothing at all.** -/
theorem idle_drift (hk : c.kind.Idle) (hs : (stopping req).serve w c r w') : w.Drift w' := by
  obtain rfl : w' = w.after req c r := hs
  obtain ⟨hup, hrestore, hpost⟩ := hk
  cases c with
  | composeUp i services => exact absurd trivial hup
  | post i result => exact absurd rfl (hpost result)
  | listContainers n =>
    cases r with
    | error e => exact .refl w
    | ok listed =>
      refine ⟨fun word h => ?_, rfl, rfl, rfl, rfl, fun _ => rfl⟩
      simp [Outage.after, h]
  | listVolumes n =>
    cases r with
    | error e => exact drift_refuse True
    | ok vols => exact { drift_refuse (req.Unclassed vols) with }
  | «exists» file =>
    cases r with
    | error e => exact drift_refuse True
    | ok found => exact { Outage.Drift.refl w with }
  | listInstanceContainers i =>
    cases r with
    | error e => exact drift_refuse True
    | ok listed => exact drift_refuse (req.Clashes w.volumes w.ports listed)
  | writeText file content =>
    cases content with
    | marker id => exact .refl w
    | state p =>
      show w.Drift (if p.status = .overwriting then { w with pointed := true } else w)
      split
      · exact { Outage.Drift.refl w with }
      · exact .refl w
  | start child =>
    cases child with
    | dockerExec id argv interactive => exact .refl w
    | restic run =>
      have hbegun : w.begun run.command = w := by
        cases hcommand : run.command with
        | restore snap => exact absurd (congrArg Kind.restic hcommand) (hrestore snap)
        | _ => rfl
      show w.Drift (w.begun run.command)
      rw [hbegun]
      exact .refl w
  | _ => exact .refl w

/-- Nor does a look that finds nothing, and while nothing is being prepared none does. -/
theorem Outage.Stands.drift (h : w.Stands word hit off) (hdrift : w.Drift w')
    (hrefused : w'.refused = w.refused) : w'.Stands word hit off where
  entry := hdrift.entry word h.entry
  touched := hdrift.touched.trans h.touched
  refused := hrefused.trans h.refused
  restarted htouched := hdrift.restarted.trans (h.restarted (hdrift.touched ▸ htouched))
  reported := hdrift.reported.trans h.reported
  stranded := hdrift.stranded.trans h.stranded

theorem Outage.Stands.refuse {found : Prop} [Decidable found] (h : w.Stands word hit off)
    (hfound : ¬ (w.Preparing ∧ found)) : (w.refuse found).Stands word hit off :=
  h.drift (drift_refuse found) (by simp [Outage.refuse, hfound])

theorem idle_serve (hk : c.kind.Idle) (h : w.Stands word hit off) (hquiet : ¬ w.Preparing)
    (hs : (stopping req).serve w c r w') : w'.Stands word hit off :=
  h.drift (idle_drift hk hs) ((idle_drift hk hs).refused (.inr hquiet))

theorem refused_serve (hk : ¬ c.kind.Looks) (hs : (stopping req).serve w c r w') :
    w'.refused = w.refused := by
  obtain rfl : w' = w.after req c r := hs
  cases c with
  | listContainers n => exact absurd trivial hk
  | listVolumes n => exact absurd trivial hk
  | «exists» file => exact absurd trivial hk
  | listInstanceContainers i => exact absurd trivial hk
  | composeUp i services => cases services <;> rfl
  | post i result => cases result <;> rfl
  | writeText file content =>
    cases content with
    | marker id => rfl
    | state p =>
      show (if p.status = .overwriting then { w with pointed := true } else w).refused = w.refused
      split <;> rfl
  | start child =>
    cases child with
    | dockerExec id argv interactive => rfl
    | restic run =>
      show (w.begun run.command).refused = w.refused
      cases run.command <;> rfl
  | _ => rfl

theorem pointed_serve (hk : ∀ file content, c.kind ≠ .write file content)
    (hs : (stopping req).serve w c r w') : w'.pointed = w.pointed := by
  obtain rfl : w' = w.after req c r := hs
  cases c with
  | writeText file content => exact absurd rfl (hk file content)
  | composeUp i services => cases services <;> rfl
  | post i result => cases result <;> rfl
  | start child =>
    cases child with
    | dockerExec id argv interactive => rfl
    | restic run =>
      show (w.begun run.command).pointed = w.pointed
      cases run.command <;> rfl
  | _ => cases r <;> rfl

/-- **Once something is touched**, nothing is owed, whatever comes before the result. -/
theorem touched_serve (hk : ∀ result, c.kind ≠ .post result) (h : w.Stands word true false)
    (hs : (stopping req).serve w c r w') : w'.Stands word true false := by
  have hpreparing : ¬ w.Preparing := by
    intro hx
    rw [Outage.Preparing, h.touched] at hx
    cases hx.2
  by_cases hup : c.kind.Ups
  · obtain ⟨i, services, rfl⟩ : ∃ i services, c = .composeUp i services := by
      cases c with
      | composeUp i services => exact ⟨i, services, rfl⟩
      | start child | await child | kill child => cases child <;> cases hup
      | _ => cases hup
    obtain rfl : w' = w.after req _ r := hs
    cases services with
    | nil => exact { h with restarted := fun hx => by simp [Outage.after, h.touched] at hx }
    | cons service rest => exact { h with touched := rfl, restarted := fun hx => by cases hx }
  · by_cases hrestore : ∃ snap, c.kind = .restic (.restore snap)
    · obtain ⟨snap, hsnap⟩ := hrestore
      obtain rfl : w' = w.after req c r := hs
      cases c with
      | start child =>
        cases child with
        | dockerExec id argv interactive => cases hsnap
        | restic run =>
          have hcommand : run.command = .restore snap := Kind.restic.inj hsnap
          show (w.begun run.command).Stands word true false
          rw [hcommand]
          exact { h with touched := rfl, restarted := fun hx => by cases hx }
      | await child => exact h
      | kill child => exact h
      | _ => cases hsnap
    · exact idle_serve ⟨hup, fun snap hx => hrestore ⟨snap, hx⟩, hk⟩ h hpreparing hs

end Frames

/-! ## The choice of what to overwrite -/

section Choice
variable {req : RestoreRequest} {word : Aggregate} {w : Outage}

/-- A listing that is refused has a volume without a class. -/
theorem hotMounts_error {instanceId : String} {volumeClasses : List (String × String)}
    {vols : List String} {e : JobError} (h : hotMounts instanceId volumeClasses vols = .error e) :
    ∃ v ∈ vols, ¬ Classified (volumeClass instanceId volumeClasses v) := by
  induction vols with
  | nil => cases h
  | cons vol rest ih =>
    by_cases hvol : Classified (volumeClass instanceId volumeClasses vol)
    · have hrest : hotMounts instanceId volumeClasses rest = .error e := by
        unfold hotMounts at h
        rcases hvol with hvol | hvol | hvol
        · rw [hvol] at h
          cases hms : hotMounts instanceId volumeClasses rest with
          | ok ms =>
            rw [hms] at h
            cases h
          | error e' =>
            rw [hms] at h
            exact h
        · rwa [hvol] at h
        · rwa [hvol] at h
      obtain ⟨v, hv, hclass⟩ := ih hrest
      exact ⟨v, List.mem_cons_of_mem _ hv, hclass⟩
    · exact ⟨vol, List.mem_cons_self, hvol⟩

/-- What the choice has come to: mounts, of what may be overwritten as far as it has been
looked at, or a refusal. -/
def Chosen (req : RestoreRequest) (word : Aggregate) : Except JobError (List Mount) → Outage → Prop
  | .error _, w => w.Stands word false true
  | .ok mounts, w => w.Stands word false false ∧ w.pointed = true ∧
      ∀ source, (∃ m ∈ mounts, m.1 = source) ↔ req.Overwritten w.volumes w.ports source

theorem stands_refused (h : w.Stands word false false) (hpointed : w.pointed = true)
    {found : Prop} [Decidable found] (hfound : found) :
    (w.refuse found).Stands word false true :=
  { h with refused := by simp [Outage.refuse, Outage.Preparing, hfound, hpointed, h.touched] }

theorem mem_instanceVolumes {vols : List String} {v : String} :
    v ∈ (vols.filter fun v => startsWith v (req.instanceId ++ "_") &&
      !endsWith v nginxVolumeSuffix).insertionSort (· ≤ ·) ↔ v ∈ vols ∧ req.OwnsVolume v := by
  rw [List.mem_insertionSort, List.mem_filter, Bool.and_eq_true, Bool.not_eq_true']
  rfl

theorem withL4Ports_chosen {ms : List Mount} {vols : List String}
    (h : w.Stands word false false) (hpointed : w.pointed = true) (hvols : w.volumes = vols)
    (hmem : ∀ m, m ∈ ms ↔
      ∃ v ∈ vols, (req.OwnsVolume v ∧ req.classOf v = some "data") ∧ m = volumeMount v)
    (hsome : ms ≠ []) :
    (withL4Ports req.settings req.instanceId ms).Always (stopping req) Outage.Lawful
      (Chosen req word) w := by
  obtain ⟨m₀, hm₀⟩ := List.exists_mem_of_ne_nil ms hsome
  obtain ⟨v₀, hv₀, hdata₀, -⟩ := (hmem m₀).mp hm₀
  unfold withL4Ports
  rw [Action.always_bind]
  refine ⟨h.lawful, fun r w₁ hs => ?_⟩
  obtain rfl : w₁ = w.after req _ r := hs
  cases r with
  | error e =>
    have hrefused := stands_refused h hpointed trivial
    exact ⟨hrefused.lawful, hrefused⟩
  | ok found =>
    have hfree : Outage.Stands word false false { w with ports := found } := { h with }
    refine ⟨hfree.lawful, ?_⟩
    rw [onOk_ok, Action.always_ite]
    constructor
    · intro hfound
      refine ⟨hfree.lawful, hfree, hpointed, fun source => ?_⟩
      constructor
      · rintro ⟨m, hm, hsource⟩
        rcases List.mem_append.mp hm with hm | hm
        · obtain ⟨v, hv, hdata, rfl⟩ := (hmem m).mp hm
          exact ⟨v, hvols ▸ hv, hdata, .inl hsource.symm⟩
        · obtain rfl := List.mem_singleton.mp hm
          exact ⟨v₀, hvols ▸ hv₀, hdata₀, .inr ⟨hfound, hsource.symm⟩⟩
      · rintro ⟨v, hv, hdata, hsource⟩
        rcases hsource with rfl | ⟨-, rfl⟩
        · exact ⟨volumeMount source, List.mem_append_left _ ((hmem _).mpr
            ⟨source, hvols ▸ hv, hdata, rfl⟩), rfl⟩
        · exact ⟨_, List.mem_append_right _ List.mem_cons_self, rfl⟩
    · intro hfound
      refine ⟨hfree.lawful, hfree, hpointed, fun source => ?_⟩
      constructor
      · rintro ⟨m, hm, hsource⟩
        obtain ⟨v, hv, hdata, rfl⟩ := (hmem m).mp hm
        exact ⟨v, hvols ▸ hv, hdata, .inl hsource.symm⟩
      · rintro ⟨v, hv, hdata, hsource⟩
        rcases hsource with rfl | ⟨hports, -⟩
        · exact ⟨volumeMount source, (hmem _).mpr ⟨source, hvols ▸ hv, hdata, rfl⟩, rfl⟩
        · exact absurd hports hfound

/-- **The volumes are chosen, or refused.** -/
theorem hotBackupMounts_chosen (h : w.Stands word false false) (hpointed : w.pointed = true) :
    (hotBackupMounts req.settings req.instanceId (req.volumeClasses.getD [])).Always (stopping req)
      Outage.Lawful (Chosen req word) w := by
  unfold hotBackupMounts dataVolumes
  rw [Action.always_bind, Action.always_bind]
  refine ⟨h.lawful, fun r w₁ hs => ?_⟩
  obtain rfl : w₁ = w.after req _ r := hs
  cases r with
  | error e => exact ⟨(stands_refused h hpointed trivial).lawful, stands_refused h hpointed trivial⟩
  | ok vols =>
    -- A volume without a class refuses the restore, and no other listing does.
    by_cases hunclassed : req.Unclassed vols
    · have hrefused : Outage.Stands word false true
          { w.refuse (req.Unclassed vols) with volumes := vols } :=
        { stands_refused h hpointed hunclassed with }
      obtain ⟨v, hv, howns, hclass⟩ := hunclassed
      refine ⟨hrefused.lawful, ?_⟩
      rw [onOk_ok, Action.always_pure, onOk_ok]
      refine ⟨hrefused.lawful, ?_⟩
      rw [Action.always_bind, Action.always_ofExcept]
      refine ⟨hrefused.lawful, ?_⟩
      cases hms : hotMounts req.instanceId (req.volumeClasses.getD [])
          ((vols.filter fun v => startsWith v (req.instanceId ++ "_") &&
            !endsWith v nginxVolumeSuffix).insertionSort (· ≤ ·)) with
      | error e => exact hrefused
      | ok ms => exact absurd ((hotMounts_ok hms).1 v (mem_instanceVolumes.mpr ⟨hv, howns⟩)) hclass
    · have hfree : Outage.Stands word false false
          { w.refuse (req.Unclassed vols) with volumes := vols } :=
        { h.refuse fun hx => hunclassed hx.2 with }
      refine ⟨hfree.lawful, ?_⟩
      rw [onOk_ok, Action.always_pure, onOk_ok]
      refine ⟨hfree.lawful, ?_⟩
      rw [Action.always_bind, Action.always_ofExcept]
      refine ⟨hfree.lawful, ?_⟩
      cases hms : hotMounts req.instanceId (req.volumeClasses.getD [])
          ((vols.filter fun v => startsWith v (req.instanceId ++ "_") &&
            !endsWith v nginxVolumeSuffix).insertionSort (· ≤ ·)) with
      | error e =>
        obtain ⟨v, hv, hclass⟩ := hotMounts_error hms
        obtain ⟨hlisted, howns⟩ := mem_instanceVolumes.mp hv
        exact absurd ⟨v, hlisted, howns, hclass⟩ hunclassed
      | ok ms =>
        have hmem : ∀ m, m ∈ ms ↔
            ∃ v ∈ vols, (req.OwnsVolume v ∧ req.classOf v = some "data") ∧ m = volumeMount v := by
          intro m
          rw [(hotMounts_ok hms).2]
          constructor
          · rintro ⟨v, hv, hdata, hm⟩
            obtain ⟨hlisted, howns⟩ := mem_instanceVolumes.mp hv
            exact ⟨v, hlisted, ⟨howns, hdata⟩, hm⟩
          · rintro ⟨v, hlisted, ⟨howns, hdata⟩, hm⟩
            exact ⟨v, mem_instanceVolumes.mpr ⟨hlisted, howns⟩, hdata, hm⟩
        rw [onOk_ok, Action.always_ite]
        refine ⟨fun hempty => ?_, fun hsome => ?_⟩
        · obtain rfl := List.isEmpty_iff.mp hempty
          refine ⟨hfree.lawful, hfree, hpointed, fun source => ?_⟩
          constructor
          · rintro ⟨m, hm, _⟩
            cases hm
          · rintro ⟨v, hv, hdata, _⟩
            have hnone := (hmem _).mpr ⟨v, hv, hdata, rfl⟩
            cases hnone
        · exact withL4Ports_chosen hfree hpointed rfl hmem fun hx => hsome (by simp [hx])

variable (req) in
/-- **What is to be overwritten is settled, or refused** with nothing touched. -/
theorem dataMounts_chosen {mounts : List Mount} {l : RestoreLocals} (hl : l.Failing true)
    (h : w.Stands word false false) (hpointed : w.pointed = true) :
    (req.dataMounts mounts).Always (stopping req) Outage.Lawful
      (fun r l' w' => l'.Failing true ∧
        ∃ off, w'.Stands word false off ∧ ((∃ ms, r = .ok (some ms)) ↔ off = false)) l w := by
  unfold RestoreRequest.dataMounts
  rw [Routine.always_ite]
  constructor
  · intro _
    exact ⟨h.lawful, hl, false, h, by simp⟩
  · intro _
    rw [Routine.always_bind, Routine.always_monadLift]
    refine (hotBackupMounts_chosen h hpointed).mono fun r w₁ _ hchosen => ?_
    cases r with
    | error e => exact ⟨hl, true, hchosen, by simp⟩
    | ok ms =>
      obtain ⟨h₁, hpointed₁, hsources⟩ := hchosen
      unfold dbVolumesFromContainers
      rw [Routine.onOk_ok, Routine.always_bind, Routine.always_monadLift, Action.always_bind]
      refine ⟨h₁.lawful, fun r w₂ hs => ?_⟩
      obtain rfl : w₂ = w₁.after req _ r := hs
      cases r with
      | error e =>
        have hrefused := stands_refused h₁ hpointed₁ trivial
        exact ⟨hrefused.lawful, hl, true, hrefused, by simp⟩
      | ok listed =>
        -- A volume that a database owns is not overwritten: the clash is what refuses it.
        have hclash : req.Clashes w₁.volumes w₁.ports listed ↔
            (ms.any fun m => (req.databaseVolumes listed).contains m.1) = true := by
          rw [List.any_eq_true]
          constructor
          · rintro ⟨source, hsource, hover⟩
            obtain ⟨m, hm, rfl⟩ := (hsources source).mpr hover
            exact ⟨m, hm, List.contains_iff_mem.mpr hsource⟩
          · rintro ⟨m, hm, hcontains⟩
            exact ⟨m.1, List.contains_iff_mem.mp hcontains, (hsources _).mp ⟨m, hm, rfl⟩⟩
        by_cases hclashes : req.Clashes w₁.volumes w₁.ports listed
        · have hrefused := stands_refused h₁ hpointed₁ hclashes
          refine ⟨hrefused.lawful, ?_⟩
          rw [onOk_ok, Action.always_pure]
          refine ⟨hrefused.lawful, ?_⟩
          rw [Routine.onOk_ok, Routine.always_ite]
          refine ⟨fun _ => ?_, fun hno => absurd (hclash.mp hclashes) hno⟩
          rw [Routine.always_bind, Routine.always_assign]
          refine ⟨hrefused.lawful, hrefused.lawful, ?_⟩
          exact ⟨(failing_kept true).failWithSafety _ _ hl, true, hrefused, by simp⟩
        · have hfree : (w₁.refuse (req.Clashes w₁.volumes w₁.ports listed)).Stands word false false :=
            h₁.refuse fun hx => hclashes hx.2
          refine ⟨hfree.lawful, ?_⟩
          rw [onOk_ok, Action.always_pure]
          refine ⟨hfree.lawful, ?_⟩
          rw [Routine.onOk_ok, Routine.always_ite]
          refine ⟨fun hyes => absurd (hclash.mpr hyes) hclashes, fun _ => ?_⟩
          exact ⟨hfree.lawful, hl, false, hfree, by simp⟩

end Choice

/-! ## The job -/

/-- What the `try` block leaves: nothing was touched, and the job knows it; or nothing was
touched, after a refusal; or something was touched, or there was nothing to do. -/
def Attempted (word : Aggregate) (l : RestoreLocals) (w : Outage) : Prop :=
  (l.Failing false ∧ w.Stands word false false) ∨ (l.Failing true ∧ w.Stands word false true) ∨
    l.overwriteStarted = true ∧ ∃ hit, w.Stands word hit false ∧
      (hit = true ∨ l.payload.status = .success)

theorem Attempted.lawful {word : Aggregate} {l : RestoreLocals} {w : Outage}
    (h : Attempted word l w) : w.Lawful := by
  rcases h with ⟨_, h⟩ | ⟨_, h⟩ | ⟨_, _, h, _⟩
  · exact h.lawful
  · exact h.lawful
  · exact h.lawful

section Steps
variable (req : RestoreRequest) {word : Aggregate} {l : RestoreLocals} {w : Outage}

theorem attempted_serve {w' : Outage} {c : BackupCall} {r : Raises Answer JobError c}
    (hk : c.kind.Idle ∧ ¬ c.kind.Looks) (h : Attempted word l w)
    (hs : (stopping req).serve w c r w') : Attempted word l w' := by
  have hkept : ∀ {hit off : Bool}, w.Stands word hit off → w'.Stands word hit off :=
    fun h => h.drift (idle_drift hk.1 hs) (refused_serve hk.2 hs)
  rcases h with ⟨hl, h⟩ | ⟨hl, h⟩ | ⟨hl, hit, h, hdone⟩
  · exact .inl ⟨hl, hkept h⟩
  · exact .inr (.inl ⟨hl, hkept h⟩)
  · exact .inr (.inr ⟨hl, hit, hkept h, hdone⟩)

/-- Before the pointer. -/
def Outage.Fresh (word : Aggregate) (w : Outage) : Prop :=
  w.Stands word false false ∧ w.pointed = false

theorem fresh_serve {w' : Outage} {c : BackupCall} {r : Raises Answer JobError c}
    (hk : c.kind.Idle ∧ ∀ file content, c.kind ≠ .write file content) (h : w.Fresh word)
    (hs : (stopping req).serve w c r w') : w'.Fresh word := by
  refine ⟨idle_serve hk.1 h.1 (fun hx => ?_) hs, (pointed_serve hk.2 hs).trans h.2⟩
  rw [Outage.Preparing, h.2] at hx
  cases hx.1

theorem idle_restic {command : ResticCommand} (h : ∀ snap, command ≠ .restore snap) :
    (Kind.restic command).Idle :=
  ⟨fun hx => (by cases hx), fun snap hx => h snap (Kind.restic.inj hx), fun _ hx => (by cases hx)⟩

/-- Calls that only look, or run a harmless command, leave a fresh instance as it is. -/
theorem fresh_within {L α : Type} {m : Routine Answer JobError L α} {l : L}
    (hm : RWithin (fun k => k.Idle ∧ ∀ file content, k ≠ .write file content) m)
    (h : w.Fresh word) :
    m.Always (stopping req) (Outage.Fresh word) (fun _ _ _ => True) l w :=
  (hm.always (fun _ _ _ _ hk hI hs => fresh_serve req hk hI hs) h).mono fun _ _ _ _ _ => trivial

/-- **After the safety snapshot the pointer has been tried**, and nothing else is done. -/
theorem takeSafety_pointed {mounts : List Mount} (hl : l.Failing false) (h : w.Fresh word) :
    (req.takeSafety mounts).Always (stopping req) Outage.Lawful
      (fun r l' w' => l'.Failing false ∧ w'.Stands word false false ∧
        (r = .ok true → w'.pointed = true)) l w := by
  have hrun : RWithin (fun k => k.Idle ∧ ∀ file content, k ≠ .write file content)
      (runRestic req.settings (.backup (safetyTag req.instanceId)) mounts true :
        RestoreSteps Ended) := by
    refine lift_within (runRestic_within ⟨idle_restic fun _ hx => ?_, fun _ _ hx => ?_⟩)
    · cases hx
    · cases hx
  unfold RestoreRequest.takeSafety
  rw [Routine.always_bind]
  refine ((fresh_within req hrun h).returning (Routine.keeps_lift l hl)).imp
    (fun w hw => hw.1.lawful) fun r l₁ w₁ h₁ hr => ?_
  obtain ⟨hl₁, -⟩ := hr
  cases r with
  | error e => exact ⟨hl₁, h₁.1, fun hx => by cases hx⟩
  | ok ended =>
    rw [Routine.onOk_ok, Routine.always_ite]
    constructor
    · intro _
      rw [Routine.always_bind, Routine.always_assign]
      exact ⟨h₁.1.lawful, h₁.1.lawful, (failing_kept false).fail _ _ hl₁, h₁.1,
        fun hx => by cases hx⟩
    · intro _
      rw [Routine.always_bind, Routine.always_monadLift, Action.always_ofExcept]
      refine ⟨h₁.1.lawful, ?_⟩
      cases parseSummary ended.stdout with
      | error e => exact ⟨hl₁, h₁.1, fun hx => by cases hx⟩
      | ok summary =>
        have hl₂ : RestoreLocals.Failing false { l₁ with safetyId := summary.1 } :=
          (failing_kept false).safetyId _ _ hl₁
        rw [Routine.onOk_ok, Routine.always_bind, Routine.always_assign]
        refine ⟨h₁.1.lawful, ?_⟩
        rw [Routine.onOk_ok, Routine.always_bind, Routine.always_monadLift]
        unfold writeJson ignoringOSError
        rw [Action.always_tryExcept]
        refine ⟨h₁.1.lawful, fun r w₂ hs => ?_⟩
        -- the pointer is written once the snapshot is there
        have h₂ : w₂.Stands word false false ∧ w₂.pointed = true := by
          obtain rfl : w₂ = w₁.after req _ r := hs
          exact ⟨{ h₁.1 with }, rfl⟩
        refine ⟨h₂.1.lawful, ?_⟩
        cases r with
        | ok u => exact ⟨h₂.1.lawful, hl₂, h₂.1, fun _ => h₂.2⟩
        | error e =>
          dsimp only
          split
          · exact ⟨h₂.1.lawful, h₂.1.lawful, hl₂, h₂.1, fun _ => h₂.2⟩
          · exact ⟨h₂.1.lawful, hl₂, h₂.1, fun hx => by cases hx⟩

/-- **The overwrite touches the volumes**, unless there are none. -/
theorem overwriteData_touches {mounts : List Mount} {env : List (String × String)}
    (henv : resticEnv req.settings = .ok env) (hl : l.Failing true)
    (h : w.Stands word false false) :
    (req.overwriteData mounts).Always (stopping req) Outage.Lawful
      (fun r l' w' => l'.Failing true ∧
        ∃ hit, w'.Stands word hit false ∧ (hit = true ∨ r = .ok true)) l w := by
  have hleft : ∀ {r : Except JobError Bool} {l' : RestoreLocals} {w' : Outage}, l'.Failing true →
      w'.Stands word true false → l'.Failing true ∧
        ∃ hit, w'.Stands word hit false ∧ (hit = true ∨ r = .ok true) :=
    fun hl' hw' => ⟨hl', true, hw', .inl rfl⟩
  unfold RestoreRequest.overwriteData
  rw [Routine.always_ite]
  constructor
  · intro _
    exact ⟨h.lawful, hl, false, h, .inr rfl⟩
  · intro _
    unfold runRestic
    rw [henv, Routine.always_bind, Routine.always_monadLift, Action.always_bind]
    refine ⟨h.lawful, ?_⟩
    rw [onOk_ok, Action.always_bind]
    refine ⟨h.lawful, fun r w₁ hs => ?_⟩
    have h₁ : w₁.Stands word true false := by
      obtain rfl : w₁ = w.after req _ r := hs
      exact { h with touched := rfl, restarted := fun hx => by cases hx }
    refine ⟨h₁.lawful, ?_⟩
    cases r with
    | error e => exact hleft hl h₁
    | ok u =>
      refine ⟨h₁.lawful, fun r w₂ hs => ?_⟩
      have h₂ : w₂.Stands word true false := touched_serve (fun _ hx => by cases hx) h₁ hs
      refine ⟨h₂.lawful, ?_⟩
      cases r with
      | error e => exact hleft hl h₂
      | ok ended =>
        rw [Routine.onOk_ok, Routine.always_ite]
        constructor
        · intro _
          rw [Routine.always_bind, Routine.always_assign]
          exact ⟨h₂.lawful, h₂.lawful, hleft ((failing_kept true).failWithSafety _ _ hl) h₂⟩
        · intro _
          exact ⟨h₂.lawful, hleft hl h₂⟩

/-- The assignment that the overwrite has begun is never taken back. -/
theorem overwriting_kept :
    RestoreRequest.KeptByFailure fun l => l.overwriteStarted = true where
  fail _ _ h := h
  failWithSafety _ _ h := h
  safetyId _ _ h := h

theorem restoreDatabases_overwriting :
    req.restoreDatabases.Keeps fun l => l.overwriteStarted = true := by
  have hassign (f : RestoreLocals → RestoreLocals)
      (hf : ∀ l, (f l).overwriteStarted = l.overwriteStarted) :
      (Routine.assign f : RestoreSteps Unit).Keeps fun l => l.overwriteStarted = true :=
    Routine.keeps_assign fun l h => (hf l).trans h
  unfold RestoreRequest.restoreDatabases
  split
  · exact Routine.Keeps.bind (hassign _ fun _ => rfl) fun _ => Routine.keeps_pure _
  refine Routine.Keeps.bind (hassign _ fun _ => rfl) fun _ => ?_
  refine Routine.Keeps.bind Routine.keeps_lift fun _ => ?_
  refine (req.restoreDumps_keeps overwriting_kept _).bind fun done => ?_
  split
  · exact Routine.keeps_pure _
  · exact Routine.Keeps.bind Routine.keeps_lift fun _ =>
      Routine.Keeps.bind (hassign _ fun _ => rfl) fun _ => Routine.keeps_pure _

/-- **The database services are touched**, or the restore has succeeded without them. -/
theorem restoreDatabases_touches {hit : Bool} (hl : l.overwriteStarted = true)
    (h : w.Stands word hit false) :
    req.restoreDatabases.Always (stopping req) Outage.Lawful
      (fun _ l' w' => Attempted word l' w') l w := by
  -- Without databases the restore is over; with them the instance is touched from the start.
  by_cases hnone : req.artifacts.isEmpty
  · unfold RestoreRequest.restoreDatabases
    rw [if_pos hnone, Routine.always_bind, Routine.always_assign]
    exact ⟨h.lawful, h.lawful, .inr (.inr ⟨hl, hit, h, .inr rfl⟩)⟩
  · have hstands : req.restoreDatabases.Always (stopping req) Outage.Lawful
        (fun _ _ w' => w'.Stands word true false) l w := by
      unfold RestoreRequest.restoreDatabases
      rw [if_neg hnone, Routine.always_bind, Routine.always_assign]
      refine ⟨h.lawful, ?_⟩
      rw [Routine.onOk_ok, Routine.always_bind, Routine.always_monadLift]
      refine ⟨h.lawful, fun r w₁ hs => ?_⟩
      have h₁ : w₁.Stands word true false := by
        obtain rfl : w₁ = w.after req _ r := hs
        cases hservices : req.artifacts.map Prod.fst with
        | nil => simp [List.map_eq_nil_iff.mp hservices] at hnone
        | cons service rest =>
          exact { h with touched := rfl, restarted := fun hx => by cases hx }
      refine ⟨h₁.lawful, ?_⟩
      cases r with
      | error e => exact h₁
      | ok u =>
        have hrest : RWithin (fun k => ∀ result, k ≠ .post result) (do
            if !(← req.restoreDumps req.artifacts) then
              return false
            restart req.instanceId
            Routine.assign (RestoreLocals.succeed true)
            return true : RestoreSteps Bool) := by
          refine Routine.Uses.bind (req.restoreDumps_within (K := fun k => ∀ result, k ≠ .post result)
            ?_ ?_ ?_ _) fun done => ?_
          · exact fun _ hx => by cases hx
          · exact fun _ hx => by cases hx
          · exact fun _ _ _ hx => by cases hx
          split
          · exact Routine.uses_pure _
          have hup : Within (fun k => ∀ result, k ≠ .post result) (restart req.instanceId) :=
            call_within fun _ hx => by cases hx
          refine Routine.Uses.bind (lift_within hup) fun _ => ?_
          exact Routine.Uses.bind (Routine.uses_assign _) fun _ => Routine.uses_pure _
        exact (hrest.always (I := Outage.Stands word true false)
          (fun _ _ _ _ hk hI hs => touched_serve hk hI hs) h₁).imp
          (fun w hw => hw.lawful) fun _ _ _ hw _ => hw
    refine (hstands.returning (restoreDatabases_overwriting req l hl)).mono fun r l' w' _ hw => ?_
    exact .inr (.inr ⟨hw.1, true, hw.2, .inl rfl⟩)

/-- **The overwrite** is refused with nothing touched, or touches something. -/
theorem overwrite_attempted {mounts : List Mount} {env : List (String × String)}
    (henv : resticEnv req.settings = .ok env) (hl : l.Failing false)
    (h : w.Stands word false false) (hpointed : w.pointed = true) :
    (req.overwrite mounts).Always (stopping req) Outage.Lawful
      (fun _ l' w' => Attempted word l' w') l w := by
  unfold RestoreRequest.overwrite
  rw [Routine.always_bind, Routine.always_assign]
  refine ⟨h.lawful, ?_⟩
  have hl₀ : RestoreLocals.Failing true { l with overwriteStarted := true } := ⟨hl.1, rfl⟩
  rw [Routine.onOk_ok, Routine.always_bind]
  refine (dataMounts_chosen req hl₀ h hpointed).mono fun r l₁ w₁ _ hr => ?_
  obtain ⟨hl₁, off, h₁, hoff⟩ := hr
  -- Only mounts that were chosen leave the restore going on.
  have hrefused : (∀ ms, r ≠ .ok (some ms)) → Attempted word l₁ w₁ := by
    intro hnone
    cases off with
    | true => exact .inr (.inl ⟨hl₁, h₁⟩)
    | false =>
      obtain ⟨ms, hms⟩ := hoff.mpr rfl
      exact absurd hms (hnone ms)
  cases r with
  | error e => exact hrefused fun ms hx => by cases hx
  | ok chosen =>
    cases chosen with
    | none =>
      have hleft := hrefused fun ms hx => by cases hx
      exact ⟨hleft.lawful, hleft⟩
    | some ms =>
      obtain rfl : off = false := hoff.mp ⟨ms, rfl⟩
      rw [Routine.onOk_ok, Routine.always_bind]
      refine (overwriteData_touches req henv hl₁ h₁).mono fun r l₂ w₂ _ hr => ?_
      obtain ⟨hl₂, hit, h₂, hdone⟩ := hr
      have hleft : r ≠ .ok true → Attempted word l₂ w₂ := fun hr =>
        .inr (.inr ⟨hl₂.2, hit, h₂, .inl (hdone.resolve_right hr)⟩)
      cases r with
      | error e => exact hleft fun hx => by cases hx
      | ok done =>
        rw [Routine.onOk_ok, Routine.always_ite]
        constructor
        · intro hno
          have hleft' := hleft fun hx => by
            obtain rfl : done = true := Except.ok.inj hx
            cases hno
          exact ⟨hleft'.lawful, hleft'⟩
        · intro _
          rw [Routine.always_bind]
          refine (restoreDatabases_touches req hl₂.2 h₂).mono fun r l₃ w₃ _ hattempted => ?_
          cases r with
          | error e => exact hattempted
          | ok done =>
            rw [Routine.onOk_ok, Routine.always_ite]
            refine ⟨fun _ => ?_, fun _ => ⟨hattempted.lawful, hattempted⟩⟩
            rw [Routine.always_monadLift]
            -- the safety snapshot is forgotten after a success, which changes nothing more
            have hforget : Within (fun k => k.Idle ∧ ¬ k.Looks)
                (forget req.settings req.instanceId true) := by
              refine forget_within fun _ _ => ⟨idle_restic fun _ hx => ?_, fun hx => ?_⟩
              · cases hx
              · cases hx
            refine (hforget.always (I := Attempted word l₃) (fun w c r w' hk hI hs => ?_)
              hattempted).imp (fun w hw => hw.lawful) fun _ _ hw _ => hw
            exact attempted_serve req hk hI hs

/-- **The `try` block.** -/
theorem body_attempted {started : Bool} (hl : l.Failing false) (h : w.Fresh word) :
    (req.body started).Always (stopping req) Outage.Lawful
      (fun _ l' w' => Attempted word l' w') l w := by
  have hfresh : ∀ {α : Type} {m : RestoreSteps α} {l : RestoreLocals} {w : Outage},
      RWithin (fun k => k.Idle ∧ ∀ file content, k ≠ .write file content) m →
      m.Keeps (RestoreLocals.Failing false) → l.Failing false → w.Fresh word →
      m.Always (stopping req) (Outage.Fresh word) (fun _ l' _ => l'.Failing false ∧ True) l w := by
    intro α m l w hm hkeeps hl hw
    exact (fresh_within req hm hw).returning (hkeeps l hl)
  have hnothing : ∀ {l : RestoreLocals} {w : Outage}, l.Failing false → w.Fresh word →
      Attempted word l w := fun hl hw => .inl ⟨hl, hw.1⟩
  have hsilent : ∀ k : Kind, k.Looks ∨ k.Stops →
      k.Idle ∧ ∀ file content, k ≠ .write file content := by
    refine fun k hk => ⟨idle_of_looks hk, ?_⟩
    rintro file content rfl
    simp [Kind.Looks] at hk
  have hrestic : ∀ command : ResticCommand, (∀ snap, command ≠ .restore snap) →
      (Kind.restic command).Idle ∧ ∀ file content, Kind.restic command ≠ .write file content :=
    fun command hcommand => ⟨idle_restic hcommand, fun _ _ hx => by cases hx⟩
  -- Up to the safety snapshot nothing is written: whatever fails there has attempted nothing.
  unfold RestoreRequest.body
  rw [Routine.always_bind]
  refine (hfresh (req.quiesce_within (hsilent _ (.inl trivial)) (hsilent _ (.inr trivial)))
    (req.quiesce_keeps (failing_kept false)) hl h).imp (fun w hw => hw.1.lawful)
    fun r l₁ w₁ h₁ hr => ?_
  obtain ⟨hl₁, -⟩ := hr
  cases r with
  | error e => exact hnothing hl₁ h₁
  | ok rests =>
    rw [Routine.onOk_ok, Routine.always_ite]
    refine ⟨fun _ => ⟨h₁.1.lawful, hnothing hl₁ h₁⟩, fun _ => ?_⟩
    cases henv : resticEnv req.settings with
    | error e =>
      rw [Routine.always_bind, ensureRepo_of_env henv]
      exact ⟨h₁.1.lawful, hnothing hl₁ h₁⟩
    | ok env =>
      have hrepo : Within (fun k => k.Idle ∧ ∀ file content, k ≠ .write file content)
          (ensureRepo req.settings) := by
        refine ensureRepo_within (hrestic _ ?_) (hrestic _ ?_) (hrestic _ ?_)
        all_goals
          intro snap hx
          cases hx
      rw [Routine.always_bind]
      refine (hfresh (lift_within hrepo) Routine.keeps_lift hl₁ h₁).imp
        (fun w hw => hw.1.lawful) fun r l₂ w₂ h₂ hr => ?_
      obtain ⟨hl₂, -⟩ := hr
      cases r with
      | error e => exact hnothing hl₂ h₂
      | ok u =>
        rw [Routine.onOk_ok, Routine.always_ite]
        refine ⟨fun _ => ?_, fun _ => ?_⟩
        · rw [Routine.always_bind, Routine.always_assign]
          exact ⟨h₂.1.lawful, h₂.1.lawful, hnothing ((failing_kept false).fail _ _ hl₂) h₂⟩
        rw [Routine.always_bind]
        have hmounts : Within (fun k => k.Idle ∧ ∀ file content, k ≠ .write file content)
            (backupMounts req.settings req.instanceId) :=
          backupMounts_within (hsilent .look (.inl trivial)) (hsilent (.exists _) (.inl trivial))
        refine (hfresh (lift_within hmounts) Routine.keeps_lift hl₂ h₂).imp
          (fun w hw => hw.1.lawful) fun r l₃ w₃ h₃ hr => ?_
        obtain ⟨hl₃, -⟩ := hr
        cases r with
        | error e => exact hnothing hl₃ h₃
        | ok mounts =>
          rw [Routine.onOk_ok, Routine.always_bind]
          refine (takeSafety_pointed req hl₃ h₃).mono fun r l₄ w₄ _ hr => ?_
          obtain ⟨hl₄, h₄, hpointed⟩ := hr
          cases r with
          | error e => exact .inl ⟨hl₄, h₄⟩
          | ok done =>
            rw [Routine.onOk_ok, Routine.always_ite]
            refine ⟨fun hdone => ?_, fun _ => ⟨h₄.lawful, .inl ⟨hl₄, h₄⟩⟩⟩
            -- past it the volumes are overwritten
            exact overwrite_attempted req henv hl₄ h₄ (hpointed (congrArg Except.ok hdone))

theorem handler_attempted {e : JobError} (h : Attempted word l w) :
    (RestoreRequest.handler e).Always (stopping req) Outage.Lawful
      (fun _ l' w' => Attempted word l' w') l w := by
  have hnamed : ∀ l' : RestoreLocals, l'.payload.status = l.payload.status →
      l'.overwriteStarted = l.overwriteStarted → Attempted word l' w := by
    intro l' hstatus hover
    unfold Attempted RestoreLocals.Failing
    rw [hstatus, hover]
    exact h
  cases e <;> exact ⟨h.lawful, hnamed _ rfl rfl⟩

/-! ## The end of the job -/

/-- After the cleanup: if the result is no success, and the instance ran, then a start is
missing exactly where a refusal came between. -/
structure Cleaned (word : Aggregate) (l : RestoreLocals) (w : Outage) : Prop where
  entry : w.entry = some word
  lawful : w.Lawful
  owed : l.payload.status ≠ .success → word = .running →
    (w.refused = true ↔ w.touched = false ∧ w.restarted = false)

/-- **The result is posted lawfully**, and what comes with it changes nothing. -/
theorem cleaned_serve {w' : Outage} {c : BackupCall} {r : Raises Answer JobError c}
    (hk : c.kind = .handoff ∨ c.kind = .release ∨ c.kind = .token ∨
      c.kind = .post (.restore l.payload) ∨ c.kind = .unlink req.stateFile)
    (h : Cleaned word l w) (hs : (stopping req).serve w c r w') : Cleaned word l w' := by
  -- Of the calls of the cleanup only the callback leaves a trace.
  have hkept : (∀ result, c.kind ≠ .post result) → w' = w := by
    intro hpost
    obtain rfl : w' = w.after req c r := hs
    cases c with
    | post i result => exact absurd rfl (hpost result)
    | reserveHandoff i => rfl
    | releaseLock => rfl
    | resolveToken => rfl
    | unlink file => rfl
    | start child => cases child <;> simp [BackupCall.kind, Child.kind] at hk
    | await child => cases child <;> simp [BackupCall.kind, Child.kind] at hk
    | kill child => cases child <;> simp [BackupCall.kind, Child.kind] at hk
    | _ => simp [BackupCall.kind] at hk
  by_cases hpost : c.kind = .post (.restore l.payload)
  · obtain ⟨i, rfl⟩ : ∃ i, c = .post i (.restore l.payload) := by
      cases c with
      | post i result =>
        obtain rfl := Kind.post.inj hpost
        exact ⟨i, rfl⟩
      | start child => cases child <;> cases hpost
      | await child => cases child <;> cases hpost
      | kill child => cases child <;> cases hpost
      | _ => cases hpost
    obtain rfl : w' = w.after req _ r := hs
    refine ⟨h.entry, ?_, h.owed⟩
    have hlaw := h.lawful
    have howed := h.owed
    unfold Outage.Lawful at hlaw ⊢
    show (w.report l.payload).stranded = true ↔ (w.report l.payload).reported = true ∧
      w.entry = some .running ∧ w.refused = true
    -- a success is no outage, and a failure is one if the instance was to run
    by_cases hsuccess : l.payload.status = .success
    · simpa [Outage.report, hsuccess] using hlaw
    · have hentry : w.entry = some .running ↔ word = .running := by
        rw [h.entry]
        exact ⟨Option.some.inj, congrArg some⟩
      have hnow := howed hsuccess
      simp only [Outage.report, ne_eq, hsuccess, not_false_eq_true, true_and, decide_true,
        Bool.or_true, Bool.or_eq_true, decide_eq_true_eq, hlaw, hentry]
      constructor
      · rintro (⟨-, hword, hrefused⟩ | ⟨hword, hmissing⟩)
        · exact ⟨hword, hrefused⟩
        · exact ⟨hword, (hnow hword).mpr hmissing⟩
      · rintro ⟨hword, hrefused⟩
        exact .inr ⟨hword, (hnow hword).mp hrefused⟩
  · have heq : w' = w := hkept fun result hx => by
      rcases hk with hk | hk | hk | hk | hk
      · rw [hk] at hx
        cases hx
      · rw [hk] at hx
        cases hx
      · rw [hk] at hx
        cases hx
      · exact hpost hk
      · rw [hk] at hx
        cases hx
    rwa [heq]

/-- Nothing has been posted, and if a start is owed it is missing after a refusal only. -/
structure Ready (word : Aggregate) (l : RestoreLocals) (w : Outage) : Prop where
  entry : w.entry = some word
  reported : w.reported = false
  stranded : w.stranded = false
  settled : l.payload.status ≠ .success → word = .running →
    w.refused = true ∧ w.touched = false ∧ w.restarted = false ∨
      w.refused = false ∧ w.touched = true

theorem Ready.lawful (h : Ready word l w) : w.Lawful := by
  unfold Outage.Lawful
  simp [h.reported, h.stranded]

theorem Ready.cleaned (h : Ready word l w) : Cleaned word l w := by
  refine ⟨h.entry, h.lawful, fun hstatus hword => ?_⟩
  rcases h.settled hstatus hword with ⟨hrefused, htouched, hrestarted⟩ | ⟨hrefused, htouched⟩
  · simp [hrefused, htouched, hrestarted]
  · simp [hrefused, htouched]

theorem settled_serve {w' : Outage} {c : BackupCall} {r : Raises Answer JobError c}
    (hk : c.kind.Idle) (h : Ready word l w) (hs : (stopping req).serve w c r w') :
    Ready word l w' := by
  have hdrift := idle_drift hk hs
  refine ⟨hdrift.entry word h.entry, hdrift.reported.trans h.reported,
    hdrift.stranded.trans h.stranded, fun hstatus hword => ?_⟩
  rw [hdrift.touched, hdrift.restarted]
  rcases h.settled hstatus hword with ⟨hrefused, hrest⟩ | ⟨hrefused, htouched⟩
  · exact .inl ⟨(hdrift.refused (.inl hrefused)).trans hrefused, hrest⟩
  · refine .inr ⟨(hdrift.refused (.inr fun hx => ?_)).trans hrefused, htouched⟩
    rw [Outage.Preparing, htouched] at hx
    cases hx.2

/-- What the `try` block leaves is ready, unless the job restarts the instance. -/
theorem ready_of_attempted (h : Attempted word l w)
    (hno : l.Failing false → word ≠ .running) : Ready word l w := by
  have hready : ∀ {hit off : Bool}, w.Stands word hit off →
      (l.payload.status ≠ .success → word = .running → off = true ∧ hit = false ∨
        off = false ∧ hit = true) → Ready word l w := by
    intro hit off hw hcase
    refine ⟨hw.entry, hw.reported, hw.stranded, fun hstatus hword => ?_⟩
    rcases hcase hstatus hword with ⟨rfl, rfl⟩ | ⟨rfl, rfl⟩
    · exact .inl ⟨hw.refused, hw.touched, hw.restarted hw.touched⟩
    · exact .inr ⟨hw.refused, hw.touched⟩
  rcases h with ⟨hl, hw⟩ | ⟨_, hw⟩ | ⟨_, hit, hw, hdone⟩
  · exact hready hw fun _ hword => absurd hword (hno hl)
  · exact hready hw fun _ _ => .inl ⟨rfl, rfl⟩
  · refine hready hw fun hstatus _ => ?_
    exact .inr ⟨rfl, hdone.resolve_right hstatus⟩

/-- **The cleanup** restarts an instance that nothing has touched. -/
theorem cleanup_restarts (h : Attempted word l w) :
    (req.cleanup (word == .running)).Always (stopping req) Outage.Lawful
      (fun _ l' w' => l' = l ∧ Cleaned word l w') l w := by
  have hwrite : ∀ w : Outage, Cleaned word l w →
      (writeJson req.stateFile (.state l.payload) : RestoreSteps Unit).Always (stopping req)
        Outage.Lawful (fun _ l' w' => l' = l ∧ Cleaned word l w') l w := by
    intro w hw
    have hkind : Within (· = .write req.stateFile (.state l.payload))
        (writeJson req.stateFile (.state l.payload)) := writeJson_within rfl
    rw [Routine.always_monadLift]
    refine (hkind.always (I := Cleaned word l) (fun w c r w' hk hI hs => ?_) hw).imp
      (fun w hw => hw.lawful) fun _ _ _ hw => ⟨rfl, hw⟩
    have hidle : c.kind.Idle := by
      rw [hk]
      refine ⟨fun hx => ?_, fun _ hx => ?_, fun _ hx => ?_⟩
      all_goals cases hx
    have hdrift := idle_drift hidle hs
    have hrefused : w'.refused = w.refused := refused_serve (by rw [hk]; intro hx; cases hx) hs
    refine ⟨hdrift.entry word hI.entry, ?_, ?_⟩
    · have hlaw := hI.lawful
      unfold Outage.Lawful at hlaw ⊢
      rw [hdrift.stranded, hdrift.reported, hdrift.entry word hI.entry, hrefused, hlaw, hI.entry]
    · rw [hdrift.touched, hdrift.restarted, hrefused]
      exact hI.owed
  unfold RestoreRequest.cleanup
  rw [Routine.always_bind, Routine.always_locals]
  refine ⟨h.lawful, ?_⟩
  rw [Routine.onOk_ok, Routine.always_ite]
  constructor
  · -- nothing was touched: the restart is issued, whatever becomes of it
    intro hguard
    simp only [Bool.and_eq_true, beq_iff_eq, Bool.not_eq_true', bne_iff_ne, ne_eq] at hguard
    obtain ⟨⟨hword, hover⟩, hstatus⟩ := hguard
    have hw : w.Stands word false false := by
      rcases h with ⟨_, hw⟩ | ⟨hl, _⟩ | ⟨hl, _⟩
      · exact hw
      · rw [hl.2] at hover
        cases hover
      · rw [hl] at hover
        cases hover
    rw [Routine.always_bind, Routine.always_monadLift, Action.always_outcome]
    refine ⟨hw.lawful, fun r w₁ hs => ?_⟩
    obtain rfl : w₁ = { w with restarted := true } := hs
    have hcleaned : Cleaned word l { w with restarted := true } := by
      refine ⟨hw.entry, ?_, fun _ _ => ?_⟩
      · unfold Outage.Lawful
        simp [hw.stranded, hw.reported]
      · simp [hw.refused]
    exact ⟨hcleaned.lawful, hwrite _ hcleaned⟩
  · intro hguard
    have hready : Ready word l w := by
      refine ready_of_attempted h fun hl hword => hguard ?_
      simp [hword, hl.1, hl.2]
    rw [Routine.always_ite]
    constructor
    · intro _
      have hteardown : Within Kind.Idle req.teardown :=
        req.teardown_within (idle_of_looks (.inl trivial)) (idle_of_looks (.inr trivial))
          (by simp [Kind.Idle])
      rw [Routine.always_bind, Routine.always_monadLift, Action.always_outcome]
      exact (hteardown.always (I := Ready word l)
        (fun _ _ _ _ hk hI hs => settled_serve req hk hI hs) hready).imp
        (fun w hw => hw.lawful) fun _ w hw _ => hwrite w hw.cleaned
    · intro _
      exact hwrite w hready.cleaned

theorem finally_lawful {release : Bool} (h : Attempted word l w) :
    (do req.cleanup (word == .running); req.report release : RestoreSteps Unit).Always
      (stopping req) Outage.Lawful (fun _ _ _ => True) l w := by
  rw [Routine.always_bind]
  refine (cleanup_restarts req h).mono fun r l₁ w₁ _ hr => ?_
  obtain ⟨rfl, hcleaned⟩ := hr
  cases r with
  | error e => trivial
  | ok u =>
    have huses : (req.report release l₁).Uses fun c => c.kind = .handoff ∨ c.kind = .release ∨
        c.kind = .token ∨ c.kind = .post (.restore l₁.payload) ∨
        c.kind = .unlink req.stateFile :=
      req.report_uses (K := fun k => k = .handoff ∨ k = .release ∨ k = .token ∨
        k = .post (.restore l₁.payload) ∨ k = .unlink req.stateFile) l₁ (.inl rfl)
        (.inr (.inl rfl)) (.inr (.inr (.inl rfl))) (.inr (.inr (.inr (.inl rfl))))
        (.inr (.inr (.inr (.inr rfl))))
    exact (huses.always (I := Cleaned word l₁)
      (fun _ _ _ _ hk hI hs => cleaned_serve req hk hI hs) hcleaned).imp
      (fun w hw => hw.lawful) fun _ _ _ _ => trivial

end Steps

section Restore
variable (settings : Settings) (instanceId resticSnapshotId restoreId : String)
  (destination : Option Destination) (manifest volumeClasses : Option (List (String × String)))
  (releaseLock : Bool) (l : RestoreLocals)

/-- **The whole job**, in any environment. -/
theorem restoreInstance_lawful :
    (restoreInstance settings instanceId resticSnapshotId restoreId destination manifest
      volumeClasses releaseLock).Always
      (stopping (restoreRequest settings instanceId resticSnapshotId restoreId destination manifest
        volumeClasses)) Outage.Lawful (fun _ _ _ => True) l {} := by
  have hempty : ({} : Outage).Lawful := by
    unfold Outage.Lawful
    simp
  unfold restoreInstance getStatus
  rw [Routine.always_bind, Routine.always_assign]
  refine ⟨hempty, ?_⟩
  rw [Routine.onOk_ok, Routine.always_bind, Routine.always_monadLift, Action.always_bind]
  refine ⟨hempty, fun r w₁ hs => ?_⟩
  obtain rfl : w₁ = Outage.after _ {} _ r := hs
  cases r with
  | error e => exact ⟨hempty, trivial⟩
  | ok listed =>
    have hfresh : Outage.Fresh (Docker.getStatus listed).status
        { entry := some (Docker.getStatus listed).status } :=
      ⟨⟨rfl, rfl, rfl, fun _ => rfl, rfl, rfl⟩, rfl⟩
    refine ⟨hfresh.1.lawful, hfresh.1.lawful, ?_⟩
    dsimp only [Routine.onOk]
    rw [Routine.always_tryFinally, Routine.always_tryExcept]
    have hfailing : RestoreLocals.Failing false { payload :=
        { restoreId := restoreId, status := .failed, errorCode := some .restoreFailed } } := by
      refine ⟨?_, rfl⟩
      simp
    refine (body_attempted _ hfailing hfresh).mono fun r l₂ w₂ _ hattempted => ?_
    cases r with
    | error e =>
      refine (handler_attempted _ hattempted).mono fun r l₃ w₃ _ hattempted' => ?_
      refine (finally_lawful _ hattempted').mono fun r' l₄ w₄ _ _ => ?_
      cases r' <;> trivial
    | ok u =>
      refine (finally_lawful _ hattempted).mono fun r' l₄ w₄ _ _ => ?_
      cases r' <;> trivial

/-- **A restore that touched nothing puts the service back, unless it refused what it was
about to overwrite.**  At every point of every run: a failure has been reported on an
instance that ran at entry, with nothing touched and no start issued, exactly if after the
pointer was written, and before anything was touched, a volume had no class, a database
container mounted what was to be overwritten, or one of the looks that tell failed. -/
theorem restart_before_result {w' : Outage}
    {q : Prog (Raises Answer JobError) (Except JobError Unit × RestoreLocals)}
    (run : Run (stopping (restoreRequest settings instanceId resticSnapshotId restoreId destination
        manifest volumeClasses)) {}
      (restoreInstance settings instanceId resticSnapshotId restoreId destination manifest
        volumeClasses releaseLock l) w' q) :
    w'.stranded = false ↔
      (w'.reported = true → w'.entry = some .running → w'.refused = false) := by
  have hlaw : w'.Lawful := (Prog.always_iff_runs.mp (restoreInstance_lawful settings instanceId
    resticSnapshotId restoreId destination manifest volumeClasses releaseLock l) w' q run).1
  unfold Outage.Lawful at hlaw
  rw [← Bool.not_eq_true, hlaw]
  simp

end Restore

/-- An instance that runs until it is stopped, with a volume `i_cache`; every command ends
with `code`. -/
def obeying (req : RestoreRequest) (code : Int) (w : Outage) (c : BackupCall) :
    Raises Answer JobError c × Outage :=
  let answer : Raises Answer JobError c :=
    match c with
    | .listContainers _ => .ok (if w.entry.isNone then [liveWeb] else [crashedWorker])
    | .listVolumes _ => .ok ["i_cache"]
    | .await _ => .ok { returncode := code }
    | c => c.eventless
  (answer, w.after req c answer)

theorem stopping_obeying (req : RestoreRequest) (code : Int) (w : Outage) (c : BackupCall) :
    (stopping req).serve w c (obeying req code w c).1 (obeying req code w c).2 := rfl

/-- A repository that cannot be opened: the instance is started again. -/
theorem restart_before_result_unopened : ∃ w' r,
    Run (stopping oneDatabase) {} restoreOneDatabase w' (.pure r) ∧ w'.reported = true ∧
      w'.entry = some .running ∧ w'.restarted = true ∧ w'.stranded = false := by
  refine ⟨_, _, Prog.run_evalFor (h := obeying oneDatabase 1) (stopping_obeying _ _) 40 _ _,
    by rfl, by rfl, by rfl, ?_⟩
  refine (restart_before_result ownRepository "i" "snap" "r" none (some [("db:db", "dump")])
    (some [("i_pg", "db-service")]) true { payload := { restoreId := "r", status := .failed } }
    (Prog.run_evalFor (h := obeying oneDatabase 1) (stopping_obeying _ _) 40 _ _)).mpr ?_
  intro _ _
  rfl

/-- **A volume without a class strands the instance**: it was running, nothing has been
touched, and nothing starts it. -/
theorem unclassed_volume_strands : ∃ w' r,
    Run (stopping oneDatabase) {} restoreOneDatabase w' (.pure r) ∧ w'.entry = some .running ∧
      w'.touched = false ∧ w'.restarted = false ∧ w'.reported = true ∧ w'.stranded = true :=
  ⟨_, _, Prog.run_evalFor (h := obeying oneDatabase 0) (stopping_obeying _ _) 40 _ _,
    by rfl, by rfl, by rfl, by rfl, by rfl⟩

end Greffer.Backup

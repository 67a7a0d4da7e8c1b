import Greffer.Backup.RestorePointer

/-! # The manifest of a hot backup

Three views are reconciled before anything is captured: the manager's class map, the
daemon's volumes, and the dump hooks of the running containers.  A hot backup that
reports success has then taken every step it needed and seen each of them succeed:
what it returns is followed from call to call by `Capture`, and **the manifest is
complete** (`Complete`) — with one exception.  The volumes are listed without those
whose name ends in `_nginx_volume`, which is meant for the sidecar's own volume but
takes any volume of that ending with it: such a volume is neither asked for its class
nor captured (`hot_manifest_complete`).
-/
namespace Greffer.Backup
open Effects Docker

/-- The daemon of a hot backup: all its volumes, the instance's containers, and how
`shlex` splits a command line. -/
structure Host where
  volumes : List String
  containers : List Container
  split : String → List String

/-- What the children have left behind, and whether any call raised. -/
structure Capture where
  /-- The `restic init` runs that ended. -/
  inits : List Ended := []
  /-- The `restic backup /data` runs that ended, with their mounts. -/
  snapshots : List (List Mount × Ended) := []
  /-- The dump commands that ended: their container, their command line. -/
  dumps : List (String × List String × Ended) := []
  /-- The `restic backup --stdin` runs that ended. -/
  streams : List (String × Ended) := []
  raised : Bool := false

/-- What a call adds. -/
def Capture.after (w : Capture) : (c : BackupCall) → Raises Answer JobError c → Capture
  | .await (.restic ⟨_, .init, _, _⟩), .ok ended => { w with inits := w.inits ++ [ended] }
  | .await (.restic ⟨_, .backup _, mounts, _⟩), .ok ended =>
    { w with snapshots := w.snapshots ++ [(mounts, ended)] }
  | .await (.restic ⟨_, .backupStdin filename _, _, _⟩), .ok ended =>
    { w with streams := w.streams ++ [(filename, ended)] }
  | .await (.dockerExec containerId argv _), .ok ended =>
    { w with dumps := w.dumps ++ [(containerId, argv, ended)] }
  | _, .ok _ => w
  | _, .error _ => { w with raised := true }

/-- The commands that store a snapshot. -/
def ResticCommand.stores : ResticCommand → Bool
  | .backup _ | .backupStdin _ _ => true
  | _ => false

namespace Host
variable (host : Host) (instanceId : String) (volumeClasses : List (String × String))

/-- What the daemon answers.  Its name filter looks for a substring, so it keeps every
volume whose name begins with it; and a restic that exits 0 has named its snapshot. -/
def Answers : (c : BackupCall) → Raises Answer JobError c → Prop
  | .listVolumes nameFilter, .ok vols =>
    ∀ v, startsWith v (nameFilter ++ "_") = true → (v ∈ vols ↔ v ∈ host.volumes)
  | .listInstanceContainers _, .ok listed => listed = host.containers
  | .shlexSplit command, .ok words => words = host.split command
  | .await (.restic run), .ok ended => run.command.stores = true → ended.returncode = 0 →
    ∀ summary, parseSummary ended.stdout = .ok summary → summary.1 ≠ ""
  | _, _ => True

/-- The environment of a hot backup; any other call is answered in any way. -/
def capturing : Machine (Raises Answer JobError) Capture where
  serve w c r w' := host.Answers c r ∧ w' = w.after c r

/-- A volume of the instance, other than its sidecar's. -/
def Volume (v : String) : Prop :=
  v ∈ host.volumes ∧ startsWith v (instanceId ++ "_") = true ∧ v ≠ instanceId ++ nginxVolumeSuffix

/-- One that the engine lists. -/
def Listed (v : String) : Prop :=
  v ∈ host.volumes ∧ startsWith v (instanceId ++ "_") = true ∧ endsWith v nginxVolumeSuffix = false

/-- The hook a container declares, if it runs. -/
def hookOf (c : Container) : Option Hook :=
  match c.isRunning, present (c.label "com.greffon.backup.dump") with
  | true, some command => some ⟨c.serviceName, c.id, ["timeout", "3600"] ++ host.split command⟩
  | _, _ => none

/-- The hooks of the running containers. -/
def hooks : List Hook := host.containers.filterMap host.hookOf

end Host

/-- The classes the manager knows. -/
def Classified (cls : Option String) : Prop :=
  cls = some "data" ∨ cls = some "regenerable" ∨ cls = some "database"

/-- The dump of a hook succeeded: both ends of the pipe, with something in it. -/
def Dumped (instanceId : String) (hook : Hook) (w : Capture) (id : String) : Prop :=
  ∃ produced consumed bytes,
    w.dumps = [(hook.containerId, hook.argv, produced)] ∧
    w.streams = [(instanceId ++ "/" ++ hook.service ++ ".dump", consumed)] ∧
    produced.returncode = 0 ∧ consumed.returncode = 0 ∧
    parseSummary consumed.stdout = .ok (id, some bytes) ∧ bytes ≠ 0 ∧ id ≠ ""

/-- The artifacts of the manifest that are not the data snapshot. -/
def otherArtifacts (manifest : List (String × String)) : List (String × String) :=
  manifest.filter fun e => e.1 != "data"

/-- **The manifest is complete.** -/
structure Complete (host : Host) (instanceId : String) (volumeClasses : List (String × String))
    (w : Capture) (manifest : List (String × String)) : Prop where
  /-- Every volume of the instance is classified, -/
  classified : ∀ v, host.Volume instanceId v → Classified (volumeClass instanceId volumeClasses v)
  /-- there is a data snapshot just if there is a data volume, -/
  data : (∃ id, ("data", id) ∈ manifest) ↔
    ∃ v, host.Volume instanceId v ∧ volumeClass instanceId volumeClasses v = some "data"
  /-- it is the one snapshot taken, and every data volume is mounted in it, -/
  snapshot : ∀ id, ("data", id) ∈ manifest → ∃ mounts ended added,
    w.snapshots = [(mounts, ended)] ∧ ended.returncode = 0 ∧
    parseSummary ended.stdout = .ok (id, added) ∧ id ≠ "" ∧
    ∀ v, host.Volume instanceId v → volumeClass instanceId volumeClasses v = some "data" →
      volumeMount v ∈ mounts
  /-- a database is dumped by the one hook there is, -/
  dump : databaseVolumes volumeClasses ≠ [] → ∃ hook id, host.hooks = [hook] ∧
    otherArtifacts manifest = [("db:" ++ hook.service, id)] ∧ Dumped instanceId hook w id
  /-- and nothing else is recorded. -/
  nothingElse : databaseVolumes volumeClasses = [] → otherArtifacts manifest = []

/-- A step failed. -/
def Capture.Failed (w : Capture) : Prop :=
  w.raised = true ∨ (∃ ended ∈ w.inits, ended.returncode ≠ 0) ∨
    (∃ s ∈ w.snapshots, s.2.returncode ≠ 0) ∨ (∃ d ∈ w.dumps, d.2.2.returncode ≠ 0) ∨
    ∃ s ∈ w.streams, s.2.returncode ≠ 0 ∨
      ∀ id bytes, parseSummary s.2.stdout = .ok (id, some bytes) → bytes = 0

/-! ## What each part yields -/

section Parts
variable {host : Host} {settings : Settings} {instanceId : String}
  {volumeClasses : List (String × String)} {w : Capture}

theorem dataVolumes_yields : (dataVolumes instanceId).Yields host.capturing
    (fun vols w' => w' = w ∧ ∀ v, v ∈ vols ↔ host.Listed instanceId v) w := by
  refine Action.Yields.bind (P := fun vols w' => w' = w ∧ ∀ v,
    startsWith v (instanceId ++ "_") = true → (v ∈ vols ↔ v ∈ host.volumes)) ?_ ?_
  · refine Action.yields_perform ?_
    rintro vols w' ⟨hlists, rfl⟩
    exact ⟨rfl, hlists⟩
  · rintro vols w' ⟨rfl, hlists⟩
    refine Action.yields_pure ⟨rfl, fun v => ?_⟩
    rw [List.mem_insertionSort, List.mem_filter, Bool.and_eq_true, Bool.not_eq_true']
    constructor
    · rintro ⟨hv, hpre, hsuf⟩
      exact ⟨(hlists v hpre).mp hv, hpre, hsuf⟩
    · rintro ⟨hv, hpre, hsuf⟩
      exact ⟨(hlists v hpre).mpr hv, hpre, hsuf⟩

theorem withL4Ports_yields (mounts : List Mount) :
    (withL4Ports settings instanceId mounts).Yields host.capturing (fun mounts' w' => w' = w ∧
      ∃ extra, mounts' = mounts ++ extra ∧ ∀ m ∈ extra, m.2 = "/data/_l4_ports.json") w := by
  refine Action.Yields.bind (P := fun _ w' => w' = w) ?_ ?_
  · refine Action.yields_perform ?_
    rintro b w' ⟨-, rfl⟩
    rfl
  · rintro found w' rfl
    cases found with
    | true =>
      refine Action.yields_pure ⟨rfl, _, rfl, ?_⟩
      rintro m hm
      rw [List.mem_singleton.mp hm]
    | false =>
      refine Action.yields_pure ⟨rfl, [], (List.append_nil _).symm, ?_⟩
      rintro m hm
      cases hm

/-- **The loop of `_hot_backup_mounts`**: every volume is classified, and the mounts are
those of the data class. -/
theorem hotMounts_ok {vols : List String} {ms : List Mount}
    (h : hotMounts instanceId volumeClasses vols = .ok ms) :
    (∀ v ∈ vols, Classified (volumeClass instanceId volumeClasses v)) ∧
      ∀ m, m ∈ ms ↔ ∃ v ∈ vols, volumeClass instanceId volumeClasses v = some "data" ∧
        m = volumeMount v := by
  induction vols generalizing ms with
  | nil =>
    cases h
    simp
  | cons vol rest ih =>
    unfold hotMounts at h
    split at h
    next hdata =>
      cases hrest : hotMounts instanceId volumeClasses rest with
      | error e =>
        rw [hrest] at h
        cases h
      | ok ms' =>
        rw [hrest] at h
        cases h
        obtain ⟨hclass, hmem⟩ := ih hrest
        refine ⟨List.forall_mem_cons.mpr ⟨.inl hdata, hclass⟩, fun m => ?_⟩
        rw [List.mem_cons, hmem]
        simp [hdata]
    next hregen =>
      obtain ⟨hclass, hmem⟩ := ih h
      refine ⟨List.forall_mem_cons.mpr ⟨.inr (.inl hregen), hclass⟩, fun m => ?_⟩
      rw [hmem]
      simp [hregen]
    next hdb =>
      obtain ⟨hclass, hmem⟩ := ih h
      refine ⟨List.forall_mem_cons.mpr ⟨.inr (.inr hdb), hclass⟩, fun m => ?_⟩
      rw [hmem]
      simp [hdb]
    next => cases h

/-- What `_hot_backup_mounts` returns. -/
structure HotMounts (host : Host) (instanceId : String) (volumeClasses : List (String × String))
    (mounts : List Mount) : Prop where
  classified : ∀ v, host.Listed instanceId v →
    Classified (volumeClass instanceId volumeClasses v)
  mounted : ∀ v, host.Listed instanceId v →
    volumeClass instanceId volumeClasses v = some "data" → volumeMount v ∈ mounts
  nonempty : mounts ≠ [] →
    ∃ v, host.Listed instanceId v ∧ volumeClass instanceId volumeClasses v = some "data"
  listed : ∀ v, endsWith v nginxVolumeSuffix = true → volumeMount v ∉ mounts

theorem hotBackupMounts_yields : (hotBackupMounts settings instanceId volumeClasses).Yields
    host.capturing (fun mounts w' => w' = w ∧ HotMounts host instanceId volumeClasses mounts) w := by
  refine dataVolumes_yields.bind ?_
  rintro vols w' ⟨rfl, hvols⟩
  refine (Action.yields_ofExcept (P := fun ms w'' => w'' = w' ∧
    hotMounts instanceId volumeClasses vols = .ok ms) fun ms h => ⟨rfl, h⟩).bind ?_
  rintro ms w'' ⟨rfl, hms⟩
  obtain ⟨hclass, hmem⟩ := hotMounts_ok hms
  have hclassified (v : String) (hv : host.Listed instanceId v) :=
    hclass v ((hvols v).mpr hv)
  have hdata (v : String) (hv : host.Listed instanceId v)
      (hd : volumeClass instanceId volumeClasses v = some "data") : volumeMount v ∈ ms :=
    (hmem _).mpr ⟨v, (hvols v).mpr hv, hd, rfl⟩
  have hlisted (v : String) (hsuf : endsWith v nginxVolumeSuffix = true) :
      volumeMount v ∉ ms := by
    intro hv
    obtain ⟨u, hu, -, heq⟩ := (hmem _).mp hv
    obtain rfl : v = u := (Prod.mk.inj heq).1
    rw [((hvols v).mp hu).2.2] at hsuf
    cases hsuf
  refine Action.yields_ite (fun hempty => ?_) fun hnonempty => ?_
  · obtain rfl := List.isEmpty_iff.mp hempty
    exact Action.yields_pure ⟨rfl, hclassified, hdata, fun h => absurd rfl h, hlisted⟩
  · refine (withL4Ports_yields ms).mono ?_
    rintro mounts w₃ ⟨rfl, extra, rfl, hextra⟩
    refine ⟨rfl, hclassified, fun v hv hd => List.mem_append_left _ (hdata v hv hd), ?_, ?_⟩
    · rintro -
      cases ms with
      | nil => exact absurd rfl hnonempty
      | cons m ms =>
        obtain ⟨v, hv, hd, -⟩ := (hmem m).mp List.mem_cons_self
        exact ⟨v, (hvols v).mp hv, hd⟩
    · intro v hsuf hv
      rcases List.mem_append.mp hv with hv | hv
      · exact hlisted v hsuf hv
      · have hpath : "/data/" ++ v = "/data/" ++ "_l4_ports.json" := hextra _ hv
        obtain rfl := (String.append_right_inj _).mp hpath
        revert hsuf
        decide

theorem hookArgv_yields (command : String) : (hookArgv command).Yields host.capturing
    (fun argv w' => w' = w ∧ argv = ["timeout", "3600"] ++ host.split command) w := by
  refine Action.Yields.bind (P := fun words w' => w' = w ∧ words = host.split command) ?_ ?_
  · refine Action.yields_perform ?_
    rintro words w' ⟨hsplit, rfl⟩
    exact ⟨rfl, hsplit⟩
  · rintro words w' ⟨rfl, rfl⟩
    exact Action.yields_pure ⟨rfl, rfl⟩

theorem dumpHooksOf_yields (cs : List Container) : (dumpHooksOf cs).Yields host.capturing
    (fun hooks w' => w' = w ∧ hooks = cs.filterMap host.hookOf) w := by
  induction cs with
  | nil => exact Action.yields_pure ⟨rfl, rfl⟩
  | cons c rest ih =>
    have hskip (hnone : host.hookOf c = none) (hrest : dumpHooksOf (c :: rest) = dumpHooksOf rest) :
        (dumpHooksOf (c :: rest)).Yields host.capturing
          (fun hooks w' => w' = w ∧ hooks = (c :: rest).filterMap host.hookOf) w := by
      rw [hrest, List.filterMap_cons, hnone]
      exact ih
    cases hrun : c.isRunning with
    | false =>
      refine hskip (by simp [Host.hookOf, hrun]) ?_
      rw [dumpHooksOf, hrun]
    | true =>
      cases hlabel : present (c.label "com.greffon.backup.dump") with
      | none =>
        refine hskip (by simp [Host.hookOf, hrun, hlabel]) ?_
        rw [dumpHooksOf, hrun, hlabel]
      | some command =>
        have hhook : host.hookOf c =
            some ⟨c.serviceName, c.id, ["timeout", "3600"] ++ host.split command⟩ := by
          simp [Host.hookOf, hrun, hlabel]
        rw [List.filterMap_cons, hhook, dumpHooksOf, hrun, hlabel]
        refine (hookArgv_yields command).bind ?_
        rintro argv w' ⟨rfl, rfl⟩
        refine ih.bind ?_
        rintro hooks w'' ⟨rfl, rfl⟩
        exact Action.yields_pure ⟨rfl, rfl⟩

/-- **One database, one hook**, or a refusal. -/
theorem hotHooks_yields : (hotHooks instanceId volumeClasses).Yields host.capturing
    (fun hooks w' => w' = w ∧ ((databaseVolumes volumeClasses = [] ∧ hooks = []) ∨
      databaseVolumes volumeClasses ≠ [] ∧ ∃ hook, host.hooks = [hook] ∧ hooks = [hook])) w := by
  unfold hotHooks
  refine Action.yields_ite (fun hempty => ?_) fun hnonempty => ?_
  · exact Action.yields_pure ⟨rfl, .inl ⟨List.isEmpty_iff.mp hempty, rfl⟩⟩
  · refine Action.Yields.bind (P := fun hooks w' => w' = w ∧ hooks = host.hooks) ?_ ?_
    · refine Action.Yields.bind (P := fun listed w' => w' = w ∧ listed = host.containers) ?_ ?_
      · refine Action.yields_perform ?_
        rintro listed w' ⟨hlisted, rfl⟩
        exact ⟨rfl, hlisted⟩
      · rintro listed w' ⟨rfl, rfl⟩
        exact dumpHooksOf_yields _
    · rintro hooks w' ⟨rfl, rfl⟩
      refine Action.yields_ite (fun _ => Action.yields_raise _) fun hfew => ?_
      refine Action.yields_ite (fun _ => Action.yields_raise _) fun hsome => ?_
      refine Action.yields_pure ⟨rfl, .inr ⟨fun h => hnonempty (List.isEmpty_iff.mpr h), ?_⟩⟩
      cases hhooks : host.hooks with
      | nil => exact absurd (List.isEmpty_iff.mpr hhooks) hsome
      | cons hook rest =>
        cases rest with
        | nil => exact ⟨hook, rfl, rfl⟩
        | cons hook' rest =>
          rw [hhooks] at hfew
          simp at hfew

theorem runRestic_yields (command : ResticCommand) (mounts : List Mount) (readOnly : Bool) :
    (runRestic settings command mounts readOnly).Yields host.capturing (fun ended w' =>
      (∃ env, w' = w.after (.await (.restic ⟨env, command, mounts, readOnly⟩)) (.ok ended)) ∧
      (command.stores = true → ended.returncode = 0 →
        ∀ summary, parseSummary ended.stdout = .ok summary → summary.1 ≠ "")) w := by
  refine (Action.yields_ofExcept (P := fun _ w' => w' = w) fun _ _ => rfl).bind ?_
  rintro env w' rfl
  refine (Action.yields_perform (P := fun _ w'' => w'' = w') ?_).bind ?_
  · rintro - w'' ⟨-, rfl⟩
    rfl
  · rintro - w'' rfl
    refine Action.yields_perform ?_
    rintro ended w₃ ⟨hnamed, rfl⟩
    exact ⟨⟨env, rfl⟩, hnamed⟩

/-- **A repository that is ensured**: what initialised it has exited 0. -/
theorem ensureRepo_yields : (ensureRepo settings).Yields host.capturing (fun _ w' =>
    ∃ inits, w' = { w with inits := w.inits ++ inits } ∧
      ∀ ended ∈ inits, ended.returncode = 0) w := by
  unfold ensureRepo
  refine (runRestic_yields .catConfig _ _).bind ?_
  rintro config w' ⟨⟨-, rfl⟩, -⟩
  have hunlock (w : Capture) : (do let _ ← runRestic settings .unlock [] true : Job Unit).Yields
      host.capturing (fun _ w' => w' = w) w := by
    refine (runRestic_yields .unlock _ _).bind ?_
    rintro - w' ⟨⟨-, rfl⟩, -⟩
    exact Action.yields_pure rfl
  refine Action.yields_ite (fun _ => ?_) fun _ => ?_
  · refine (runRestic_yields .init _ _).bind ?_
    rintro initialised w'' ⟨⟨-, rfl⟩, -⟩
    refine Action.yields_ite (fun _ => ?_) fun hrc => ?_
    · exact (Action.yields_raise (P := fun _ _ => False) _).bind fun _ _ h => h.elim
    · refine (hunlock _).mono fun _ w₃ h => ⟨[initialised], h, fun ended hended => ?_⟩
      obtain rfl := List.mem_singleton.mp hended
      exact not_not.mp hrc
  · refine (hunlock _).mono fun _ w₃ h => ⟨[], ?_, fun _ h => absurd h List.not_mem_nil⟩
    rw [h, List.append_nil]

/-- **The data snapshot**, if there is anything to mount. -/
theorem hotData_yields (mounts : List Mount) :
    (hotData settings instanceId mounts).Yields host.capturing (fun r w' =>
      (mounts = [] ∧ r.1 = [] ∧ w' = w) ∨
      mounts ≠ [] ∧ ∃ ended id added, r.1 = [("data", id)] ∧
        w' = { w with snapshots := w.snapshots ++ [(mounts, ended)] } ∧ ended.returncode = 0 ∧
        parseSummary ended.stdout = .ok (id, added) ∧ id ≠ "") w := by
  unfold hotData
  refine Action.yields_ite (fun hempty => ?_) fun hnonempty => ?_
  · exact Action.yields_pure (.inl ⟨List.isEmpty_iff.mp hempty, rfl, rfl⟩)
  have hmounts : mounts ≠ [] := fun h => hnonempty (List.isEmpty_iff.mpr h)
  refine Action.Yields.bind (P := fun r w' => ∃ ended,
    w' = { w with snapshots := w.snapshots ++ [(mounts, ended)] } ∧ ended.returncode = 0 ∧
    parseSummary ended.stdout = .ok r ∧ r.1 ≠ "") ?_ ?_
  · unfold snapshotData
    refine (runRestic_yields (.backup _) _ _).bind ?_
    rintro ended w' ⟨⟨-, rfl⟩, hnamed⟩
    refine Action.yields_ite (fun _ => ?_) fun hrc => ?_
    · exact (Action.yields_raise (P := fun _ _ => False) _).bind fun _ _ h => h.elim
    · have hzero : ended.returncode = 0 := not_not.mp hrc
      exact Action.yields_ofExcept fun r hr => ⟨ended, rfl, hzero, hr, hnamed rfl hzero r hr⟩
  · rintro ⟨id, added⟩ w' ⟨ended, rfl, hrc, hparse, hid⟩
    exact Action.yields_pure (.inr ⟨hmounts, ended, id, added, rfl, rfl, hrc, hparse, hid⟩)

/-- **A pipe**: both ends have ended, and a timeout yields nothing. -/
theorem pipe_yields {containerId filename tag : String} {argv : List String}
    {env : List (String × String)} :
    (pipe (.dockerExec containerId argv false)
      (.restic ⟨env, .backupStdin filename tag, [], false⟩)).Yields host.capturing (fun r w' =>
        w' = { w with
          dumps := w.dumps ++ [(containerId, argv, r.2)]
          streams := w.streams ++ [(filename, r.1)] } ∧
        (r.1.returncode = 0 → ∀ summary, parseSummary r.1.stdout = .ok summary →
          summary.1 ≠ "")) w := by
  have hstart (child : Child) (w : Capture) : (call (.start child)).Yields host.capturing
      (fun _ w' => w' = w) w := by
    refine Action.yields_perform ?_
    rintro - w' ⟨-, rfl⟩
    rfl
  refine (hstart _ w).bind ?_
  rintro - w' rfl
  refine (hstart _ w').bind ?_
  rintro - w'' rfl
  refine Action.Yields.tryExcept ?_ ?_
  · refine Action.Yields.bind (P := fun consumed w' =>
      w' = { w'' with streams := w''.streams ++ [(filename, consumed)] } ∧
      (consumed.returncode = 0 → ∀ summary, parseSummary consumed.stdout = .ok summary →
        summary.1 ≠ "")) ?_ ?_
    · refine Action.yields_perform ?_
      rintro consumed w₃ ⟨hnamed, rfl⟩
      exact ⟨rfl, hnamed rfl⟩
    · rintro consumed w₃ ⟨rfl, hnamed⟩
      refine Action.Yields.bind (P := fun produced w' => w' = { w'' with
        dumps := w''.dumps ++ [(containerId, argv, produced)]
        streams := w''.streams ++ [(filename, consumed)] }) ?_ ?_
      · refine Action.yields_perform ?_
        rintro produced w₄ ⟨-, rfl⟩
        rfl
      · rintro produced w₄ rfl
        exact Action.yields_pure ⟨rfl, hnamed⟩
  · intro e w₃
    -- whatever becomes of the children, the timeout is raised
    unfold abandon
    split
    · refine (Action.yields_trivial _ _).bind fun _ _ _ => ?_
      refine (Action.yields_trivial _ _).bind fun _ _ _ => ?_
      refine (Action.yields_trivial _ _).bind fun _ _ _ => ?_
      refine (Action.yields_trivial _ _).bind fun _ _ _ => ?_
      exact Action.yields_raise _
    · exact Action.yields_raise _

/-- **A dump**: the producer gates first, then the consumer, then the summary. -/
theorem dumpAndBackup_yields (containerId : String) (argv : List String) (filename : String) :
    (dumpAndBackup settings instanceId containerId argv filename).Yields host.capturing
      (fun r w' => ∃ produced consumed, w' = { w with
          dumps := w.dumps ++ [(containerId, argv, produced)]
          streams := w.streams ++ [(filename, consumed)] } ∧
        produced.returncode = 0 ∧ consumed.returncode = 0 ∧
        parseSummary consumed.stdout = .ok (r.1, some r.2) ∧ r.2 ≠ 0 ∧ r.1 ≠ "") w := by
  unfold dumpAndBackup
  refine (Action.yields_ofExcept (P := fun _ w' => w' = w) fun _ _ => rfl).bind ?_
  rintro env w' rfl
  refine pipe_yields.bind ?_
  rintro ⟨consumed, produced⟩ w₂ ⟨rfl, hnamed⟩
  have hraise {β : Type} (code : ErrorCode) (f : β → Job (String × Int))
      {P : String × Int → Capture → Prop} (w : Capture) :
      ((Action.raise (.backup code) : Job β) >>= f).Yields host.capturing P w :=
    (Action.yields_raise (P := fun _ _ => False) _).bind fun _ _ h => h.elim
  refine Action.yields_ite (fun _ => hraise _ _ _) fun hproduced => ?_
  refine Action.yields_ite (fun _ => hraise _ _ _) fun hconsumed => ?_
  have hzero : consumed.returncode = 0 := not_not.mp hconsumed
  refine (Action.yields_ofExcept (P := fun r w₃ => w₃ = _ ∧
    parseSummary consumed.stdout = .ok r) fun r hr => ⟨rfl, hr⟩).bind ?_
  rintro ⟨id, added⟩ w₃ ⟨rfl, hparse⟩
  cases added with
  | none => exact Action.yields_raise _
  | some bytes =>
    refine Action.yields_ite (fun _ => hraise _ _ _) fun hbytes => ?_
    exact Action.yields_pure ⟨produced, consumed, rfl, not_not.mp hproduced, hzero, hparse, hbytes,
      hnamed hzero _ hparse⟩

/-- **What a hot backup that succeeds has done.** -/
structure HotRun (host : Host) (instanceId : String) (volumeClasses : List (String × String))
    (w : Capture) (manifest : List (String × String)) : Prop where
  raised : w.raised = false
  initialised : ∀ ended ∈ w.inits, ended.returncode = 0
  parts : ∃ mounts data dumps, HotMounts host instanceId volumeClasses mounts ∧
    manifest = data ++ dumps ∧
    ((mounts = [] ∧ data = [] ∧ w.snapshots = []) ∨
      mounts ≠ [] ∧ ∃ ended id added, data = [("data", id)] ∧ w.snapshots = [(mounts, ended)] ∧
        ended.returncode = 0 ∧ parseSummary ended.stdout = .ok (id, added) ∧ id ≠ "") ∧
    ((databaseVolumes volumeClasses = [] ∧ dumps = [] ∧ w.dumps = [] ∧ w.streams = []) ∨
      databaseVolumes volumeClasses ≠ [] ∧ ∃ hook id, host.hooks = [hook] ∧
        dumps = [("db:" ++ hook.service, id)] ∧ Dumped instanceId hook w id)

theorem dump_key_ne (service : String) : "db:" ++ service ≠ "data" := by
  intro h
  have hchars := congrArg String.toList h
  rw [String.toList_append] at hchars
  cases (List.cons.inj (List.cons.inj hchars).2).1

/-- An artifact is added at the end, the data snapshot being no dump. -/
theorem setArtifact_dump {manifest : List (String × String)} {service id : String}
    (h : ∀ e ∈ manifest, e.1 = "data") :
    setArtifact manifest ("db:" ++ service) id = manifest ++ [("db:" ++ service, id)] := by
  have hnone : (manifest.any fun e => e.1 == "db:" ++ service) = false := by
    rw [List.any_eq_false]
    rintro e he hkey
    exact dump_key_ne service ((beq_iff_eq.mp hkey).symm.trans (h e he))
  rw [setArtifact, if_neg (Bool.eq_false_iff.mp hnone)]

theorem runHotBackup_yields (backupId : String) :
    (runHotBackup settings instanceId backupId volumeClasses).Yields host.capturing
      (fun p w' => p.status = .success ∧ ∃ manifest, p.manifest = some manifest ∧
        HotRun host instanceId volumeClasses w' manifest) {} := by
  unfold runHotBackup
  refine hotBackupMounts_yields.bind ?_
  rintro mounts w₁ ⟨rfl, hmounts⟩
  refine Action.yields_ite (fun _ => Action.yields_raise _) fun _ => ?_
  refine hotHooks_yields.bind ?_
  rintro hooks w₂ ⟨rfl, hhooks⟩
  refine ensureRepo_yields.bind ?_
  rintro - w₃ ⟨inits, rfl, hinits⟩
  refine (hotData_yields mounts).bind ?_
  rintro ⟨data, total⟩ w₄ hdata
  have hkeys : ∀ e ∈ data, e.1 = "data" := by
    rcases hdata with ⟨-, rfl, -⟩ | ⟨-, -, id, -, rfl, -⟩ <;> simp
  obtain ⟨hraised, hinits₄, hdumps, hstreams, hsnapshots⟩ : w₄.raised = false ∧
      w₄.inits = inits ∧ w₄.dumps = [] ∧ w₄.streams = [] ∧
      ((mounts = [] ∧ data = [] ∧ w₄.snapshots = []) ∨ mounts ≠ [] ∧
        ∃ ended id added, data = [("data", id)] ∧ w₄.snapshots = [(mounts, ended)] ∧
        ended.returncode = 0 ∧ parseSummary ended.stdout = .ok (id, added) ∧ id ≠ "") := by
    rcases hdata with ⟨hnone, hdata, rfl⟩ | ⟨hsome, ended, id, added, hdata, rfl, hrest⟩
    · exact ⟨rfl, rfl, rfl, rfl, .inl ⟨hnone, hdata, rfl⟩⟩
    · exact ⟨rfl, rfl, rfl, rfl, .inr ⟨hsome, ended, id, added, hdata, rfl, hrest⟩⟩
  rw [← hinits₄] at hinits
  rcases hhooks with ⟨hnone, rfl⟩ | ⟨hsome, hook, hhook, rfl⟩
  · refine (Action.yields_pure (P := fun r w₅ => w₅ = w₄ ∧ r = (data, total)) ⟨rfl, rfl⟩).bind ?_
    rintro - w₅ ⟨rfl, rfl⟩
    refine Action.yields_pure ⟨rfl, data, rfl, hraised, hinits, mounts, data, [], hmounts, ?_, ?_,
      ?_⟩
    · rw [List.append_nil]
    · exact hsnapshots
    · exact .inl ⟨hnone, rfl, hdumps, hstreams⟩
  · refine Action.Yields.bind (P := fun r w₅ => ∃ id, r.1 = data ++ [("db:" ++ hook.service, id)] ∧
      w₅.raised = false ∧ w₅.inits = w₄.inits ∧ w₅.snapshots = w₄.snapshots ∧
      Dumped instanceId hook w₅ id) ?_ ?_
    · refine (dumpAndBackup_yields hook.containerId hook.argv _).bind ?_
      rintro ⟨id, bytes⟩ w₅ ⟨produced, consumed, rfl, hproduced, hconsumed, hparse, hbytes, hid⟩
      refine Action.yields_pure ⟨id, setArtifact_dump hkeys, hraised, rfl, rfl, ?_⟩
      refine ⟨produced, consumed, bytes, ?_, ?_, hproduced, hconsumed, hparse, hbytes, hid⟩
      · exact congrArg (· ++ _) hdumps
      · exact congrArg (· ++ _) hstreams
    · rintro ⟨manifest, total⟩ w₅ ⟨id, rfl, hraised₅, hsameInits, hsame, hdumped⟩
      refine Action.yields_pure ⟨rfl, _, rfl, hraised₅, hsameInits ▸ hinits, mounts, data, _, hmounts,
        rfl, ?_, ?_⟩
      · rw [hsame]
        exact hsnapshots
      · exact .inr ⟨hsome, hook, id, hhook, rfl, hdumped⟩

end Parts

/-! ## The manifest -/

/-- The volumes that the list of volumes leaves out are not data. -/
def NothingHidden (host : Host) (instanceId : String) (volumeClasses : List (String × String)) :
    Prop :=
  ∀ v, host.Volume instanceId v → endsWith v nginxVolumeSuffix = true →
    volumeClass instanceId volumeClasses v = some "regenerable" ∨
      volumeClass instanceId volumeClasses v = some "database"

section Manifest
variable {host : Host} {instanceId : String} {volumeClasses : List (String × String)}
  {w : Capture} {manifest : List (String × String)}

theorem Host.Listed.volume {v : String} (h : host.Listed instanceId v) :
    host.Volume instanceId v := by
  refine ⟨h.1, h.2.1, ?_⟩
  rintro rfl
  have hsuffix : endsWith (instanceId ++ nginxVolumeSuffix) nginxVolumeSuffix = true := by
    rw [endsWith, String.toList_append, List.isSuffixOf_iff_suffix]
    exact List.suffix_append _ _
  rw [h.2.2] at hsuffix
  cases hsuffix

theorem Host.Volume.listed {v : String} (h : host.Volume instanceId v)
    (hsuffix : endsWith v nginxVolumeSuffix ≠ true) : host.Listed instanceId v :=
  ⟨h.1, h.2.1, Bool.eq_false_iff.mpr hsuffix⟩

/-- A data volume is listed, if nothing is hidden. -/
theorem NothingHidden.listed (hidden : NothingHidden host instanceId volumeClasses) {v : String}
    (hv : host.Volume instanceId v)
    (hdata : volumeClass instanceId volumeClasses v = some "data") : host.Listed instanceId v := by
  refine hv.listed fun hsuffix => ?_
  rcases hidden v hv hsuffix with h | h <;> exact absurd (hdata.symm.trans h) (by decide)

namespace HotRun

theorem data_mem (h : HotRun host instanceId volumeClasses w manifest) {id : String}
    (hid : ("data", id) ∈ manifest) : ∃ mounts ended added,
      HotMounts host instanceId volumeClasses mounts ∧ mounts ≠ [] ∧
      w.snapshots = [(mounts, ended)] ∧ ended.returncode = 0 ∧
      parseSummary ended.stdout = .ok (id, added) ∧ id ≠ "" := by
  obtain ⟨-, -, mounts, data, dumps, hmounts, rfl, hdata, hdumps⟩ := h
  have hnotdump : ("data", id) ∉ dumps := by
    rcases hdumps with ⟨-, rfl, -⟩ | ⟨-, hook, id', -, rfl, -⟩
    · exact List.not_mem_nil
    · exact fun hmem =>
        dump_key_ne hook.service (Prod.mk.inj (List.mem_singleton.mp hmem)).1.symm
  rcases List.mem_append.mp hid with hmem | hmem
  · rcases hdata with ⟨-, rfl, -⟩ | ⟨hsome, ended, id', added, rfl, hsnap, hrc, hparse, hne⟩
    · cases hmem
    · cases List.mem_singleton.mp hmem
      exact ⟨mounts, ended, added, hmounts, hsome, hsnap, hrc, hparse, hne⟩
  · exact absurd hmem hnotdump

theorem other_artifacts (h : HotRun host instanceId volumeClasses w manifest) :
    (databaseVolumes volumeClasses = [] ∧ otherArtifacts manifest = []) ∨
      databaseVolumes volumeClasses ≠ [] ∧ ∃ hook id, host.hooks = [hook] ∧
        otherArtifacts manifest = [("db:" ++ hook.service, id)] ∧ Dumped instanceId hook w id := by
  obtain ⟨-, -, mounts, data, dumps, -, rfl, hdata, hdumps⟩ := h
  have hnone : otherArtifacts data = [] := by
    rcases hdata with ⟨-, rfl, -⟩ | ⟨-, ended, id, added, rfl, -⟩ <;> rfl
  have hother : otherArtifacts (data ++ dumps) = otherArtifacts dumps := by
    rw [otherArtifacts, List.filter_append]
    exact congrArg (· ++ _) hnone
  rw [hother]
  rcases hdumps with ⟨hnodb, rfl, -⟩ | ⟨hdb, hook, id, hhook, rfl, hdumped⟩
  · exact .inl ⟨hnodb, rfl⟩
  · refine .inr ⟨hdb, hook, id, hhook, ?_, hdumped⟩
    rw [otherArtifacts, List.filter_cons, if_pos (bne_iff_ne.mpr (dump_key_ne hook.service)),
      List.filter_nil]

/-- **The manifest is complete just if nothing is hidden.** -/
theorem complete_iff (h : HotRun host instanceId volumeClasses w manifest) :
    Complete host instanceId volumeClasses w manifest ↔
      NothingHidden host instanceId volumeClasses := by
  obtain ⟨mounts, data, dumps, hmounts, hmanifest, hdata, -⟩ := h.parts
  constructor
  · rintro complete v hv hsuffix
    rcases complete.classified v hv with hclass | hclass
    · exfalso
      obtain ⟨id, hid⟩ := complete.data.mpr ⟨v, hv, hclass⟩
      obtain ⟨mounts', ended, added, hsnap, -, -, -, hall⟩ := complete.snapshot id hid
      obtain ⟨mounts'', ended', added', hmounts'', -, hsnap', -⟩ := h.data_mem hid
      cases hsnap.symm.trans hsnap'
      exact hmounts''.listed v hsuffix (hall v hv hclass)
    · exact hclass
  · intro hidden
    refine ⟨fun v hv => ?_, ⟨?_, ?_⟩, fun id hid => ?_, fun hdb => ?_, fun hnodb => ?_⟩
    · by_cases hsuffix : endsWith v nginxVolumeSuffix = true
      · exact .inr (hidden v hv hsuffix)
      · exact hmounts.classified v (hv.listed hsuffix)
    · rintro ⟨id, hid⟩
      obtain ⟨mounts', ended, added, hmounts', hsome, -⟩ := h.data_mem hid
      obtain ⟨v, hv, hclass⟩ := hmounts'.nonempty hsome
      exact ⟨v, hv.volume, hclass⟩
    · rintro ⟨v, hv, hclass⟩
      have hmounted := hmounts.mounted v (hidden.listed hv hclass) hclass
      rcases hdata with ⟨rfl, -⟩ | ⟨-, ended, id, added, rfl, -⟩
      · cases hmounted
      · rw [hmanifest]
        exact ⟨id, List.mem_append_left _ (List.mem_singleton.mpr rfl)⟩
    · obtain ⟨mounts', ended, added, hmounts', -, hsnap, hrc, hparse, hne⟩ := h.data_mem hid
      exact ⟨mounts', ended, added, hsnap, hrc, hparse, hne, fun v hv hclass =>
        hmounts'.mounted v (hidden.listed hv hclass) hclass⟩
    · rcases h.other_artifacts with ⟨hnodb, -⟩ | ⟨-, hdump⟩
      · exact absurd hnodb hdb
      · exact hdump
    · rcases h.other_artifacts with ⟨-, hnone⟩ | ⟨hdb, -⟩
      · exact hnone
      · exact absurd hnodb hdb

theorem not_failed (h : HotRun host instanceId volumeClasses w manifest) : ¬ w.Failed := by
  obtain ⟨hraised, hinits, mounts, data, dumps, -, -, hdata, hdumps⟩ := h
  rintro (hfail | ⟨ended, hended, hfail⟩ | ⟨s, hs, hfail⟩ | ⟨d, hd, hfail⟩ | ⟨s, hs, hfail⟩)
  · rw [hraised] at hfail
    cases hfail
  · exact hfail (hinits ended hended)
  · rcases hdata with ⟨-, -, hnone⟩ | ⟨-, ended, id, added, -, hsnap, hrc, -⟩
    · rw [hnone] at hs
      cases hs
    · rw [hsnap] at hs
      cases List.mem_singleton.mp hs
      exact hfail hrc
  all_goals
    rcases hdumps with ⟨-, -, hnodumps, hnostreams⟩ |
      ⟨-, hook, id, -, -, produced, consumed, bytes, hdump, hstream, hprc, hcrc, hparse, hbytes, -⟩
  · rw [hnodumps] at hd
    cases hd
  · rw [hdump] at hd
    cases List.mem_singleton.mp hd
    exact hfail hprc
  · rw [hnostreams] at hs
    cases hs
  · rw [hstream] at hs
    cases List.mem_singleton.mp hs
    rcases hfail with hfail | hfail
    · exact hfail hcrc
    · exact hbytes (hfail id bytes hparse)

end HotRun

end Manifest

/-! ## The job -/

/-- The backup job's `try` block with its handlers, from the payload it starts with. -/
def hotAttempt (settings : Settings) (instanceId backupId : String)
    (volumeClasses : List (String × String)) (wasRunning : Bool) : BackupSteps Unit :=
  Routine.tryExcept (backupBody settings instanceId backupId (some volumeClasses) wasRunning)
    backupHandler

/-- `payload`, before anything has been done. -/
def failedPayload (backupId : String) : BackupLocals where
  payload := { backupId := backupId, status := .failed, errorCode := some .snapshotFailed }

section Attempt
variable {host : Host} {settings : Settings} {instanceId backupId : String}
  {volumeClasses : List (String × String)}

/-- Failed, unless everything succeeded. -/
def HotSettled (l : BackupLocals) (w : Capture) : Prop :=
  l.payload.status = .failed ∨ l.payload.status = .success ∧ ¬ w.Failed

/-- **A failing step yields a failed payload.** -/
theorem hotAttempt_settled (hclasses : volumeClasses ≠ []) (wasRunning : Bool) :
    (hotAttempt settings instanceId backupId volumeClasses wasRunning).Always host.capturing
      (fun _ => True) (fun _ l w => HotSettled l w) (failedPayload backupId) {} := by
  have hhandler (e : JobError) (w : Capture) : (backupHandler e).Always host.capturing
      (fun _ => True) (fun _ l w => HotSettled l w) (failedPayload backupId) w := by
    cases e <;> exact ⟨trivial, .inl rfl⟩
  unfold hotAttempt
  rw [Routine.always_tryExcept]
  unfold backupBody
  rw [Routine.always_bind, Routine.always_monadLift]
  have hstatus : (getStatus instanceId).Yields host.capturing (fun _ w => w = {}) {} := by
    refine (Action.yields_perform (P := fun _ w => w = {}) ?_).bind fun _ _ h =>
      Action.yields_pure h
    rintro listed w ⟨-, rfl⟩
    rfl
  refine Action.Always.mono hstatus ?_
  rintro (e | st) w - hst
  · exact hhandler e w
  obtain rfl := hst st rfl
  dsimp only [Routine.onOk]
  rw [Routine.always_ite]
  refine ⟨fun _ => ⟨trivial, .inl rfl⟩, fun _ => ?_⟩
  have hhot : (!((some volumeClasses).getD []).isEmpty) = true := by
    cases volumeClasses with
    | nil => exact absurd rfl hclasses
    | cons e rest => rfl
  rw [if_pos hhot, Routine.always_bind, Routine.always_monadLift]
  refine Action.Always.mono (runHotBackup_yields backupId) ?_
  rintro (e | payload) w - hpayload
  · exact hhandler e w
  · obtain ⟨hsuccess, manifest, -, hrun⟩ := hpayload payload rfl
    exact ⟨trivial, .inr ⟨hsuccess, hrun.not_failed⟩⟩

end Attempt

/-- **A hot backup that succeeds has a complete manifest**, whatever the volumes, the
classes, the containers and the outcome of each step, just if no volume but the
sidecar's is hidden behind its suffix; and a step that fails yields a failed payload. -/
theorem hot_manifest_complete (host : Host) (settings : Settings) (instanceId backupId : String)
    (volumeClasses : List (String × String)) :
    (∀ w payload, Run host.capturing {} (runHotBackup settings instanceId backupId volumeClasses) w
        (.pure (.ok payload)) →
      payload.status = .success ∧ ∃ manifest, payload.manifest = some manifest ∧
        (Complete host instanceId volumeClasses w manifest ↔
          NothingHidden host instanceId volumeClasses)) ∧
    ∀ wasRunning w r l, volumeClasses ≠ [] →
      Run host.capturing {} (hotAttempt settings instanceId backupId volumeClasses wasRunning
        (failedPayload backupId)) w (.pure (r, l)) →
      w.Failed → l.payload.status = .failed := by
  constructor
  · rintro w payload run
    obtain ⟨hsuccess, manifest, hmanifest, hrun⟩ := (runHotBackup_yields backupId).at_return run
    exact ⟨hsuccess, manifest, hmanifest, hrun.complete_iff⟩
  · rintro wasRunning w r l hclasses run hfailed
    rcases Prog.Always.at_return (hotAttempt_settled hclasses wasRunning) run with h | ⟨-, h⟩
    · exact h
    · exact absurd hfailed h

/-! ### Two instances with a database -/

/-- A running container with a dump hook. -/
def pgContainer : Container where
  id := "c1"
  name := "i_pg_1"
  labels := [("com.docker.compose.service", "pg"), ("com.greffon.backup.dump", "pg_dump app")]
  status := "running"
  stateStatus := some "running"
  exitCode := some 0
  policyName := none
  health := none
  volumeMounts := ["i_pg"]

/-- An instance with a database, and a volume of some name. -/
def besides (volume : String) : Host where
  volumes := ["i_pg", volume]
  containers := [pgContainer]
  split _ := ["pg_dump", "app"]

/-- Everything succeeds. -/
def backupDay (host : Host) (w : Capture) (c : BackupCall) : Raises Answer JobError c × Capture :=
  let r := match c with
    | .listVolumes _ => .ok host.volumes
    | .listInstanceContainers _ => .ok host.containers
    | .shlexSplit command => .ok (host.split command)
    | c => (smooth (stateFileOf "i" "r") false { file := .absent } c).1
  (r, w.after c r)

theorem backupDay_serves (host : Host) (w : Capture) (c : BackupCall) :
    host.capturing.serve w c (backupDay host w c).1 (backupDay host w c).2 := by
  refine ⟨?_, rfl⟩
  cases c with
  | listVolumes f => exact fun v _ => Iff.rfl
  | listInstanceContainers i => exact rfl
  | shlexSplit command => exact rfl
  | await child =>
    cases child with
    | restic run =>
      rintro - - summary hsummary
      cases hsummary
      exact (by decide : "5afe" ≠ "")
    | dockerExec _ _ _ => trivial
  | writeText file content => cases content <;> trivial
  | _ => trivial

/-- The hot backup of such an instance. -/
def hotBackupOf (volume cls : String) : Job BackupPayload :=
  runHotBackup withRepository "i" "b" [("pg", "database"), (volume, cls)]

theorem hot_manifest_complete_data : ∃ manifest,
    manifest = [("data", "5afe"), ("db:pg", "5afe")] ∧
    (Complete (besides "i_data") "i" [("pg", "database"), ("data", "data")]
      ((hotBackupOf "data" "data").evalFor (backupDay (besides "i_data")) 20 {}).1 manifest ↔
      NothingHidden (besides "i_data") "i" [("pg", "database"), ("data", "data")]) := by
  obtain ⟨-, manifest, hmanifest, hiff⟩ :=
    (hot_manifest_complete (besides "i_data") withRepository "i" "b"
      [("pg", "database"), ("data", "data")]).1 _ _
      (Prog.run_evalFor (h := backupDay (besides "i_data")) (backupDay_serves _) 20
        (hotBackupOf "data" "data") {})
  cases Option.some.inj hmanifest
  exact ⟨_, rfl, hiff⟩

/-- **A data volume named like the sidecar's**: the backup succeeds without it. -/
theorem hidden_volume_not_captured : ∃ w payload,
    Run (besides "i_x_nginx_volume").capturing {} (hotBackupOf "x_nginx_volume" "data") w
      (.pure (.ok payload)) ∧
    payload.status = .success ∧ payload.manifest = some [("db:pg", "5afe")] ∧
    ¬ Complete (besides "i_x_nginx_volume") "i" [("pg", "database"), ("x_nginx_volume", "data")] w
      [("db:pg", "5afe")] := by
  refine ⟨_, _, Prog.run_evalFor (h := backupDay (besides "i_x_nginx_volume"))
    (backupDay_serves _) 20 (hotBackupOf "x_nginx_volume" "data") {}, by rfl, by rfl, ?_⟩
  intro complete
  obtain ⟨id, hid⟩ := complete.data.mpr
    ⟨"i_x_nginx_volume", ⟨by decide, by decide, by decide⟩, by decide⟩
  exact absurd (Prod.mk.inj (List.mem_singleton.mp hid)).1 (by decide)

end Greffer.Backup

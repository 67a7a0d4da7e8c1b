import Greffer.Backup.Footprints
import Greffer.Backup.Repository

/-! # A backup job and its snapshots

What one run of `backupInstance` does to the snapshots of the instance, against a
restic repository that does what is documented of it: a `backup` that succeeds
takes one snapshot and names it, a `forget` keeps the last snapshot of each of the
newest days, weeks and months.

Until the retention run the job only takes snapshots (`Repo.Taking`), and **the
payload of a success names exactly those it has taken** (`Backed`).  The retention
run follows only a success; if it is aligned with the backups, the new one is whole
after it (`forget_settles`).
-/
namespace Greffer.Backup
open Effects

/-- The snapshots a successful backup needs to be restored. -/
def BackupPayload.artifacts (p : BackupPayload) : List String :=
  p.snapshotId.toList ++ (p.manifest.getD []).map Prod.snd

/-- A `restic backup` that ends: if it succeeds it has taken a snapshot and names it in
its summary; if it fails, or is not waited for, it may have taken one. -/
def Snapshots (w : Repo) (r : Except JobError Ended) (w' : Repo) : Prop :=
  (∃ s, w.Fresh s ∧ w' = w.take s ∧ ∀ ended, r = .ok ended → ended.returncode = 0 →
    ∃ added, parseSummary ended.stdout = .ok (s.id, added)) ∨
  (w' = w ∧ ∀ ended, r = .ok ended → ended.returncode ≠ 0)

/-- A `restic forget` that ends: if it succeeds the policy has been applied. -/
def Forgets (w : Repo) (rules : List (Retention.Rule Int Int)) (r : Except JobError Ended)
    (w' : Repo) : Prop :=
  w' = w.retain rules ∨ (w' = w ∧ ∀ ended, r = .ok ended → ended.returncode ≠ 0)

/-- The repository, as far as the snapshots of the instance go. -/
def restic (cal : Calendar) (instanceId : String) : Machine (Raises Answer JobError) Repo where
  serve w c r w' :=
    match c with
    | .await (.restic run) =>
      match run.command with
      | .backup tag => if tag = instanceTag instanceId then Snapshots w r w' else w' = w
      | .backupStdin _ tag => if tag = instanceTag instanceId then Snapshots w r w' else w' = w
      | .forget tag (.calendar daily weekly monthly) =>
        if tag = instanceTag instanceId then Forgets w (cal.rules daily weekly monthly) r w'
        else w' = w
      | _ => w' = w
    | _ => w' = w

/-- The steps that respect the backups: a retention run is aligned with them, or changes
nothing. -/
def RespectsBackups (cal : Calendar) (w : Repo) (c : BackupCall) (_ : Raises Answer JobError c)
    (w' : Repo) : Prop :=
  match c with
  | .await (.restic run) =>
    match run.command with
    | .forget _ (.calendar daily weekly monthly) =>
      w' = w ∨ w.Aligned (cal.rules daily weekly monthly)
    | _ => True
  | _ => True

/-- The repository whose retention runs are all aligned. -/
abbrev aligned (cal : Calendar) (instanceId : String) : Machine (Raises Answer JobError) Repo :=
  (restic cal instanceId).restrict (RespectsBackups cal)

/-! ## What a step does -/

/-- The kinds of calls that change the snapshots of the instance. -/
def Kind.changesRepo (instanceId : String) : Kind → Prop
  | .restic (.backup tag) => tag = instanceTag instanceId
  | .restic (.backupStdin _ tag) => tag = instanceTag instanceId
  | .restic (.forget _ _) => True
  | _ => False

/-- The retention runs. -/
def Kind.forgets : Kind → Prop
  | .restic (.forget _ _) => True
  | _ => False

section Steps
variable {cal : Calendar} {instanceId : String} {w w' : Repo} {c : BackupCall}
  {r : Raises Answer JobError c}

theorem restic_still (hs : (restic cal instanceId).serve w c r w')
    (hkind : ¬ c.kind.changesRepo instanceId) : w' = w := by
  cases c with
  | await child =>
    cases child with
    | dockerExec _ _ _ => exact hs
    | restic run =>
      obtain ⟨env, command, mounts, readOnly⟩ := run
      cases command with
      | backup tag =>
        have hother : tag ≠ instanceTag instanceId := hkind
        simpa only [restic, if_neg hother] using hs
      | backupStdin file tag =>
        have hother : tag ≠ instanceTag instanceId := hkind
        simpa only [restic, if_neg hother] using hs
      | forget tag keep => exact absurd trivial hkind
      | _ => exact hs
  | _ => exact hs

/-- Short of a retention run, snapshots are only taken. -/
theorem restic_takes (hs : (restic cal instanceId).serve w c r w') (hkind : ¬ c.kind.forgets) :
    w' = w ∨ ∃ s, w.Fresh s ∧ w' = w.take s := by
  have htakes : ∀ {r : Except JobError Ended}, Snapshots w r w' →
      w' = w ∨ ∃ s, w.Fresh s ∧ w' = w.take s := by
    rintro r (⟨s, hfresh, rfl, -⟩ | ⟨rfl, -⟩)
    · exact .inr ⟨s, hfresh, rfl⟩
    · exact .inl rfl
  by_cases hchanges : c.kind.changesRepo instanceId
  · cases c with
    | await child =>
      cases child with
      | dockerExec _ _ _ => exact .inl hs
      | restic run =>
        obtain ⟨env, command, mounts, readOnly⟩ := run
        cases command with
        | backup tag =>
          have hsame : tag = instanceTag instanceId := hchanges
          simp only [restic, if_pos hsame] at hs
          exact htakes hs
        | backupStdin file tag =>
          have hsame : tag = instanceTag instanceId := hchanges
          simp only [restic, if_pos hsame] at hs
          exact htakes hs
        | forget tag keep => exact absurd trivial hkind
        | _ => exact .inl hs
    | _ => exact .inl hs
  · exact .inl (restic_still hs hchanges)

end Steps

/-! ## Until the retention run -/

/-- What a job has done to the group `w₀` so far: it has taken snapshots. -/
structure Repo.Taking (w₀ w : Repo) : Prop where
  sane : w.Sane
  backups : w.backups = w₀.backups
  snapshots : w.snapshots = w₀.snapshots ++ w.taken

theorem Repo.Taking.take {w₀ w : Repo} {s : Snapshot} (h : w₀.Taking w) (hs : w.Fresh s) :
    w₀.Taking (w.take s) where
  sane := h.sane.take hs
  backups := h.backups
  snapshots := by
    show w.snapshots ++ [s] = w₀.snapshots ++ (w.taken ++ [s])
    rw [h.snapshots, List.append_assoc]

section Frames
variable {cal : Calendar} {instanceId : String} {w₀ w : Repo} {L α : Type} {l : L}

/-- The action changes nothing of the group. -/
abbrev Still (cal : Calendar) (instanceId : String) (w : Repo) (m : Job α) : Prop :=
  m.Always (aligned cal instanceId) (fun w' => w' = w) (fun _ _ => True) w

theorem still_within {m : Job α} (hm : Within (fun k => ¬ k.changesRepo instanceId) m) :
    Still cal instanceId w m := by
  refine (hm.always (I := fun w' => w' = w) (fun w₁ c r w₂ hk hI hs => ?_) rfl).mono
    fun _ _ _ _ => trivial
  exact (restic_still hs.1 hk).trans hI

theorem still_start (child : Child) : Still cal instanceId w (call (.start child)) :=
  ⟨rfl, fun _ _ hs => ⟨hs.1, trivial⟩⟩

theorem taking_serve {w' : Repo} {c : BackupCall} {r : Raises Answer JobError c}
    (hs : (aligned cal instanceId).serve w c r w') (h : w₀.Taking w) (hkind : ¬ c.kind.forgets) :
    w₀.Taking w' := by
  rcases restic_takes hs.1 hkind with rfl | ⟨s, hfresh, rfl⟩
  · exact h
  · exact h.take hfresh

theorem taking_within {m : Job α} (hm : Within (fun k => ¬ k.forgets) m) (h : w₀.Taking w) :
    m.Always (aligned cal instanceId) w₀.Taking (fun _ _ => True) w := by
  refine (hm.always (I := w₀.Taking) (fun w₁ c r w₂ hk hI hs => ?_) h).mono fun _ _ _ _ => trivial
  exact taking_serve hs hI hk

/-- A statement that changes nothing, before code that starts from the same group. -/
theorem still_bind {I : Repo → Prop} {m : Job α} {β : Type} {f : α → Routine Answer JobError L β}
    {Q : Except JobError β → L → Repo → Prop} (hm : Still cal instanceId w m) (h : I w)
    (herror : ∀ e, Q (.error e) l w)
    (hf : ∀ a, (f a).Always (aligned cal instanceId) I Q l w) :
    ((monadLift m : Routine Answer JobError L α) >>= f).Always (aligned cal instanceId) I Q l w := by
  refine Routine.lift_bind_frame (J := fun w' => w' = w) ?_ hm ?_ ?_
  · rintro _ rfl
    exact h
  · rintro e _ rfl
    exact herror e
  · rintro a _ rfl
    exact hf a

theorem still_then {I : Repo → Prop} {m : Job α} {β : Type} {f : α → Job β}
    {Q : Except JobError β → Repo → Prop} (hm : Still cal instanceId w m) (h : I w)
    (herror : ∀ e, Q (.error e) w) (hf : ∀ a, (f a).Always (aligned cal instanceId) I Q w) :
    (m >>= f).Always (aligned cal instanceId) I Q w := by
  rw [Action.always_bind]
  refine hm.imp ?_ ?_
  · rintro _ rfl
    exact h
  · rintro (e | a) _ rfl -
    · exact herror e
    · exact hf a

end Frames

/-- A child that takes a snapshot has ended: **if well, it names the snapshot**. -/
def TookOne (w : Repo) (r : Except JobError Ended) (w' : Repo) : Prop :=
  ∀ ended, r = .ok ended → ended.returncode = 0 →
    ∃ s added, w'.taken = w.taken ++ [s] ∧ parseSummary ended.stdout = .ok (s.id, added)

theorem tookOne_of_snapshots {w w' : Repo} {r : Except JobError Ended} (h : Snapshots w r w') :
    TookOne w r w' := by
  intro ended hr hrc
  rcases h with ⟨s, -, rfl, hnames⟩ | ⟨-, hfailed⟩
  · obtain ⟨added, hparse⟩ := hnames ended hr hrc
    exact ⟨s, added, rfl, hparse⟩
  · exact absurd hrc (hfailed ended hr)

section Backups
variable {cal : Calendar} {instanceId : String} {w₀ w : Repo} {settings : Settings}

theorem runRestic_takes {mounts : List Mount} (h : w₀.Taking w) :
    (runRestic settings (.backup (instanceTag instanceId)) mounts true).Always
      (aligned cal instanceId) w₀.Taking (TookOne w) w := by
  unfold runRestic
  refine still_then (still_within (Action.uses_ofExcept _)) h (fun _ _ hx => by cases hx)
    fun env => ?_
  refine still_then (still_start _) h (fun _ _ hx => by cases hx) fun _ => ?_
  refine ⟨h, fun r w₁ hs => ⟨taking_serve hs h fun hk => hk, ?_⟩⟩
  have hsnap := hs.1
  simp only [restic, if_true] at hsnap
  exact tookOne_of_snapshots hsnap

theorem pipe_takes {containerId file : String} {argv : List String} {run : ResticRun}
    (hrun : run.command = .backupStdin file (instanceTag instanceId)) (h : w₀.Taking w) :
    (pipe (.dockerExec containerId argv false) (.restic run)).Always (aligned cal instanceId)
      w₀.Taking (fun r w' => ∀ consumed produced, r = .ok (consumed, produced) →
        TookOne w (.ok consumed) w') w := by
  have hconsumer : ¬ (Child.restic run).kind.forgets := by
    rw [show (Child.restic run).kind = .restic run.command from rfl, hrun]
    exact id
  unfold pipe
  refine still_then (still_start _) h (fun _ _ _ hx => by cases hx) fun _ => ?_
  refine still_then (still_start _) h (fun _ _ _ hx => by cases hx) fun _ => ?_
  rw [Action.always_tryExcept]
  have hends : (do
      let consumed ← call (.await (.restic run))
      let produced ← call (.await (.dockerExec containerId argv false))
      return (consumed, produced) : Job (Ended × Ended)).Always (aligned cal instanceId) w₀.Taking
      (fun r w' => ∀ consumed produced, r = .ok (consumed, produced) →
        TookOne w (.ok consumed) w') w := by
    rw [Action.always_bind]
    refine ⟨h, fun r w₁ hs => ?_⟩
    have h₁ : w₀.Taking w₁ := taking_serve hs h hconsumer
    refine ⟨h₁, ?_⟩
    cases r with
    | error e => exact fun _ _ hx => by cases hx
    | ok consumed =>
      have htook : TookOne w (.ok consumed) w₁ := by
        have hsnap := hs.1
        simp only [restic, hrun, if_true] at hsnap
        exact tookOne_of_snapshots hsnap
      refine still_then (still_within (call_within fun hk => hk)) h₁ (fun _ _ _ hx => by cases hx)
        fun produced => ⟨h₁, ?_⟩
      intro consumed' produced' hx
      cases hx
      exact htook
  refine hends.mono ?_
  rintro (e | both) w₁ h₁ htook
  · refine Action.Always.mono (Prog.Always.returning (taking_within
      (abandon_within (K := fun k => ¬ k.forgets) id hconsumer) h₁) abandon_returns) ?_
    rintro r w₂ - ⟨hraises, -⟩ consumed produced hx
    exact absurd hx (hraises _)
  · exact htook

/-- A dump that is taken is one snapshot, and this is its id. -/
theorem dumpAndBackup_takes {containerId file : String} {argv : List String} (h : w₀.Taking w) :
    (dumpAndBackup settings instanceId containerId argv file).Always (aligned cal instanceId)
      w₀.Taking (fun r w' => ∀ id bytes, r = .ok (id, bytes) →
        ∃ s, w'.taken = w.taken ++ [s] ∧ s.id = id) w := by
  unfold dumpAndBackup
  refine still_then (still_within (Action.uses_ofExcept _)) h (fun _ _ _ hx => by cases hx)
    fun env => ?_
  rw [Action.always_bind]
  refine (pipe_takes rfl h).mono ?_
  rintro (e | ⟨consumed, produced⟩) w₁ h₁ htook
  · exact fun _ _ hx => by cases hx
  rw [onOk_ok]
  dsimp only
  split
  · exact ⟨h₁, fun _ _ hx => by cases hx⟩
  split
  · exact ⟨h₁, fun _ _ hx => by cases hx⟩
  rename_i hrc
  obtain ⟨s, added, htaken, hparse⟩ := htook consumed produced rfl consumed rfl (by simpa using hrc)
  rw [hparse, Action.always_bind]
  refine ⟨h₁, ?_⟩
  rw [onOk_ok]
  cases added with
  | none => exact ⟨h₁, fun _ _ hx => by cases hx⟩
  | some bytes =>
    dsimp only
    rw [Action.always_ite]
    refine ⟨fun _ => ⟨h₁, fun _ _ hx => by cases hx⟩, fun _ => ⟨h₁, ?_⟩⟩
    intro id bytes' hx
    cases hx
    exact ⟨s, htaken, rfl⟩

/-- The data snapshot of a hot backup is one snapshot, and this is its id. -/
theorem snapshotData_takes {mounts : List Mount} (h : w₀.Taking w) :
    (snapshotData settings instanceId mounts).Always (aligned cal instanceId) w₀.Taking
      (fun r w' => ∀ id bytes, r = .ok (id, bytes) →
        ∃ s, w'.taken = w.taken ++ [s] ∧ s.id = id) w := by
  unfold snapshotData
  rw [Action.always_bind]
  refine (runRestic_takes h).mono ?_
  rintro (e | ended) w₁ h₁ htook
  · exact fun _ _ hx => by cases hx
  rw [onOk_ok]
  dsimp only
  split
  · exact ⟨h₁, fun _ _ hx => by cases hx⟩
  rename_i hrc
  obtain ⟨s, added, htaken, hparse⟩ := htook ended rfl (by simpa using hrc)
  rw [hparse]
  refine ⟨h₁, fun id bytes hx => ?_⟩
  cases hx
  exact ⟨s, htaken, rfl⟩

end Backups

/-! ## What a successful backup is -/

/-- The payload names the snapshots the job has taken, one or two. -/
def Backed (p : BackupPayload) (w : Repo) : Prop :=
  (w.taken.length = 1 ∨ w.taken.length = 2) ∧
    ∀ id, id ∈ p.artifacts ↔ id ∈ w.taken.map Snapshot.id

theorem dbKey_ne_data (service : String) : ("data" : String) ≠ "db:" ++ service := by
  intro h
  have hchars := congrArg String.toList h
  rw [String.toList_append] at hchars
  simp at hchars

/-- The manifest of a hot backup, and its primary snapshot. -/
theorem hotPayload_artifacts {backupId service d m : String} {total : Int} :
    (∀ id, id ∈ (hotPayload backupId [("data", d)] total).artifacts ↔ id ∈ [d]) ∧
    (∀ id, id ∈ (hotPayload backupId [("db:" ++ service, m)] total).artifacts ↔ id ∈ [m]) ∧
    ∀ id, id ∈ (hotPayload backupId [("data", d), ("db:" ++ service, m)] total).artifacts ↔
      id ∈ [d, m] := by
  have hne := dbKey_ne_data service
  refine ⟨fun id => ?_, fun id => ?_, fun id => ?_⟩
  · by_cases hd : d = "" <;>
      simp [hotPayload, BackupPayload.artifacts, present, Option.filter, hd]
  · simp [hotPayload, BackupPayload.artifacts, present, hne.symm]
  · by_cases hd : d = "" <;>
      simp [hotPayload, BackupPayload.artifacts, present, Option.filter, hd]

section Hot
variable {cal : Calendar} {instanceId backupId : String} {w₀ w : Repo} {settings : Settings}
  {volumeClasses : List (String × String)}

theorem hotHooks_returns : (hotHooks instanceId volumeClasses).Returns fun r => ∀ hooks,
    r = .ok hooks → hooks.length ≤ 1 ∧
      ((databaseVolumes volumeClasses).isEmpty = false → hooks ≠ []) := by
  have herror : ∀ (e : JobError) (hooks : List Hook), (.error e : Except JobError _) = .ok hooks →
      hooks.length ≤ 1 ∧ ((databaseVolumes volumeClasses).isEmpty = false → hooks ≠ []) :=
    fun _ _ hx => by cases hx
  unfold hotHooks
  split
  · rename_i hnone
    intro hooks hx
    cases hx
    exact ⟨by simp, fun hsome => by simp [hnone] at hsome⟩
  refine .thenAny herror fun hooks => ?_
  split
  · exact herror _
  rename_i hfew
  split
  · exact herror _
  rename_i hsome
  intro hooks' hx
  cases hx
  simp only [Bool.or_eq_true, decide_eq_true_eq, not_or, not_lt] at hfew
  exact ⟨hfew.2, fun _ hnil => hsome (by rw [hnil]; rfl)⟩

/-- The data of a hot backup: nothing, or one snapshot. -/
theorem hotData_takes {mounts : List Mount} (h : w₀.Taking w) (hnew : w.taken = []) :
    (hotData settings instanceId mounts).Always (aligned cal instanceId) w₀.Taking
      (fun r w' => ∀ manifest total, r = .ok (manifest, total) →
        (mounts.isEmpty = true ∧ manifest = [] ∧ w'.taken = []) ∨
          ∃ s, manifest = [("data", s.id)] ∧ w'.taken = [s]) w := by
  unfold hotData
  split
  · rename_i hempty
    refine ⟨h, fun manifest total hx => ?_⟩
    cases hx
    exact .inl ⟨hempty, rfl, hnew⟩
  · rw [Action.always_bind]
    refine (snapshotData_takes h).mono ?_
    rintro (e | ⟨id, bytes⟩) w₁ h₁ htook
    · exact fun _ _ hx => by cases hx
    obtain ⟨s, htaken, rfl⟩ := htook id bytes rfl
    refine ⟨h₁, fun manifest total hx => ?_⟩
    cases hx
    exact .inr ⟨s, rfl, by rw [htaken, hnew]; rfl⟩

/-- **A hot backup that succeeds names what it has taken.** -/
theorem runHotBackup_takes (h : w₀.Taking w) (hnew : w.taken = []) :
    (runHotBackup settings instanceId backupId volumeClasses).Always (aligned cal instanceId)
      w₀.Taking (fun r w' => ∀ p, r = .ok p → p.status = .success ∧ Backed p w') w := by
  have herror : ∀ (e : JobError) (w : Repo) (p : BackupPayload),
      (.error e : Except JobError _) = .ok p → p.status = .success ∧ Backed p w :=
    fun _ _ _ hx => by cases hx
  unfold runHotBackup
  refine still_then (still_within (hotBackupMounts_within (fun hk => hk) fun hk => hk)) h (fun e => herror e w)
    fun mounts => ?_
  split
  · exact ⟨h, herror _ w⟩
  rename_i hsome
  rw [Action.always_bind]
  have hwithin : Within (fun k => ¬ k.changesRepo instanceId) (hotHooks instanceId volumeClasses) :=
    hotHooks_within id
  have hhooks := Prog.Always.returning (@still_within cal _ w _ _ hwithin) hotHooks_returns
  refine Prog.Always.imp hhooks (fun w₁ hw => hw ▸ h) ?_
  rintro (e | hooks) w₁ hw ⟨hfew, -⟩
  · exact herror e w₁
  rw [hw]
  obtain ⟨hlength, hdump⟩ := hfew hooks rfl
  rw [onOk_ok]
  have hrepo : Within (fun k => ¬ k.changesRepo instanceId) (ensureRepo settings) :=
    ensureRepo_within id id id
  refine still_then (still_within hrepo) h (fun e => herror e w) fun _ => ?_
  rw [Action.always_bind]
  refine (hotData_takes h hnew).mono ?_
  rintro (e | ⟨manifest, total⟩) w₁ h₁ hdata
  · exact herror e w₁
  rw [onOk_ok]
  dsimp only
  have hshape := hdata manifest total rfl
  match hooks, hlength with
  | [], _ =>
    -- no database: the data snapshot is the backup
    rw [Action.always_bind]
    refine ⟨h₁, h₁, fun p hx => ?_⟩
    cases hx
    rcases hshape with ⟨hempty, -, -⟩ | ⟨s, rfl, htaken⟩
    · refine absurd rfl (hdump ?_)
      simpa [hempty] using hsome
    · refine ⟨rfl, .inl (by rw [htaken]; rfl), fun id => ?_⟩
      rw [htaken]
      exact (@hotPayload_artifacts _ "" _ "" _).1 id
  | [hook], _ =>
    rw [Action.always_bind]
    unfold dumpAll
    rw [Action.always_bind]
    refine (dumpAndBackup_takes h₁).mono ?_
    rintro (e | ⟨id, bytes⟩) w₂ h₂ htook
    · exact herror e w₂
    obtain ⟨m, htaken, rfl⟩ := htook id bytes rfl
    refine ⟨h₂, h₂, fun p hx => ?_⟩
    cases hx
    rcases hshape with ⟨-, rfl, hnone⟩ | ⟨d, rfl, hone⟩
    · rw [hnone] at htaken
      refine ⟨rfl, .inl (by rw [htaken]; rfl), fun id => ?_⟩
      rw [htaken]
      exact (hotPayload_artifacts (d := "")).2.1 id
    · rw [hone] at htaken
      have hset : setArtifact [("data", d.id)] ("db:" ++ hook.service) m.id =
          [("data", d.id), ("db:" ++ hook.service, m.id)] := by
        simp [setArtifact, dbKey_ne_data]
      refine ⟨rfl, .inr (by rw [htaken]; rfl), fun id => ?_⟩
      rw [htaken, hset]
      exact hotPayload_artifacts.2.2 id

end Hot

/-! ## The job -/

section Job
variable {cal : Calendar} {instanceId backupId : String} {w₀ w : Repo} {settings : Settings}
  {volumeClasses : Option (List (String × String))} {l : BackupLocals}

/-- A payload that claims a success is backed. -/
def Honest (l : BackupLocals) (w : Repo) : Prop :=
  l.payload.status = .success → Backed l.payload w

theorem honest_of_failed (h : l.payload.status ≠ .success) : Honest l w :=
  fun hx => absurd hx h

theorem coldSnapshot_takes (h : w₀.Taking w) (hnew : w.taken = [])
    (hfailed : l.payload.status ≠ .success) :
    (coldSnapshot settings instanceId backupId).Always (aligned cal instanceId) w₀.Taking
      (fun _ l' w' => Honest l' w') l w := by
  have hhonest : ∀ w : Repo, Honest l w := fun _ => honest_of_failed hfailed
  unfold coldSnapshot
  refine still_bind (still_within (backupMounts_within (fun hk => hk) fun hk => hk)) h (fun _ => hhonest w)
    fun mounts => ?_
  have hrepo : Within (fun k => ¬ k.changesRepo instanceId) (ensureRepo settings) :=
    ensureRepo_within id id id
  refine still_bind (still_within hrepo) h (fun _ => hhonest w) fun _ => ?_
  rw [Routine.always_bind, Routine.always_monadLift]
  refine (runRestic_takes h).mono ?_
  rintro (e | ended) w₁ h₁ htook
  · exact hhonest w₁
  rw [Routine.onOk_ok, Routine.always_ite]
  refine ⟨fun _ => ⟨h₁, hhonest w₁⟩, fun hrc => ?_⟩
  obtain ⟨s, added, htaken, hparse⟩ := htook ended rfl (by simpa using hrc)
  rw [Routine.always_bind, Routine.always_monadLift, hparse]
  refine ⟨h₁, h₁, fun _ => ⟨.inl ?_, fun id => ?_⟩⟩
  · rw [htaken, hnew]
    rfl
  · rw [htaken, hnew]
    simp [BackupPayload.artifacts]

theorem backupBody_takes {wasRunning : Bool} (h : w₀.Taking w) (hnew : w.taken = [])
    (hfailed : l.payload.status ≠ .success) :
    (backupBody settings instanceId backupId volumeClasses wasRunning).Always
      (aligned cal instanceId) w₀.Taking (fun _ l' w' => Honest l' w') l w := by
  have hhonest : ∀ w : Repo, Honest l w := fun _ => honest_of_failed hfailed
  unfold backupBody
  refine still_bind (still_within (getStatus_within fun hk => hk)) h (fun _ => hhonest w)
    fun st => ?_
  rw [Routine.always_ite]
  refine ⟨fun _ => ⟨h, hhonest w⟩, fun _ => ?_⟩
  rw [Routine.always_ite]
  refine ⟨fun _ => ?_, fun _ => ?_⟩
  · rw [Routine.always_bind, Routine.always_monadLift]
    refine (runHotBackup_takes h hnew).mono ?_
    rintro (e | p) w₁ h₁ hp
    · exact hhonest w₁
    · exact ⟨h₁, fun _ => (hp p rfl).2⟩
  rw [Routine.always_ite]
  refine ⟨fun _ => ?_, fun _ => coldSnapshot_takes h hnew hfailed⟩
  refine still_bind (still_within (writeJson_within fun hk => hk)) h (fun _ => hhonest w)
    fun _ => ?_
  refine still_bind (still_within (call_within fun hk => hk)) h (fun _ => hhonest w) fun _ => ?_
  rw [Routine.always_bind, Routine.always_assign]
  refine ⟨h, ?_⟩
  rw [Routine.onOk_ok]
  have hfailed' : ({ l with stoppedForBackup := true } : BackupLocals).payload.status ≠ .success :=
    hfailed
  refine still_bind (still_within (waitStopped_within fun hk => hk)) h
    (fun _ => honest_of_failed hfailed') fun rests => ?_
  rw [Routine.always_ite]
  exact ⟨fun _ => coldSnapshot_takes h hnew hfailed', fun _ => ⟨h, honest_of_failed hfailed'⟩⟩

/-- After the handler the payload is still honest. -/
theorem backupTry_takes {wasRunning : Bool} (h : w₀.Taking w) (hnew : w.taken = [])
    (hfailed : l.payload.status ≠ .success) :
    (Routine.tryExcept (backupBody settings instanceId backupId volumeClasses wasRunning)
      backupHandler).Always (aligned cal instanceId) w₀.Taking (fun _ l' w' => Honest l' w') l w := by
  rw [Routine.always_tryExcept]
  refine (backupBody_takes h hnew hfailed).mono ?_
  rintro (e | ⟨⟩) l₁ w₁ h₁ hhonest
  · cases e <;> exact ⟨h₁, hhonest⟩
  · exact hhonest

/-- The backup the payload names is whole, and so is or gone every other. -/
structure BackupSettled (w₀ : Repo) (p : BackupPayload) (w : Repo) : Prop where
  backed : Backed p w
  backups : w.backups = w₀.backups
  sane : w.close.Sane
  whole : ∀ s ∈ w.taken, s ∈ w.snapshots

theorem BackupSettled.of_taking {p : BackupPayload} (h : w₀.Taking w) (hbacked : Backed p w) :
    BackupSettled w₀ p w where
  backed := hbacked
  backups := h.backups
  sane := h.sane.close h.snapshots hbacked.1
  whole := fun _ hs => h.snapshots ▸ List.mem_append.mpr (.inr hs)

/-- **Retention, if it is aligned, leaves the backup it follows whole.** -/
theorem forget_settles {p : BackupPayload} (h : w₀.Taking w) (hbacked : Backed p w) :
    (forget settings instanceId false).Always (aligned cal instanceId) (fun _ => True)
      (fun _ w' => BackupSettled w₀ p w') w := by
  have hsettled := BackupSettled.of_taking h hbacked
  unfold forget
  rw [Action.always_bind, Action.always_outcome]
  have hrun : (runRestic settings (.forget (instanceTag instanceId) (keepArgs settings false)) []
      true).Always (aligned cal instanceId) (fun _ => True) (fun _ w' => BackupSettled w₀ p w') w := by
    unfold runRestic
    refine still_then (still_within (Action.uses_ofExcept _)) trivial (fun _ => hsettled)
      fun env => ?_
    refine still_then (still_start _) trivial (fun _ => hsettled) fun _ => ?_
    refine ⟨trivial, fun r w₁ hs => ⟨trivial, ?_⟩⟩
    obtain ⟨hserve, hrespects⟩ := hs
    simp only [restic, keepArgs, Bool.false_eq_true, if_false, if_true] at hserve
    rcases hserve with rfl | ⟨rfl, -⟩
    · rcases hrespects with hsame | haligned
      · rw [hsame]
        exact hsettled
      · obtain ⟨hsane, hwhole⟩ := Repo.Sane.retain_close hsettled.sane h.snapshots
          (cal.rules_mono _ _ _) haligned
        exact ⟨hbacked, h.backups, hsane, hwhole⟩
    · exact hsettled
  refine hrun.mono ?_
  rintro (e | ended) w₁ - hsettled₁
  · exact ⟨trivial, hsettled₁⟩
  · exact ⟨trivial, hsettled₁⟩

/-- Where a job ends: it has failed, and has only taken; or it is settled. -/
def JobDone (w₀ : Repo) (l : BackupLocals) (w : Repo) : Prop :=
  if l.payload.status = .success then BackupSettled w₀ l.payload w else w₀.Taking w

theorem JobDone.of_honest (h : w₀.Taking w) (hhonest : Honest l w) : JobDone w₀ l w := by
  unfold JobDone
  split
  · rename_i hsuccess
    exact .of_taking h (hhonest hsuccess)
  · exact h

theorem JobDone.sized {bytes : Option Int} (h : JobDone w₀ l w) :
    JobDone w₀ { l with payload := { l.payload with repoBytes := bytes } } w := by
  unfold JobDone at h ⊢
  split at h
  · rename_i hsuccess
    rw [if_pos hsuccess]
    exact ⟨h.backed, h.backups, h.sane, h.whole⟩
  · rename_i hfailed
    rwa [if_neg hfailed]

theorem backupCleanup_done {destination : Option Destination} (h : w₀.Taking w)
    (hhonest : Honest l w) :
    (backupCleanup settings instanceId destination).Always (aligned cal instanceId)
      (fun _ => True) (fun _ l' w' => JobDone w₀ l' w') l w := by
  have hsofar := JobDone.of_honest h hhonest
  have hretain : (backupRetain settings instanceId destination l).Always (aligned cal instanceId)
      (fun _ => True) (fun _ l' w' => JobDone w₀ l' w') l w := by
    unfold backupRetain
    refine still_bind (still_within (remove_within fun hk => hk)) trivial (fun _ => hsofar)
      fun _ => ?_
    rw [Routine.always_ite]
    refine ⟨fun hsuccess => ?_, fun _ => ⟨trivial, hsofar⟩⟩
    · rw [Routine.always_bind, Routine.always_monadLift]
      refine (forget_settles h (hhonest hsuccess)).mono ?_
      intro r w₁ _ hsettled
      have hdone : JobDone w₀ l w₁ := by rwa [JobDone, if_pos hsuccess]
      cases r with
      | error e => exact hdone
      | ok u =>
        rw [Routine.onOk_ok, Routine.always_ite]
        refine ⟨fun _ => ?_, fun _ => ⟨trivial, hdone⟩⟩
        refine still_bind (still_within (repoStats_within fun hk => hk)) trivial (fun _ => hdone)
          fun bytes => ?_
        cases bytes with
        | none => exact ⟨trivial, hdone⟩
        | some bytes => exact ⟨trivial, hdone.sized⟩
  rw [backupCleanup_eq, Routine.always_bind]
  refine ⟨trivial, ?_⟩
  dsimp only [Routine.onOk]
  split
  · have hrestart : Within (fun k => ¬ k.changesRepo instanceId) (restart instanceId) :=
      call_within (c := .composeUp instanceId []) fun hk => hk
    exact still_bind (still_within hrestart.outcome) trivial (fun _ => hsofar) fun _ => hretain
  · exact hretain

/-- **A backup job, against repositories whose retention runs are aligned.** -/
theorem backupInstance_done {destination : Option Destination} {release : Bool} (h : w.Sane)
    (hnew : w.taken = []) :
    (backupInstance settings instanceId backupId destination volumeClasses release).Always
      (aligned cal instanceId) (fun _ => True) (fun _ l' w' => JobDone w l' w') l w := by
  have htaking : w.Taking w := ⟨h, rfl, by rw [hnew, List.append_nil]⟩
  have hfailed : ({ payload :=
      { backupId := backupId, status := .failed, errorCode := some .snapshotFailed } } :
      BackupLocals).payload.status ≠ .success := by simp
  have hstart := JobDone.of_honest htaking (honest_of_failed (w := w) hfailed)
  unfold backupInstance
  rw [Routine.always_bind, Routine.always_assign]
  refine ⟨trivial, ?_⟩
  rw [Routine.onOk_ok]
  refine still_bind (still_within (getStatus_within fun hk => hk)) trivial (fun _ => hstart)
    fun st => ?_
  rw [Routine.always_tryFinally]
  refine (backupTry_takes htaking hnew hfailed).imp (fun _ _ => trivial) fun r l₁ w₁ h₁ hhonest => ?_
  rw [Routine.always_bind]
  refine (backupCleanup_done h₁ hhonest).mono ?_
  rintro (e | ⟨⟩) l₂ w₂ - hdone
  · exact hdone
  rw [Routine.onOk_ok]
  have hreport : RWithin (fun k => ¬ k.changesRepo instanceId) (backupReport
      (effectiveSettings settings destination instanceId) instanceId release) :=
    backupReport_within id id fun _ => id
  have hkeeps : (backupReport (effectiveSettings settings destination instanceId) instanceId
      release).Keeps fun l' => l' = l₂ := by
    unfold backupReport
    dsimp only
    split
    · exact Routine.keeps_lift.bind fun _ => Routine.keeps_locals.bind fun _ =>
        Routine.keeps_lift.bind fun _ => Routine.keeps_pure _
    · exact Routine.keeps_locals.bind fun _ => Routine.keeps_lift.bind fun _ =>
        Routine.keeps_pure _
  have hframe := (hreport.always (l := l₂) (I := fun w' => w' = w₂) (M := aligned cal instanceId)
    (fun _ _ _ _ hk hI hs => (restic_still hs.1 hk).trans hI) rfl).returning (hkeeps l₂ rfl)
  refine hframe.imp (fun _ _ => trivial) ?_
  rintro (e | ⟨⟩) l₃ w₃ rfl ⟨rfl, -⟩ <;> exact hdone

end Job

end Greffer.Backup

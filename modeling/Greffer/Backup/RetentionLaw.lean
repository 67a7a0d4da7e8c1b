import Greffer.Backup.RetentionSteps

/-! # Retention and the backups it follows

The histories of backups of one instance.  A hot backup of an application with a
database is **two snapshots under one tag**, seconds apart, and the retention run
after it keeps the last snapshot of a day: the dump.  So the law holds along the
histories whose retention runs are `Repo.Aligned`, and — `Repo.Sane.aligned_iff` —
along no others.
-/
namespace Greffer.Backup
open Effects

/-! ## Histories -/

/-- The group once a job has ended with this payload. -/
def Repo.conclude (w : Repo) (p : BackupPayload) : Repo :=
  if p.status = .success then w.close else w.reopen

/-- The successful backups so far. -/
def record (done : List BackupPayload) (p : BackupPayload) : List BackupPayload :=
  if p.status = .success then done ++ [p] else done

/-- The histories of an instance's backups: hot or cold jobs, each of which has ended, and
snapshots left behind by jobs that were killed. -/
inductive History (M : Machine (Raises Answer JobError) Repo) (settings : Settings)
    (instanceId : String) (destination : Option Destination) :
    Repo → List BackupPayload → Prop
  | start : History M settings instanceId destination {} []
  | orphan {w : Repo} {done : List BackupPayload} {s : Snapshot}
      (before : History M settings instanceId destination w done) (fresh : w.Fresh s) :
      History M settings instanceId destination (w.take s).reopen done
  | job {w w' : Repo} {done : List BackupPayload} {backupId : String}
      {volumeClasses : Option (List (String × String))} {release : Bool} {l l' : BackupLocals}
      {r : Except JobError Unit}
      (before : History M settings instanceId destination w done)
      (run : Run M w (backupInstance settings instanceId backupId destination volumeClasses release
        l) w' (.pure (r, l'))) :
      History M settings instanceId destination (w'.conclude l'.payload) (record done l'.payload)

/-- The snapshot exists. -/
def Repo.Exists (w : Repo) (id : String) : Prop := id ∈ w.snapshots.map Snapshot.id

/-- The invariant of a history. -/
structure Chronicle (w : Repo) (done : List BackupPayload) : Prop where
  sane : w.Sane
  closed : w.taken = []
  named : List.Forall₂ (fun p b => ∀ id, id ∈ p.artifacts ↔ id ∈ b.map Snapshot.id) done w.backups
  last_whole : ∀ b, w.backups.getLast? = some b → ∀ s ∈ b, s ∈ w.snapshots

section History
variable {cal : Calendar} {settings : Settings} {instanceId : String}
  {destination : Option Destination} {w : Repo} {done : List BackupPayload}

theorem Chronicle.orphan {s : Snapshot} (h : Chronicle w done) (hs : w.Fresh s) :
    Chronicle (w.take s).reopen done where
  sane := (h.sane.take hs).reopen
  closed := rfl
  named := h.named
  last_whole := fun b hb x hx => List.mem_append.mpr (.inl (h.last_whole b hb x hx))

theorem Chronicle.job {w' : Repo} {l : BackupLocals} (h : Chronicle w done)
    (hdone : JobDone w l w') : Chronicle (w'.conclude l.payload) (record done l.payload) := by
  unfold JobDone at hdone
  unfold Repo.conclude record
  split at hdone
  · rename_i hsuccess
    rw [if_pos hsuccess, if_pos hsuccess]
    refine ⟨hdone.sane, rfl, ?_, fun b hb s hs => ?_⟩
    · show List.Forall₂ _ (done ++ [l.payload]) (w'.backups ++ [w'.taken])
      rw [hdone.backups]
      exact List.rel_append h.named (.cons hdone.backed.2 .nil)
    · have hb' : (w'.backups ++ [w'.taken]).getLast? = some b := hb
      rw [List.getLast?_append, List.getLast?_singleton, Option.some_or] at hb'
      cases hb'
      exact hdone.whole s hs
  · rename_i hfailed
    rw [if_neg hfailed, if_neg hfailed]
    refine ⟨hdone.sane.reopen, rfl, ?_, fun b hb s hs => ?_⟩
    · show List.Forall₂ _ done w'.backups
      rw [hdone.backups]
      exact h.named
    · have hb' : w.backups.getLast? = some b := hdone.backups ▸ hb
      show s ∈ w'.snapshots
      rw [hdone.snapshots]
      exact List.mem_append.mpr (.inl (h.last_whole b hb' s hs))

/-- **The invariant along a history whose retention runs are aligned.** -/
theorem History.chronicle (h : History (aligned cal instanceId) settings instanceId destination w
    done) : Chronicle w done := by
  induction h with
  | start => exact ⟨Repo.sane_empty, rfl, .nil, fun _ hb => by cases hb⟩
  | orphan before fresh ih => exact ih.orphan fresh
  | job before run ih => exact ih.job ((backupInstance_done ih.sane ih.closed).at_return run)

/-- The snapshots of a backup that is named are there, as far as the payload can tell. -/
theorem exists_iff_mem (h : w.Sane) {b : List Snapshot} (hb : b ∈ w.backups) {s : Snapshot}
    (hs : s ∈ b) : w.Exists s.id ↔ s ∈ w.snapshots := by
  constructor
  · intro hexists
    obtain ⟨s', hs', hid⟩ := List.mem_map.mp hexists
    rwa [← h.one_id s' s (.inl hs') (.inr ⟨b, hb, hs⟩) hid]
  · exact fun hmem => List.mem_map.mpr ⟨s, hmem, rfl⟩

/-- **Retention never breaks a backup**, along every history whose retention runs are
aligned with the backups: the last successful backup is whole, and every earlier one
is whole or gone. -/
theorem retention_respects_backups (cal : Calendar) (settings : Settings) (instanceId : String)
    (destination : Option Destination) (w : Repo) (done : List BackupPayload)
    (h : History (aligned cal instanceId) settings instanceId destination w done) :
    (∀ p, done.getLast? = some p → ∀ id ∈ p.artifacts, w.Exists id) ∧
    ∀ p ∈ done, (∀ id ∈ p.artifacts, w.Exists id) ∨ ∀ id ∈ p.artifacts, ¬ w.Exists id := by
  have hinv := h.chronicle
  constructor
  · intro p hp id hid
    rw [List.getLast?_eq_head?_reverse] at hp
    obtain ⟨rest, hrest⟩ : ∃ rest, done.reverse = p :: rest := by
      cases hrev : done.reverse with
      | nil => rw [hrev] at hp; cases hp
      | cons q rest =>
        rw [hrev] at hp
        cases hp
        exact ⟨rest, rfl⟩
    have hnamed := List.forall₂_reverse_iff.mpr hinv.named
    rw [hrest] at hnamed
    obtain ⟨b, bs, hpb, -, hbs⟩ := List.forall₂_cons_left_iff.mp hnamed
    have hlast : w.backups.getLast? = some b := by
      rw [List.getLast?_eq_head?_reverse, hbs]
      rfl
    obtain ⟨s, hs, rfl⟩ := List.mem_map.mp ((hpb id).mp hid)
    exact List.mem_map.mpr ⟨s, hinv.last_whole b hlast s hs, rfl⟩
  · intro p hp
    obtain ⟨b, hb, hpb⟩ : ∃ b ∈ w.backups, ∀ id, id ∈ p.artifacts ↔ id ∈ b.map Snapshot.id := by
      obtain ⟨n, hn, rfl⟩ := List.mem_iff_getElem.mp hp
      have hlen := hinv.named.length_eq
      exact ⟨w.backups[n], List.getElem_mem _, hinv.named.get hn (hlen ▸ hn)⟩
    rcases hinv.sane.whole_or_gone b hb with ⟨hall, -⟩ | hnone
    · refine .inl fun id hid => ?_
      obtain ⟨s, hs, rfl⟩ := List.mem_map.mp ((hpb id).mp hid)
      exact (exists_iff_mem hinv.sane hb hs).mpr (hall s hs)
    · refine .inr fun id hid => ?_
      obtain ⟨s, hs, rfl⟩ := List.mem_map.mp ((hpb id).mp hid)
      exact fun hex => hnone s hs ((exists_iff_mem hinv.sane hb hs).mp hex)

end History

/-! ### A hot backup of an application with a database -/

/-- Days, weeks, and months of thirty days. -/
def plainCalendar : Calendar where
  day t := t / 86400
  week t := t / 604800
  month t := t / 2592000
  day_mono _ _ h := Int.ediv_le_ediv (by decide) h
  week_mono _ _ h := Int.ediv_le_ediv (by decide) h
  month_mono _ _ h := Int.ediv_le_ediv (by decide) h

/-- The database of the application, with its dump hook. -/
def database : Docker.Container :=
  { id := "c1", name := "i-db-1",
    labels := [("com.docker.compose.service", "db"), ("com.greffon.backup.dump", "pg_dump")],
    status := "running", stateStatus := some "running", exitCode := some 0,
    policyName := some "always", health := some "healthy", volumeMounts := ["i_db"] }

/-- Ids for the snapshots. -/
def snapshotName : Nat → String
  | 0 => "da7a"
  | 1 => "d00b"
  | _ => "face"

theorem clip_snapshotName : (n : Nat) → clip (snapshotName n) = snapshotName n
  | 0 => rfl
  | 1 => rfl
  | _ + 2 => show clip "face" = "face" from rfl

/-- A snapshot every five seconds, from ten in the morning. -/
def nextSnapshot (w : Repo) : Snapshot :=
  ⟨snapshotName w.used.length, 36000 + 5 * w.used.length⟩

instance (w : Repo) (s : Snapshot) : Decidable (w.Fresh s) := inferInstanceAs (Decidable (_ ∧ _))

/-- Take the next snapshot, or fail. -/
def snapshotNext (w : Repo) : Ended × Repo :=
  if w.Fresh (nextSnapshot w) then
    ({ returncode := 0,
       stdout := [.object { summary := some ((nextSnapshot w).id, some 4096) }] },
      w.take (nextSnapshot w))
  else ({ returncode := 1 }, w)

/-- Every command on the snapshots of `i` succeeds; a careful repository refuses a
retention run with a policy. -/
def ended (careful : Bool) (w : Repo) : ResticCommand → Ended × Repo
  | .backup tag =>
    if tag = instanceTag "i" then snapshotNext w else ({ returncode := 0 }, w)
  | .backupStdin _ tag =>
    if tag = instanceTag "i" then snapshotNext w else ({ returncode := 0 }, w)
  | .forget tag (.calendar daily weekly monthly) =>
    if tag = instanceTag "i" then
      if careful && !decide (Retention.Void (plainCalendar.rules daily weekly monthly)) then
        ({ returncode := 1 }, w)
      else ({ returncode := 0 }, w.retain (plainCalendar.rules daily weekly monthly))
    else ({ returncode := 0 }, w)
  | _ => ({ returncode := 0 }, w)

/-- Everything else succeeds too, and `i` has one data volume. -/
def sidecar (careful : Bool) (w : Repo) (c : BackupCall) : Raises Answer JobError c × Repo :=
  match c with
  | .await (.restic run) => (.ok (ended careful w run.command).1, (ended careful w run.command).2)
  | .listContainers _ | .listInstanceContainers _ => (.ok [database], w)
  | .listVolumes i => (.ok [i ++ "_data"], w)
  | .shlexSplit command => (.ok [command], w)
  | c => (c.eventless, w)

theorem snapshots_next (w : Repo) : Snapshots w (.ok (snapshotNext w).1) (snapshotNext w).2 := by
  unfold snapshotNext
  split
  · rename_i hfresh
    refine .inl ⟨nextSnapshot w, hfresh, rfl, fun ended hended _ => ⟨some 4096, ?_⟩⟩
    cases hended
    show Except.ok (clip (snapshotName w.used.length), some 4096) = _
    rw [clip_snapshotName]
    rfl
  · refine .inr ⟨rfl, fun ended hended => ?_⟩
    cases hended
    exact one_ne_zero

theorem restic_sidecar (careful : Bool) (w : Repo) (c : BackupCall) :
    (restic plainCalendar "i").serve w c (sidecar careful w c).1 (sidecar careful w c).2 := by
  cases c with
  | await child =>
    cases child with
    | dockerExec _ _ _ => rfl
    | restic run =>
      obtain ⟨env, command, mounts, readOnly⟩ := run
      cases command with
      | backup tag =>
        by_cases htag : tag = instanceTag "i"
        · simpa only [restic, sidecar, ended, if_pos htag] using snapshots_next w
        · simp only [restic, sidecar, ended, if_neg htag]
      | backupStdin file tag =>
        by_cases htag : tag = instanceTag "i"
        · simpa only [restic, sidecar, ended, if_pos htag] using snapshots_next w
        · simp only [restic, sidecar, ended, if_neg htag]
      | forget tag keep =>
        cases keep with
        | last n => rfl
        | calendar daily weekly monthly =>
          by_cases htag : tag = instanceTag "i"
          · simp only [restic, sidecar, ended, if_pos htag]
            split
            · refine .inr ⟨rfl, fun ended hended => ?_⟩
              cases hended
              exact one_ne_zero
            · exact .inl rfl
          · simp only [restic, sidecar, ended, if_neg htag]
      | _ => rfl
  | _ => rfl

theorem aligned_sidecar (w : Repo) (c : BackupCall) :
    (aligned plainCalendar "i").serve w c (sidecar true w c).1 (sidecar true w c).2 := by
  refine ⟨restic_sidecar true w c, ?_⟩
  cases c with
  | await child =>
    cases child with
    | dockerExec _ _ _ => trivial
    | restic run =>
      obtain ⟨env, command, mounts, readOnly⟩ := run
      cases command with
      | forget tag keep =>
        cases keep with
        | last n => trivial
        | calendar daily weekly monthly =>
          by_cases hvoid : Retention.Void (plainCalendar.rules daily weekly monthly)
          · exact .inr (.inl hvoid)
          · refine .inl ?_
            simp only [sidecar, ended, hvoid, decide_false, Bool.not_false, Bool.and_true, if_true]
            split <;> rfl
      | _ => trivial
  | _ => trivial

/-- A greffer with this policy. -/
def withPolicy (daily weekly monthly : Int) : Settings where
  grefferBackupRepo := some "/backups"
  resticPassword := some "secret"
  grefferId := "g"
  backupKeepDaily := daily
  backupKeepWeekly := weekly
  backupKeepMonthly := monthly

/-- A hot backup of instance `i`. -/
def hotBackup (settings : Settings) :
    Prog (Raises Answer JobError) (Except JobError Unit × BackupLocals) :=
  backupInstance settings "i" "b" none (some [("data", "data"), ("db", "database")]) true
    { payload := { backupId := "b", status := .failed } }

/-- Its two snapshots. -/
def dataSnapshot : Snapshot := ⟨"da7a", 36000⟩

def dumpSnapshot : Snapshot := ⟨"d00b", 36005⟩

/-- Its payload. -/
def hotResult : BackupPayload where
  backupId := "b"
  status := .success
  snapshotId := some "da7a"
  bytesAdded := some 8192
  manifest := some [("data", "da7a"), ("db:db", "d00b")]

/-- The group after a hot backup without retention. -/
def everything : Repo where
  snapshots := [dataSnapshot, dumpSnapshot]
  used := ["d00b", "da7a"]
  backups := [[dataSnapshot, dumpSnapshot]]

theorem retention_respects_backups_unlimited :
    (∀ p, [hotResult].getLast? = some p → ∀ id ∈ p.artifacts, everything.Exists id) ∧
    ∀ p ∈ [hotResult], (∀ id ∈ p.artifacts, everything.Exists id) ∨
      ∀ id ∈ p.artifacts, ¬ everything.Exists id := by
  have run : Run (aligned plainCalendar "i") {} (hotBackup (withPolicy 0 0 0))
      { snapshots := [dataSnapshot, dumpSnapshot], used := ["d00b", "da7a"],
        taken := [dataSnapshot, dumpSnapshot] } (.pure (.ok (), { payload := hotResult })) :=
    Prog.run_evalFor (h := sidecar true) aligned_sidecar 22 _ _
  exact retention_respects_backups plainCalendar (withPolicy 0 0 0) "i" none _ _ (.job .start run)

/-- **The retention run after a hot backup removes its data**: the dump was taken later
on the same day. -/
theorem hot_backup_loses_data : ∃ w done p,
    History (restic plainCalendar "i") (withPolicy 7 4 6) "i" none w done ∧
      done.getLast? = some p ∧ ∃ id ∈ p.artifacts, ¬ w.Exists id := by
  have run : Run (restic plainCalendar "i") {} (hotBackup (withPolicy 7 4 6))
      { snapshots := [dumpSnapshot], used := ["d00b", "da7a"],
        taken := [dataSnapshot, dumpSnapshot] } (.pure (.ok (), { payload := hotResult })) :=
    Prog.run_evalFor (h := sidecar false) (restic_sidecar false) 22 _ _
  refine ⟨_, _, _, .job .start run, rfl, "da7a", ?_, ?_⟩
  · decide
  · show "da7a" ∉ ["d00b"]
    decide

end Greffer.Backup

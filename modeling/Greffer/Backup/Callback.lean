import Greffer.Backup.Footprints

/-! # One callback per accepted job

What the manager and the next operation on the instance see of an accepted job:
the lock is released once, and then one terminal result is posted.

The lock is released through a one-shot closure, from the job and again from the
wrapper of its thread (`Desk.release`).  Everything between the acceptance and
the report runs inside a `try`, **except the look at the containers at the very
start and the cleanup itself**: an exception there leaves the thread without a
callback.  `Reports` are the conditions under which nothing escapes there.
-/
namespace Greffer.Backup
open Effects

/-- What others see of a job. -/
inductive Event where
  | released
  /-- The result was sent, whatever became of the request. -/
  | posted (result : Result)

/-- A result that ends the run on the manager. -/
def Result.Terminal : Result → Prop
  | .backup p => p.status ≠ .overwriting
  | .restore p => p.status ≠ .overwriting

/-- Whether the job has listed the containers; whether the lock is held through its
closure; what others have seen. -/
structure Desk where
  looked : Bool := false
  held : Bool := false
  log : List Event := []

namespace Desk

/-- The closure of `_release_once`. -/
def release (w : Desk) : Desk :=
  if w.held then { w with held := false, log := w.log ++ [.released] } else w

/-- The job holds the lock, and nothing has been said. -/
def Open (w : Desk) : Prop := w.held = true ∧ w.log = []

/-- The result has been posted, after the release. -/
def Done (result : Result) (w : Desk) : Prop :=
  w.held = false ∧ w.log = [.released, .posted result]

/-- The order of things: first the release, then one terminal result. -/
def Orderly (w : Desk) : Prop :=
  w.log = [] ∨ w.log = [.released] ∨
    ∃ result, result.Terminal ∧ w.log = [.released, .posted result]

theorem Open.orderly {w : Desk} (h : w.Open) : w.Orderly := .inl h.2

theorem Done.orderly {w : Desk} {result : Result} (h : w.Done result) (ht : result.Terminal) :
    w.Orderly := .inr (.inr ⟨result, ht, h.2⟩)

theorem Done.release {w : Desk} {result : Result} (h : w.Done result) :
    w.release.Done result := by
  unfold Desk.release
  rw [h.1]
  exact h

end Desk

/-- The environment.  Releasing a lock that is held and noting a hand-off in memory do
not fail. -/
def desk : Machine (Raises Answer JobError) Desk where
  serve w c r w' :=
    match c, r with
    | .listContainers _, _ => w' = { w with looked := true }
    | .acquireLock _, .ok true => w' = { w with held := true }
    | .releaseLock, .ok () => w' = w.release
    | .releaseLock, .error _ => False
    | .reserveHandoff _, .error _ => False
    | .post _ result, _ => w' = { w with log := w.log ++ [.posted result] }
    | _, _ => w' = w

/-- `OSError`. -/
def JobError.isOSError : JobError → Bool
  | .raised (.osError _) => true
  | _ => false

/-- What `_repo_stats` makes of the output raises nothing that it does not swallow. -/
def StatsReadable (out : List OutLine) : Prop :=
  (∀ e, resticStatsTotalSize out = .error e → statsSwallows e = true) ∧
  ∀ total e, resticStatsTotalSize out = .ok (some total) → total.toInt = .error e →
    statsSwallows (.raised e) = true

/-- The steps after which the job still reports.  The first look at the containers
succeeds; removing the backup marker and writing the restore's result fail with
nothing but an `OSError`; `restic stats` with nothing that is not swallowed; and
the token can be read. -/
def Reports (w : Desk) (c : BackupCall) (r : Raises Answer JobError c) (_ : Desk) : Prop :=
  match c, r with
  | .listContainers _, .error _ => w.looked = true
  | .unlink (.backupMarker _), .error e => e.isOSError = true
  | .writeText (.restoreState _ _) (.state p), .error e =>
    p.status ≠ .overwriting → e.isOSError = true
  | .start (.restic run), .error e => run.command = .stats → statsSwallows e = true
  | .await (.restic run), .error e => run.command = .stats → statsSwallows e = true
  | .await (.restic run), .ok ended =>
    run.command = .stats → ended.returncode = 0 → StatsReadable ended.stdout
  | .resolveToken, .error _ => False
  | _, _ => True

/-- The environment all of whose steps let the job report. -/
abbrev reporting : Machine (Raises Answer JobError) Desk := desk.restrict Reports

/-! ## What a step does -/

/-- The kinds of calls that others see, or that take the lock. -/
def Kind.seen : Kind → Prop
  | .release => True
  | .post _ => True
  | .acquire => True
  | _ => False

section Steps
variable {w w' : Desk} {c : BackupCall} {r : Raises Answer JobError c}

/-- Behind closed doors. -/
theorem desk_unseen (hs : desk.serve w c r w') (hkind : ¬ c.kind.seen) :
    w'.held = w.held ∧ w'.log = w.log := by
  cases c with
  | listContainers n => rw [show w' = _ from hs]; exact ⟨rfl, rfl⟩
  | acquireLock i => exact absurd trivial hkind
  | releaseLock => exact absurd trivial hkind
  | post i result => exact absurd trivial hkind
  | reserveHandoff i =>
    cases r with
    | ok u => rw [show w' = w from hs]; exact ⟨rfl, rfl⟩
    | error e => exact absurd hs id
  | _ => rw [show w' = w from hs]; exact ⟨rfl, rfl⟩

theorem open_serve (hs : desk.serve w c r w') (h : w.Open) (hkind : ¬ c.kind.seen) : w'.Open := by
  obtain ⟨hheld, hlog⟩ := desk_unseen hs hkind
  exact ⟨hheld.trans h.1, hlog.trans h.2⟩

theorem done_serve {result : Result} (hs : desk.serve w c r w') (h : w.Done result)
    (hkind : ¬ c.kind.seen) : w'.Done result := by
  obtain ⟨hheld, hlog⟩ := desk_unseen hs hkind
  exact ⟨hheld.trans h.1, hlog.trans h.2⟩

/-- The lock is released through a closure that has not been used. -/
theorem release_serve {r : Raises Answer JobError .releaseLock}
    (hs : desk.serve w .releaseLock r w') (h : w.Open) :
    r = .ok () ∧ w'.held = false ∧ w'.log = [.released] := by
  cases r with
  | error e => exact absurd hs id
  | ok u =>
    refine ⟨rfl, ?_⟩
    rw [show w' = w.release from hs]
    unfold Desk.release
    rw [if_pos h.1, h.2]
    exact ⟨rfl, rfl⟩

theorem release_again {result : Result} {r : Raises Answer JobError .releaseLock}
    (hs : desk.serve w .releaseLock r w') (h : w.Done result) : w'.Done result := by
  cases r with
  | error e => exact absurd hs id
  | ok u =>
    rw [show w' = w.release from hs]
    exact h.release

end Steps

section Frames
variable {w : Desk} {α : Type}

theorem open_within {m : Job α} (hm : Within (fun k => ¬ k.seen) m) (h : w.Open) :
    m.Always reporting Desk.Open (fun _ _ => True) w := by
  refine (hm.always (I := Desk.Open) (fun w c r w' hk hI hs => ?_) h).mono fun _ _ _ _ => trivial
  exact open_serve hs.1 hI hk

/-- A file operation whose only failure is an `OSError` raises nothing. -/
theorem ignoringOSError_ok {m : Job Unit} (hm : m.Always reporting Desk.Open
      (fun r _ => ∀ e, r = .error e → e.isOSError = true) w) :
    (ignoringOSError m).Always reporting Desk.Open (fun r _ => r = .ok ()) w := by
  unfold ignoringOSError
  rw [Action.always_tryExcept]
  refine hm.mono ?_
  rintro (e | ⟨⟩) w₁ h₁ he
  · have hos := he e rfl
    dsimp only
    split
    · exact ⟨h₁, rfl⟩
    · rename_i hnot
      revert hos
      unfold JobError.isOSError
      split
      · exact fun _ => absurd rfl (hnot _)
      · exact fun hx => by cases hx
  · rfl

theorem outcome_ok {m : Job α} (hm : Within (fun k => ¬ k.seen) m) (h : w.Open) :
    m.outcome.Always reporting Desk.Open (fun r _ => ∃ x, r = .ok x) w :=
  Action.always_outcome.mpr ((open_within hm h).mono fun r _ _ _ => ⟨r, rfl⟩)

end Frames

/-! ## The report -/

section Report
variable {w : Desk}

/-- **One post**, of this result, and it is the last thing others see. -/
theorem postCallback_done {settings : Settings} {instanceId : String} {result : Result}
    (ht : result.Terminal) (h : w.held = false ∧ w.log = [.released]) :
    (postCallback settings instanceId result).Always reporting Desk.Orderly
      (fun _ w' => w'.Done result) w := by
  have horderly : ∀ w : Desk, w.log = [.released] → w.Orderly := fun _ hw => .inr (.inl hw)
  have hsend : ∀ w : Desk, w.held = false ∧ w.log = [.released] → (do
      let status ← call (.post instanceId result)
      return decide (200 ≤ status ∧ status < 300) : Job Bool).Always reporting Desk.Orderly
      (fun _ w' => w'.Done result) w := by
    intro w hw
    rw [Action.always_bind]
    refine ⟨horderly w hw.2, fun r w₁ hs => ?_⟩
    have hdone : w₁.Done result := by
      rw [show w₁ = _ from hs.1]
      exact ⟨hw.1, by rw [hw.2]; rfl⟩
    cases r with
    | error e => exact ⟨hdone.orderly ht, hdone⟩
    | ok status => exact ⟨hdone.orderly ht, hdone.orderly ht, hdone⟩
  unfold postCallback
  rw [Action.always_tryExcept]
  refine Action.Always.mono (Q := fun _ w' => w'.Done result) ?_ ?_
  · rw [Action.always_ite]
    refine ⟨fun _ => ?_, fun _ => hsend w h⟩
    rw [Action.always_bind]
    refine ⟨horderly w h.2, ?_⟩
    rintro (e | token) w₁ hs
    · exact absurd hs.2 id
    · rw [show w₁ = w from hs.1]
      exact ⟨horderly w h.2, hsend w h⟩
  · rintro (e | acked) w₁ h₁ hdone
    · dsimp only
      split <;> exact ⟨h₁, hdone⟩
    · exact hdone

end Report

/-! ## The backup -/

theorem ensureRepo_returns {settings : Settings} : (ensureRepo settings).Returns
    fun r => ∀ u, r = .ok u → ∃ env, resticEnv settings = .ok env := by
  cases henv : resticEnv settings with
  | error e =>
    rw [ensureRepo_of_env henv]
    exact fun _ hx => by cases hx
  | ok env => exact .of_forall fun _ _ _ => ⟨env, rfl⟩

theorem runHotBackup_returns {settings : Settings} {instanceId backupId : String}
    {volumeClasses : List (String × String)} :
    (runHotBackup settings instanceId backupId volumeClasses).Returns
      fun r => ∀ p, r = .ok p → p.status = .success ∧ ∃ env, resticEnv settings = .ok env := by
  have herror : ∀ e, ∀ p, (Except.error e : Except JobError BackupPayload) = .ok p →
      p.status = .success ∧ ∃ env, resticEnv settings = .ok env := fun _ _ hx => by cases hx
  unfold runHotBackup
  refine .thenAny herror fun mounts => ?_
  split
  · exact fun _ hx => by cases hx
  refine .thenAny herror fun hooks => ?_
  refine .then ensureRepo_returns herror fun _ henv => ?_
  refine .thenAny herror fun data => ?_
  refine .thenAny herror fun all => ?_
  intro p hp
  cases hp
  exact ⟨rfl, henv⟩

/-- The payload ends the run, and a success means that there is a repository. -/
def BackupLocals.Sound (settings : Settings) (l : BackupLocals) : Prop :=
  l.payload.status ≠ .overwriting ∧
    (l.payload.status = .success → ∃ env, resticEnv settings = .ok env)

section Backup
variable {settings : Settings} {instanceId backupId : String}
  {volumeClasses : Option (List (String × String))} {l : BackupLocals} {w : Desk}

theorem coldSnapshot_returns (h : l.Sound settings) :
    (coldSnapshot settings instanceId backupId).Returns (fun _ l => l.Sound settings) l := by
  unfold coldSnapshot
  refine Routine.returns_lift_thenAny (fun _ => h) fun mounts => ?_
  refine Routine.returns_lift_then ensureRepo_returns (fun _ => h) fun _ henv => ?_
  refine Routine.returns_lift_thenAny (fun _ => h) fun ended => ?_
  split
  · exact h
  refine Routine.returns_lift_thenAny (fun _ => h) fun ⟨snapshotId, bytesAdded⟩ => ?_
  dsimp only
  rw [Routine.returns_assign]
  exact ⟨by simp, fun _ => henv⟩

theorem backupBody_returns {wasRunning : Bool} (h : l.Sound settings) :
    (backupBody settings instanceId backupId volumeClasses wasRunning).Returns
      (fun _ l => l.Sound settings) l := by
  have hany : ∀ {α β : Type} {m : Job α} {f : α → BackupSteps β},
      (∀ a, (f a).Returns (fun _ l => l.Sound settings) l) →
      ((monadLift m : BackupSteps α) >>= f).Returns (fun _ l => l.Sound settings) l :=
    fun hf => Routine.returns_lift_thenAny (fun _ => h) hf
  unfold backupBody
  refine hany fun st => ?_
  split
  · exact h
  split
  · refine Routine.returns_lift_then runHotBackup_returns (fun _ => h) fun p hp => ?_
    exact ⟨by rw [show p.status = _ from hp.1]; decide, fun _ => hp.2⟩
  split
  · refine hany fun _ => hany fun _ => ?_
    rw [Routine.returns_bind, Routine.returns_assign]
    have h' : ({ l with stoppedForBackup := true } : BackupLocals).Sound settings := h
    refine Routine.returns_lift_thenAny (fun _ => h') fun rests => ?_
    split
    · exact coldSnapshot_returns h'
    · exact h'
  · exact coldSnapshot_returns h

/-- **The `try` never raises.** -/
theorem backupTry_open {wasRunning : Bool} (hsound : l.Sound settings) (h : w.Open) :
    (Routine.tryExcept (backupBody settings instanceId backupId volumeClasses wasRunning)
      backupHandler).Always reporting Desk.Open
      (fun r l _ => r = .ok () ∧ l.Sound settings) l w := by
  have hfootprint : RWithin (fun k => ¬ k.seen)
      (backupBody settings instanceId backupId volumeClasses wasRunning) := by
    refine backupBody_within ?_ ?_ ⟨?_, ?_, ?_⟩ ?_ ?_ (fun _ => ?_) ?_ ?_
    all_goals exact fun hk => hk
  rw [Routine.always_tryExcept]
  have hframe := (hfootprint.always (I := Desk.Open) (M := reporting)
    (fun w c r w' hk hI hs => open_serve hs.1 hI hk) h).returning
      (backupBody_returns (l := l) hsound)
  refine hframe.mono ?_
  rintro (e | ⟨⟩) l₁ w₁ h₁ ⟨hsound₁, -⟩
  · cases e <;> exact ⟨h₁, rfl, hsound₁⟩
  · exact ⟨rfl, hsound₁⟩

/-- What `restic stats` says is taken or left, but raises nothing. -/
theorem repoStats_ok (henv : ∃ env, resticEnv settings = .ok env) (h : w.Open) :
    (repoStats settings).Always reporting Desk.Open (fun r _ => ∃ x, r = .ok x) w := by
  obtain ⟨env, henv⟩ := henv
  unfold repoStats
  rw [Action.always_tryExcept]
  have hswallowed : ∀ {e : JobError} {w : Desk}, w.Open → statsSwallows e = true →
      (if statsSwallows e then return none else Action.raise e : Job (Option Int)).Always reporting
        Desk.Open (fun r _ => ∃ x, r = .ok x) w := by
    intro e w hw he
    rw [if_pos he]
    exact ⟨hw, none, rfl⟩
  unfold runRestic
  rw [henv]
  rw [Action.always_bind, Action.always_bind]
  refine ⟨h, ?_⟩
  rw [onOk_ok, Action.always_bind]
  refine ⟨h, ?_⟩
  rintro (e | ⟨⟩) w₁ hs
  · have h₁ := open_serve hs.1 h fun hk => hk
    exact ⟨h₁, hswallowed h₁ (hs.2 rfl)⟩
  have h₁ := open_serve hs.1 h fun hk => hk
  refine ⟨h₁, h₁, ?_⟩
  rintro (e | ended) w₂ hs₂
  · have h₂ := open_serve hs₂.1 h₁ fun hk => hk
    exact ⟨h₂, hswallowed h₂ (hs₂.2 rfl)⟩
  have h₂ := open_serve hs₂.1 h₁ fun hk => hk
  refine ⟨h₂, ?_⟩
  rw [onOk_ok, Action.always_ite]
  refine ⟨fun _ => ⟨h₂, none, rfl⟩, fun hrc => ?_⟩
  obtain ⟨hreadable, hint⟩ := hs₂.2 rfl (by simpa using hrc)
  rw [Action.always_bind, Action.always_ofExcept]
  refine ⟨h₂, ?_⟩
  cases hsize : resticStatsTotalSize ended.stdout with
  | error e => exact hswallowed h₂ (hreadable e hsize)
  | ok found =>
    rw [onOk_ok]
    cases found with
    | none => exact ⟨h₂, none, rfl⟩
    | some total =>
      rw [Action.always_bind, Action.always_ofExcept]
      refine ⟨h₂, ?_⟩
      cases htotal : total.toInt with
      | error e => exact hswallowed h₂ (hint total e hsize htotal)
      | ok bytes => exact ⟨h₂, some bytes, rfl⟩

/-- **The cleanup never raises.** -/
theorem backupCleanup_open {destination : Option Destination} (hsound : l.Sound settings)
    (h : w.Open) :
    (backupCleanup settings instanceId destination).Always reporting Desk.Open
      (fun r l _ => r = .ok () ∧ l.payload.status ≠ .overwriting) l w := by
  -- None of these raises: each of them swallows what can happen to it.
  have hremove : ∀ w : Desk, w.Open → (remove (.backupMarker instanceId)).Always reporting
      Desk.Open (fun r _ => r = .ok ()) w := by
    intro w hw
    refine ignoringOSError_ok ⟨hw, fun r w₁ hs => ⟨open_serve hs.1 hw fun hk => hk, ?_⟩⟩
    rintro e rfl
    exact hs.2
  have hforget : ∀ w : Desk, w.Open → (forget settings instanceId false).Always reporting
      Desk.Open (fun r _ => r = .ok ()) w := by
    intro w hw
    unfold forget
    rw [Action.always_bind]
    refine (outcome_ok (runRestic_within fun hk => hk) hw).mono ?_
    rintro _ w₁ h₁ ⟨x, rfl⟩
    exact ⟨h₁, rfl⟩
  have hretain : ∀ w : Desk, w.Open → (backupRetain settings instanceId destination l).Always
      reporting Desk.Open (fun r l _ => r = .ok () ∧ l.payload.status ≠ .overwriting) l w := by
    intro w hw
    unfold backupRetain
    rw [Routine.always_bind, Routine.always_monadLift]
    refine (hremove w hw).mono ?_
    rintro _ w₁ h₁ rfl
    rw [Routine.onOk_ok, Routine.always_ite]
    refine ⟨fun hsuccess => ?_, fun _ => ⟨h₁, rfl, hsound.1⟩⟩
    rw [Routine.always_bind, Routine.always_monadLift]
    refine (hforget w₁ h₁).mono ?_
    rintro _ w₂ h₂ rfl
    rw [Routine.onOk_ok, Routine.always_ite]
    refine ⟨fun _ => ?_, fun _ => ⟨h₂, rfl, hsound.1⟩⟩
    rw [Routine.always_bind, Routine.always_monadLift]
    refine (repoStats_ok (hsound.2 hsuccess) h₂).mono ?_
    rintro _ w₃ h₃ ⟨bytes, rfl⟩
    rw [Routine.onOk_ok]
    cases bytes with
    | none => exact ⟨h₃, rfl, hsound.1⟩
    | some bytes => exact ⟨h₃, rfl, hsound.1⟩
  rw [backupCleanup_eq, Routine.always_bind]
  refine ⟨h, ?_⟩
  dsimp only [Routine.onOk]
  split
  · rw [Routine.always_bind, Routine.always_monadLift]
    have hrestart : Within (fun k => ¬ k.seen) (restart instanceId) :=
      call_within (c := .composeUp instanceId []) fun hk => hk
    refine (outcome_ok hrestart h).mono ?_
    rintro _ w₁ h₁ ⟨x, rfl⟩
    exact hretain w₁ h₁
  · exact hretain w h

theorem backupReport_done (hterminal : l.payload.status ≠ .overwriting) (h : w.Open) :
    (backupReport settings instanceId true).Always reporting Desk.Orderly
      (fun _ _ w => ∃ result, result.Terminal ∧ w.Done result) l w := by
  unfold backupReport
  simp only [if_true]
  rw [Routine.always_bind]
  refine ⟨h.orderly, fun r w₁ hs => ?_⟩
  obtain ⟨rfl, hreleased⟩ := release_serve hs.1 h
  have h₁ : w₁.Orderly := .inr (.inl hreleased.2)
  refine ⟨h₁, ?_⟩
  dsimp only [Routine.onOk]
  rw [Routine.always_bind]
  refine ⟨h₁, ?_⟩
  dsimp only [Routine.onOk]
  rw [Routine.always_bind, Routine.always_monadLift]
  have ht : (Result.backup l.payload).Terminal := hterminal
  refine (postCallback_done ht hreleased).mono ?_
  rintro (e | acked) w₂ h₂ hdone
  · exact ⟨.backup l.payload, hterminal, hdone⟩
  · exact ⟨h₂, .backup l.payload, hterminal, hdone⟩

end Backup

/-! ## The restore -/

/-- The payload ends the run. -/
def RestoreLocals.Final (l : RestoreLocals) : Prop := l.payload.status ≠ .overwriting

theorem final_kept : RestoreRequest.KeptByFailure RestoreLocals.Final where
  fail _ _ h := h
  failWithSafety _ l _ := by simp [RestoreLocals.Final, RestoreLocals.failWithSafety]
  safetyId _ _ h := h

theorem final_succeed (running : Bool) :
    (Routine.assign (RestoreLocals.succeed running) : RestoreSteps Unit).Keeps
      RestoreLocals.Final :=
  Routine.keeps_assign fun l _ => by simp [RestoreLocals.Final, RestoreLocals.succeed]

section Restore
variable (req : RestoreRequest) {l : RestoreLocals} {w : Desk}

theorem restoreDatabases_final : req.restoreDatabases.Keeps RestoreLocals.Final := by
  unfold RestoreRequest.restoreDatabases
  split
  · exact (final_succeed _).bind fun _ => Routine.keeps_pure _
  refine Routine.Keeps.bind (Routine.keeps_assign ?_) fun _ => Routine.keeps_lift.bind fun _ => ?_
  · exact fun _ h => h
  refine (req.restoreDumps_keeps final_kept _).bind fun done => ?_
  split
  · exact Routine.keeps_pure _
  · exact Routine.keeps_lift.bind fun _ => (final_succeed _).bind fun _ => Routine.keeps_pure _

theorem overwrite_final {mounts : List Mount} :
    (req.overwrite mounts).Keeps RestoreLocals.Final := by
  unfold RestoreRequest.overwrite
  refine Routine.Keeps.bind (Routine.keeps_assign ?_) fun _ =>
    (req.dataMounts_keeps final_kept).bind fun mounts => ?_
  · exact fun _ h => h
  cases mounts with
  | none => exact Routine.keeps_pure _
  | some mounts =>
    refine (req.overwriteData_keeps final_kept).bind fun done => ?_
    split
    · exact Routine.keeps_pure _
    refine (restoreDatabases_final req).bind fun done => ?_
    split
    · exact Routine.keeps_lift
    · exact Routine.keeps_pure _

/-- Whatever the job assigns, it ends the run. -/
theorem body_final {started : Bool} : (req.body started).Keeps RestoreLocals.Final := by
  refine (req.quiesce_keeps final_kept).bind fun rests => ?_
  split
  · exact Routine.keeps_pure _
  refine Routine.keeps_lift.bind fun _ => ?_
  split
  · exact (Routine.keeps_assign (final_kept.fail _)).bind fun _ => Routine.keeps_pure _
  refine Routine.keeps_lift.bind fun mounts => (req.takeSafety_keeps final_kept).bind fun done => ?_
  split
  · exact overwrite_final req
  · exact Routine.keeps_pure _

/-- **The `try` never raises.** -/
theorem restoreTry_open {started : Bool} (hfinal : l.Final) (h : w.Open) :
    (Routine.tryExcept (req.body started) RestoreRequest.handler).Always reporting Desk.Open
      (fun r l _ => r = .ok () ∧ l.Final) l w := by
  have hfootprint : RWithin (fun k => ¬ k.seen) (req.body started) := by
    refine req.body_within ?_ ?_ ?_ ?_ ⟨?_, ?_, ?_⟩ ?_ ?_ (fun _ _ => ?_) (fun _ => ?_)
      (fun _ _ => ?_) fun _ => ?_
    all_goals exact fun hk => hk
  rw [Routine.always_tryExcept]
  have hframe := (hfootprint.always (I := Desk.Open) (M := reporting)
    (fun w c r w' hk hI hs => open_serve hs.1 hI hk) h).returning (body_final req l hfinal)
  refine hframe.mono ?_
  rintro (e | ⟨⟩) l₁ w₁ h₁ ⟨hfinal₁, -⟩
  · cases e <;> exact ⟨h₁, rfl, hfinal₁⟩
  · exact ⟨rfl, hfinal₁⟩

/-- **The cleanup never raises.** -/
theorem cleanup_open {started : Bool} (hfinal : l.Final) (h : w.Open) :
    (req.cleanup started).Always reporting Desk.Open (fun r l' _ => r = .ok () ∧ l' = l) l w := by
  have hlast : ∀ w : Desk, w.Open →
      (writeJson req.stateFile (.state l.payload) : RestoreSteps Unit).Always reporting Desk.Open
        (fun r l' _ => r = .ok () ∧ l' = l) l w := by
    intro w hw
    rw [Routine.always_monadLift]
    have hwrite : (call (.writeText req.stateFile (.state l.payload))).Always reporting Desk.Open
        (fun r _ => ∀ e, r = .error e → e.isOSError = true) w := by
      refine ⟨hw, fun r w₁ hs => ⟨open_serve hs.1 hw fun hk => hk, ?_⟩⟩
      rintro e rfl
      exact hs.2 hfinal
    exact (ignoringOSError_ok hwrite).mono fun r _ _ hr => ⟨hr, rfl⟩
  have hfirst : ∀ {m : Job Unit}, Within (fun k => ¬ k.seen) m →
      ((monadLift m.outcome : RestoreSteps (Except JobError Unit)) >>= fun _ =>
        (writeJson req.stateFile (.state l.payload) : RestoreSteps Unit)).Always reporting
        Desk.Open (fun r l' _ => r = .ok () ∧ l' = l) l w := by
    intro m hm
    rw [Routine.always_bind, Routine.always_monadLift]
    refine (outcome_ok hm h).mono ?_
    rintro _ w₁ h₁ ⟨x, rfl⟩
    exact hlast w₁ h₁
  unfold RestoreRequest.cleanup
  rw [Routine.always_bind]
  refine ⟨h, ?_⟩
  dsimp only [Routine.onOk]
  split
  · refine hfirst (m := restart req.instanceId) ?_
    exact call_within (c := .composeUp req.instanceId []) fun hk => hk
  · split
    · refine hfirst (m := req.teardown) (req.teardown_within ?_ ?_ ?_)
      all_goals exact fun hk => hk
    · exact hlast w h

theorem report_done (hfinal : l.Final) (h : w.Open) :
    (req.report true).Always reporting Desk.Orderly
      (fun _ _ w => ∃ result, result.Terminal ∧ w.Done result) l w := by
  have hsend : ∀ w : Desk, w.held = false ∧ w.log = [.released] → (do
      if ← postCallback req.settings req.instanceId (.restore l.payload) then
        remove req.stateFile : RestoreSteps Unit).Always reporting Desk.Orderly
      (fun _ _ w => ∃ result, result.Terminal ∧ w.Done result) l w := by
    intro w hw
    rw [Routine.always_bind, Routine.always_monadLift]
    have ht : (Result.restore l.payload).Terminal := hfinal
    refine (postCallback_done ht hw).mono ?_
    rintro (e | acked) w₁ h₁ hdone
    · exact ⟨.restore l.payload, hfinal, hdone⟩
    rw [Routine.onOk_ok, Routine.always_ite]
    refine ⟨fun _ => ?_, fun _ => ⟨h₁, .restore l.payload, hfinal, hdone⟩⟩
    have hremove : RWithin (fun k => ¬ k.seen) (remove req.stateFile : RestoreSteps Unit) :=
      lift_within (remove_within fun hk => hk)
    refine (hremove.always (I := Desk.Done (.restore l.payload)) (M := reporting)
      (fun w c r w' hk hI hs => done_serve hs.1 hI hk) hdone).imp ?_ ?_
    · exact fun w hw => hw.orderly hfinal
    · exact fun _ _ w _ hw => ⟨.restore l.payload, hfinal, hw⟩
  have hrelease : ∀ w : Desk, w.Open → (do
      call .releaseLock
      if ← postCallback req.settings req.instanceId (.restore l.payload) then
        remove req.stateFile : RestoreSteps Unit).Always reporting Desk.Orderly
      (fun _ _ w => ∃ result, result.Terminal ∧ w.Done result) l w := by
    intro w hw
    rw [Routine.always_bind]
    refine ⟨hw.orderly, fun r w₁ hs => ?_⟩
    obtain ⟨rfl, hreleased⟩ := release_serve hs.1 hw
    exact ⟨.inr (.inl hreleased.2), hsend w₁ hreleased⟩
  unfold RestoreRequest.report
  simp only [if_true]
  rw [Routine.always_bind]
  refine ⟨h.orderly, ?_⟩
  dsimp only [Routine.onOk]
  split
  · rw [Routine.always_bind]
    refine ⟨h.orderly, ?_⟩
    rintro (e | ⟨⟩) w₁ hs
    · exact absurd hs.1 id
    · have h₁ : w₁.Open := open_serve hs.1 h fun hk => hk
      exact ⟨h₁.orderly, hrelease w₁ h₁⟩
  · exact hrelease w h

end Restore

/-! ## The thread -/

section Thread
variable {L : Type} {l : L} {w : Desk}

theorem firstLook_ok {instanceId : String} (hfirst : w.looked = false) (h : w.Open) :
    (getStatus instanceId).Always reporting Desk.Open (fun r _ => ∃ st, r = .ok st) w := by
  unfold getStatus
  rw [Action.always_bind]
  refine ⟨h, ?_⟩
  rintro (e | listed) w₁ hs
  · have hlooked : w.looked = true := hs.2
    rw [hfirst] at hlooked
    cases hlooked
  · have h₁ := open_serve hs.1 h fun hk => hk
    exact ⟨h₁, h₁, _, rfl⟩

/-- A job that reports, in its wrapper: **the second release does nothing**. -/
theorem lockedJob_done {job : Routine Answer JobError L Unit}
    (hjob : job.Always reporting Desk.Orderly
      (fun _ _ w => ∃ result, result.Terminal ∧ w.Done result) l w) :
    (lockedJob job).Always reporting Desk.Orderly
      (fun _ _ w => ∃ result, result.Terminal ∧ w.Done result) l w := by
  unfold lockedJob
  rw [Routine.always_tryFinally]
  refine hjob.mono fun r l₁ w₁ h₁ ⟨result, hterminal, hdone⟩ => ⟨h₁, fun r' w₂ hs => ?_⟩
  have hagain := release_again hs.1 hdone
  cases r' with
  | error e => exact ⟨hagain.orderly hterminal, result, hterminal, hagain⟩
  | ok u => exact ⟨hagain.orderly hterminal, result, hterminal, hagain⟩

theorem reported_of_quiet {m : Routine Answer JobError L Unit}
    {cleanup report : Routine Answer JobError L Unit} {P R : L → Prop}
    (hm : m.Always reporting Desk.Open (fun r l _ => r = .ok () ∧ P l) l w)
    (hcleanup : ∀ l w, P l → w.Open →
      cleanup.Always reporting Desk.Open (fun r l _ => r = .ok () ∧ R l) l w)
    (hreport : ∀ l w, R l → w.Open → report.Always reporting Desk.Orderly
      (fun _ _ w => ∃ result, result.Terminal ∧ w.Done result) l w) :
    (Routine.tryFinally m (do cleanup; report)).Always reporting Desk.Orderly
      (fun _ _ w => ∃ result, result.Terminal ∧ w.Done result) l w := by
  rw [Routine.always_tryFinally]
  refine hm.imp (fun _ h => h.orderly) ?_
  rintro _ l₁ w₁ h₁ ⟨rfl, hP⟩
  rw [Routine.always_bind]
  refine (hcleanup l₁ w₁ hP h₁).imp (fun _ h => h.orderly) ?_
  rintro _ l₂ w₂ h₂ ⟨rfl, hR⟩
  rw [Routine.onOk_ok]
  refine (hreport l₂ w₂ hR h₂).mono ?_
  rintro (e | ⟨⟩) l₃ w₃ - hdone <;> exact hdone

theorem backupThread_done {settings : Settings} {instanceId backupId : String}
    {destination : Option Destination} {volumeClasses : Option (List (String × String))}
    {l : BackupLocals} (hfirst : w.looked = false) (h : w.Open) :
    (backupThread settings instanceId backupId destination volumeClasses).Always reporting
      Desk.Orderly (fun _ _ w => ∃ result, result.Terminal ∧ w.Done result) l w := by
  refine lockedJob_done ?_
  unfold backupInstance
  rw [Routine.always_bind, Routine.always_assign]
  refine ⟨h.orderly, ?_⟩
  rw [Routine.onOk_ok, Routine.always_bind, Routine.always_monadLift]
  refine (firstLook_ok hfirst h).imp (fun _ h => h.orderly) ?_
  rintro _ w₁ h₁ ⟨st, rfl⟩
  rw [Routine.onOk_ok]
  refine reported_of_quiet (backupTry_open ?_ h₁) (fun l w hl hw => backupCleanup_open hl hw)
    fun l w hl hw => backupReport_done hl hw
  exact ⟨by simp, fun hx => by simp at hx⟩

theorem restoreThread_done {settings : Settings} {instanceId resticSnapshotId restoreId : String}
    {destination : Option Destination} {manifest volumeClasses : Option (List (String × String))}
    {l : RestoreLocals} (hfirst : w.looked = false) (h : w.Open) :
    (restoreThread settings instanceId resticSnapshotId restoreId destination manifest
      volumeClasses).Always reporting Desk.Orderly
      (fun _ _ w => ∃ result, result.Terminal ∧ w.Done result) l w := by
  refine lockedJob_done ?_
  unfold restoreInstance
  rw [Routine.always_bind, Routine.always_assign]
  refine ⟨h.orderly, ?_⟩
  rw [Routine.onOk_ok, Routine.always_bind, Routine.always_monadLift]
  refine (firstLook_ok hfirst h).imp (fun _ h => h.orderly) ?_
  rintro _ w₁ h₁ ⟨st, rfl⟩
  rw [Routine.onOk_ok]
  refine reported_of_quiet (restoreTry_open _ ?_ h₁)
    (fun l w hl hw => (cleanup_open _ hl hw).mono ?_) fun l w hl hw => report_done _ hl hw
  · simp [RestoreLocals.Final]
  · rintro r l' w' - ⟨hr, rfl⟩
    exact ⟨hr, hl⟩

/-- An accepted job holds its lock. -/
theorem spawn_accepted (instanceId : String) :
    (spawn instanceId).Always reporting (fun _ => True)
      (fun r w => r = .ok () → w.looked = false ∧ w.Open) {} := by
  unfold spawn
  rw [Action.always_bind]
  refine ⟨trivial, ?_⟩
  rintro (e | acquired) w₁ hs
  · exact ⟨trivial, fun hx => by cases hx⟩
  refine ⟨trivial, ?_⟩
  rw [onOk_ok]
  cases acquired with
  | false => exact ⟨trivial, fun hx => by cases hx⟩
  | true =>
    have h₁ : w₁ = { held := true } := hs.1
    subst h₁
    simp only [Bool.not_true, Bool.false_eq_true, if_false, Action.always_tryExcept]
    refine ⟨trivial, ?_⟩
    rintro (e | ⟨⟩) w₂ hs
    · refine ⟨trivial, ?_⟩
      dsimp only
      rw [Action.always_bind]
      refine ⟨trivial, ?_⟩
      rintro (e | ⟨⟩) w₃ hs
      · exact ⟨trivial, fun hx => by cases hx⟩
      · exact ⟨trivial, trivial, fun hx => by cases hx⟩
    · rw [show w₂ = _ from hs.1]
      exact ⟨trivial, fun _ => ⟨rfl, rfl, rfl⟩⟩

end Thread

theorem AcceptedJob.thread_done (job : AcceptedJob) {w : Desk} (hfirst : w.looked = false)
    (h : w.Open) : job.thread.Always reporting Desk.Orderly
      (fun _ w => ∃ result, result.Terminal ∧ w.Done result) w := by
  cases job with
  | backup settings i b dest classes =>
    exact Routine.always_run.mpr (backupThread_done hfirst h)
  | restore settings i snap r dest manifest classes =>
    exact Routine.always_run.mpr (restoreThread_done hfirst h)

/-! ## When a job reports -/

/-- **Exactly one callback, after exactly one release**, in every run whose steps let
the job report: wherever its thread is stopped the order has been kept, and once
it has returned the result has been posted. -/
theorem accepted_job_reports (job : AcceptedJob) (w₁ w' : Desk)
    (q : Prog (Raises Answer JobError) (Except JobError Unit))
    (accepted : Run reporting {} (spawn job.instanceId) w₁ (.pure (.ok ())))
    (run : Run reporting w₁ job.thread w' q) :
    w'.Orderly ∧ ∀ r, q = .pure r →
      ∃ result, result.Terminal ∧ w'.log = [.released, .posted result] := by
  obtain ⟨hfirst, hopen⟩ := (spawn_accepted job.instanceId).at_return accepted rfl
  have hthread := job.thread_done hfirst hopen
  refine ⟨hthread.at_stop run, ?_⟩
  rintro r rfl
  obtain ⟨result, hterminal, hdone⟩ := hthread.at_return run
  exact ⟨result, hterminal, hdone.2⟩

/-! ### A node on which nothing fails, except perhaps the docker daemon -/

/-- Every call succeeds; the daemon is down, or it lists no container. -/
def courteous (down : Bool) (w : Desk) (c : BackupCall) : Raises Answer JobError c × Desk :=
  match c with
  | .listContainers _ =>
    (if down then .error (.raised (.exception "docker daemon not reachable")) else .ok [],
      { w with looked := true })
  | .acquireLock _ => (.ok true, { w with held := true })
  | .releaseLock => (.ok (), w.release)
  | .post _ result => (.ok 200, { w with log := w.log ++ [.posted result] })
  | c => (c.eventless, w)

theorem desk_courteous (down : Bool) (w : Desk) (c : BackupCall) :
    desk.serve w c (courteous down w c).1 (courteous down w c).2 := by
  cases c <;> rfl

theorem reporting_courteous (w : Desk) (c : BackupCall) :
    reporting.serve w c (courteous false w c).1 (courteous false w c).2 := by
  refine ⟨desk_courteous false w c, ?_⟩
  cases c with
  | await child =>
    cases child with
    | restic run => exact fun _ _ => ⟨fun _ hx => (by cases hx), fun _ _ hx => (by cases hx)⟩
    | dockerExec _ _ _ => trivial
  | start child => cases child <;> trivial
  | writeText file content => cases file <;> cases content <;> trivial
  | unlink file => cases file <;> trivial
  | _ => trivial

/-- A backup of instance `i`. -/
def someBackup : AcceptedJob := .backup { grefferId := "g" } "i" "b" none none

theorem accepted_job_reports_missing :
    ((someBackup.thread.evalFor (courteous false) 8 { held := true }).1).Orderly ∧
      ∀ r, (someBackup.thread.evalFor (courteous false) 8 { held := true }).2 = .pure r →
        ∃ result, result.Terminal ∧
          ((someBackup.thread.evalFor (courteous false) 8 { held := true }).1).log =
            [.released, .posted result] :=
  accepted_job_reports someBackup { held := true } _ _
    (Prog.run_evalFor (h := courteous false) reporting_courteous 2 (spawn "i") {})
    (Prog.run_evalFor (h := courteous false) reporting_courteous 8 _ _)

/-- **The daemon is down when the thread starts**: the job is accepted, its lock is
released, and the manager never hears of it again. -/
theorem unreachable_daemon_never_reported : ∃ w₁ w' r,
    Run desk {} (spawn someBackup.instanceId) w₁ (.pure (.ok ())) ∧
    Run desk w₁ someBackup.thread w' (.pure r) ∧ w'.log = [.released] :=
  ⟨{ held := true }, _, _,
    Prog.run_evalFor (h := courteous true) (desk_courteous true) 2 (spawn "i") {},
    Prog.run_evalFor (h := courteous true) (desk_courteous true) 2 _ _, rfl⟩

end Greffer.Backup

import Greffer.Backup.RestoreQuiet

/-! # What a cold backup takes its snapshot of

A cold backup stops the instance, waits until a status read says `stopped`, and then
snapshots its volumes.  **It decides by one read and checks another**: whether to stop
the instance is decided by the status the job finds first; whether the instance is there
at all, by a second read.  An instance that comes up between the two — a start still at
work — is neither stopped nor missing.

The containers change as they like: every status read is answered by any list.
`cold_backup_quiescent` says for which first two reads the data snapshot is started only
when the last read before it found nothing running.
-/
namespace Greffer.Backup
open Effects Docker

/-- What the status reads have said, and whether the data snapshot was started when the
last of them had found a running container, or without any. -/
structure Watch where
  looks : Nat
  last : Option (List Container)
  violated : Bool

namespace Watch

/-- The last status read found nothing running. -/
def Quiet (w : Watch) : Prop := ∃ listed, w.last = some listed ∧ ∀ c ∈ listed, ¬ Active c

def quiet (w : Watch) : Bool :=
  match w.last with
  | none => false
  | some listed => listed.all fun c => c.ignoredForStatus || !c.isRunning

theorem quiet_iff {w : Watch} : w.quiet = true ↔ w.Quiet := by
  unfold quiet Quiet Active
  cases w.last with
  | none => simp
  | some listed =>
    simp only [List.all_eq_true, Bool.or_eq_true, Bool.not_eq_true', Option.some.injEq,
      exists_eq_left', not_and, Bool.not_eq_true]
    refine forall₂_congr fun c _ => ?_
    cases c.ignoredForStatus <;> simp

/-- After one more read. -/
def look (w : Watch) (listed : List Container) : Watch :=
  { w with looks := w.looks + 1, last := some listed }

/-- After a restic command has been started; the data snapshot is told by its tag. -/
def started (instanceId : String) (command : ResticCommand) (w : Watch) : Watch :=
  { w with violated := w.violated || (command == .backup (instanceTag instanceId) && !w.quiet) }

end Watch

/-- The daemon: the first two reads are answered by these lists, later ones by any. -/
def watching (instanceId : String) (first second : List Container) :
    Machine (Raises Answer JobError) Watch where
  serve w c r w' :=
    match c, r with
    | .listContainers _, .ok listed =>
      (w.looks = 0 → listed = first) ∧ (w.looks = 1 → listed = second) ∧ w' = w.look listed
    | .start (.restic run), .ok () => w' = w.started instanceId run.command
    | _, _ => w' = w

/-- The data snapshot was started on nothing but quiet reads. -/
def Watch.Safe (w : Watch) : Prop := w.violated = false

section Frames
variable {instanceId : String} {first second : List Container} {w w' : Watch}
  {c : BackupCall} {r : Raises Answer JobError c} {L α : Type} {l : L}

/-- A call that is no status read starts a restic command or changes nothing. -/
theorem watching_serve (hlook : ∀ n, c ≠ .listContainers n)
    (hs : (watching instanceId first second).serve w c r w') :
    w' = w ∨ ∃ command, c.kind = .restic command ∧ w' = w.started instanceId command := by
  cases c with
  | listContainers n => exact absurd rfl (hlook n)
  | start child =>
    cases child with
    | restic run =>
      cases r with
      | error e => exact .inl hs
      | ok u => exact .inr ⟨run.command, rfl, hs⟩
    | dockerExec id argv interactive => exact .inl hs
  | _ => exact .inl hs

theorem watching_safe (hkind : c.kind ≠ .restic (.backup (instanceTag instanceId))) (h : w.Safe)
    (hs : (watching instanceId first second).serve w c r w') : w'.Safe := by
  by_cases hlook : ∃ n, c = .listContainers n
  · obtain ⟨n, rfl⟩ := hlook
    cases r with
    | error e =>
      obtain rfl : w' = w := hs
      exact h
    | ok listed =>
      obtain ⟨-, -, rfl⟩ := hs
      exact h
  · rcases watching_serve (fun n hn => hlook ⟨n, hn⟩) hs with rfl | ⟨command, hcommand, rfl⟩
    · exact h
    · have hne : (command == .backup (instanceTag instanceId)) = false := by
        apply beq_false_of_ne
        intro heq
        exact hkind (hcommand.trans (congrArg _ heq))
      unfold Watch.Safe Watch.started at *
      simp [h, hne]

/-- On a quiet read every call but another read is safe, and leaves the read as it is. -/
theorem watching_quiet (hlook : ∀ n, c ≠ .listContainers n) (h : w.Safe ∧ w.Quiet)
    (hs : (watching instanceId first second).serve w c r w') : w'.Safe ∧ w'.Quiet := by
  rcases watching_serve hlook hs with rfl | ⟨command, -, rfl⟩
  · exact h
  · have hquiet := Watch.quiet_iff.mpr h.2
    refine ⟨?_, h.2⟩
    have hsafe := h.1
    unfold Watch.Safe Watch.started at *
    simp [hsafe, hquiet]

theorem watching_within {m : Routine Answer JobError L α}
    (hm : RWithin (· ≠ .restic (.backup (instanceTag instanceId))) m) (h : w.Safe) :
    m.Always (watching instanceId first second) Watch.Safe (fun _ _ _ => True) l w :=
  (hm.always (fun _ _ _ _ hk hI hs => watching_safe hk hI hs) h).mono fun _ _ _ _ _ => trivial

end Frames

/-! ## The job, read by read -/

section Job
variable {settings : Settings} {instanceId backupId : String} {first second : List Container}
  {w : Watch}

/-- **What a status read says is what it found.** -/
theorem getStatus_watched (h : w.Safe) :
    (getStatus instanceId).Always (watching instanceId first second) Watch.Safe
      (fun r w' => ∀ st, r = .ok st → ∃ listed, st = Docker.getStatus listed ∧
        w' = w.look listed ∧ (w.looks = 0 → listed = first) ∧ (w.looks = 1 → listed = second))
      w := by
  unfold getStatus
  rw [Action.always_bind]
  refine ⟨h, fun r w' hs => ?_⟩
  cases r with
  | error e =>
    obtain rfl : w' = w := hs
    refine ⟨h, ?_⟩
    intro st hst
    cases hst
  | ok listed =>
    obtain ⟨hfirst, hsecond, rfl⟩ := hs
    refine ⟨h, h, fun st hst => ?_⟩
    exact ⟨listed, (Except.ok.inj hst).symm, rfl, hfirst, hsecond⟩

/-- **A wait that succeeds ends on a quiet read.** -/
theorem waitStopped_watched (h : w.Safe) (timeout : Int) :
    (waitStopped instanceId timeout).Always (watching instanceId first second) Watch.Safe
      (fun r w' => r = .ok true → w'.Quiet) w := by
  have hquiesced : ∀ w : Watch, w.Safe → (quiesced instanceId false).Always
      (watching instanceId first second) Watch.Safe (fun r w' => r = .ok true → w'.Quiet) w := by
    intro w hw
    unfold quiesced
    rw [Action.always_bind]
    refine (getStatus_watched hw).mono fun r w' hw' hst => ?_
    cases r with
    | error e =>
      intro hx
      cases hx
    | ok st =>
      obtain ⟨listed, rfl, rfl, -⟩ := hst st rfl
      refine ⟨hw', fun hrest => ⟨listed, rfl, ?_⟩⟩
      have hstopped : (Docker.getStatus listed).status = .stopped := by
        simpa using Except.ok.inj hrest
      exact no_active_of_stopped hstopped
  exact waitStopped_always hquiesced
    (fun w r w' hw hs => watching_safe (by simp [BackupCall.kind]) hw hs)
    (fun w r w' hw hs => watching_safe (by simp [BackupCall.kind]) hw hs) h timeout

theorem coldSnapshot_looks (settings : Settings) (instanceId backupId : String) :
    (coldSnapshot settings instanceId backupId).Uses fun c => ∀ n, c ≠ .listContainers n := by
  have hrestic : ∀ {α : Type} {m : Job α}, Within (· ≠ .look) m →
      m.Uses fun c => ∀ n, c ≠ .listContainers n := by
    intro α m hm
    refine hm.mono fun c hc n hn => hc ?_
    rw [hn]
    rfl
  unfold coldSnapshot
  refine Routine.Uses.bind (Routine.uses_monadLift ?_) fun mounts => ?_
  · unfold backupMounts dataVolumes withL4Ports
    refine Action.Uses.bind (Action.Uses.bind (Action.uses_perform (by simp)) fun _ =>
      Action.uses_pure _) fun vols => ?_
    refine Action.Uses.bind (Action.uses_perform (by simp)) fun there => ?_
    split
    · exact Action.uses_pure _
    · exact Action.uses_pure _
  refine Routine.Uses.bind (Routine.uses_monadLift
    (hrestic (ensureRepo_within (by simp) (by simp) (by simp)))) fun _ => ?_
  refine Routine.Uses.bind (Routine.uses_monadLift
    (hrestic (runRestic_within (by simp)))) fun ended => ?_
  split
  · exact Routine.uses_assign _
  · exact Routine.Uses.bind (Routine.uses_monadLift (Action.uses_ofExcept _)) fun _ => Routine.uses_assign _

/-- The snapshot is safe on a quiet read, and without a repository. -/
theorem coldSnapshot_watched {l : BackupLocals} (h : w.Safe)
    (hquiet : w.Quiet ∨ ∃ e, resticEnv settings = .error e) :
    (coldSnapshot settings instanceId backupId).Always (watching instanceId first second)
      Watch.Safe (fun _ _ _ => True) l w := by
  rcases hquiet with hquiet | ⟨e, henv⟩
  · exact ((coldSnapshot_looks settings instanceId backupId).always
      (fun _ _ _ _ hk hI hs => watching_quiet hk hI hs) ⟨h, hquiet⟩).imp (fun _ hw => hw.1)
        fun _ _ _ _ _ => trivial
  · have hmounts : Within (· ≠ .restic (.backup (instanceTag instanceId)))
        (backupMounts settings instanceId) := backupMounts_within (by simp) (by simp)
    unfold coldSnapshot
    rw [ensureRepo_of_env henv]
    refine Routine.invariant_bind (watching_within (Routine.uses_monadLift hmounts) h)
      fun mounts l w hw => ⟨hw, trivial⟩

/-- **The `try` block**, of an instance first seen running or then seen not to run. -/
theorem backupBody_watched {volumeClasses : Option (List (String × String))} {l : BackupLocals}
    {wasRunning : Bool} (h : w.Safe) (hlooks : w.looks = 1) (hcold : volumeClasses.getD [] = [])
    (hentry : wasRunning = true ∨ (Docker.getStatus second).status ≠ .running ∨
      ∃ e, resticEnv settings = .error e) :
    (backupBody settings instanceId backupId volumeClasses wasRunning).Always
      (watching instanceId first second) Watch.Safe (fun _ _ _ => True) l w := by
  have hsafe : ∀ {α : Type} {m : Job α} (l : BackupLocals) {w : Watch},
      Within (· ≠ .restic (.backup (instanceTag instanceId))) m → w.Safe →
      (monadLift m : BackupSteps α).Always (watching instanceId first second) Watch.Safe
        (fun _ _ _ => True) l w := fun l _ hm hw => watching_within (Routine.uses_monadLift hm) hw
  unfold backupBody
  rw [Routine.always_bind, Routine.always_monadLift]
  -- the second look: what it shows decides whether the instance is stopped
  refine (getStatus_watched h).mono fun r w₁ h₁ hst => ?_
  cases r with
  | error e => trivial
  | ok st =>
    obtain ⟨listed, rfl, rfl, -, hsecond⟩ := hst st rfl
    obtain rfl : second = listed := (hsecond hlooks).symm
    rw [Routine.onOk_ok, Routine.always_ite]
    refine ⟨fun _ => ⟨h₁, trivial⟩, fun hthere => ?_⟩
    rw [hcold, Routine.always_ite]
    refine ⟨fun hhot => absurd hhot (by simp), fun _ => ?_⟩
    rw [Routine.always_ite]
    constructor
    -- it was to be stopped, and the wait ends on a quiet read
    · intro hwas
      rw [Routine.always_bind]
      have hmarker : Within (· ≠ .restic (.backup (instanceTag instanceId)))
          (writeJson (.backupMarker instanceId) (.marker backupId)) := writeJson_within (by simp)
      refine (hsafe l hmarker h₁).mono fun r l₂ w₂ h₂ _ => ?_
      cases r with
      | error e => trivial
      | ok u =>
        rw [Routine.onOk_ok, Routine.always_bind]
        have hstop : Within (· ≠ .restic (.backup (instanceTag instanceId)))
            (call (.composeStop instanceId)) := call_within (by simp [BackupCall.kind])
        refine (hsafe l₂ hstop h₂).mono fun r l₃ w₃ h₃ _ => ?_
        cases r with
        | error e => trivial
        | ok u =>
          rw [Routine.onOk_ok, Routine.always_bind, Routine.always_assign]
          refine ⟨h₃, ?_⟩
          rw [Routine.onOk_ok, Routine.always_bind, Routine.always_monadLift]
          refine (waitStopped_watched h₃ _).mono fun r w₄ h₄ hrest => ?_
          cases r with
          | error e => trivial
          | ok rests =>
            rw [Routine.onOk_ok, Routine.always_ite]
            refine ⟨fun hrests => ?_, fun _ => ⟨h₄, trivial⟩⟩
            exact coldSnapshot_watched h₄ (.inl (hrest (congrArg _ hrests)))
    -- it was not: the read before was quiet, or there is no repository
    · intro hwas
      refine coldSnapshot_watched h₁ ((hentry.resolve_left (by simpa using hwas)).imp_left fun hnot => ?_)
      have hstopped : (Docker.getStatus second).status = .stopped := by
        cases hword : (Docker.getStatus second).status with
        | running => exact absurd hword hnot
        | stopped => rfl
        | unknow => exact absurd (by rw [hword]; rfl) hthere
      exact ⟨second, rfl, no_active_of_stopped hstopped⟩

theorem backupAfter_watched {destination : Option Destination} {release : Bool}
    {m : BackupSteps Unit} {l : BackupLocals}
    (h : m.Always (watching instanceId first second) Watch.Safe (fun _ _ _ => True) l w) :
    (Routine.tryFinally (Routine.tryExcept m backupHandler)
      (do backupCleanup settings instanceId destination
          backupReport settings instanceId release)).Always (watching instanceId first second)
      Watch.Safe (fun _ _ _ => True) l w := by
  refine Routine.invariant_tryFinally (Routine.invariant_tryExcept h fun e l w hw => ?_)
    fun l w hw => ?_
  · exact watching_within backupHandler_within hw
  have hcleanup : RWithin (· ≠ .restic (.backup (instanceTag instanceId)))
      (backupCleanup settings instanceId destination) :=
    backupCleanup_within (by simp) (by simp) (by simp) (by simp)
  have hreport : RWithin (· ≠ .restic (.backup (instanceTag instanceId)))
      (backupReport settings instanceId release) := backupReport_within (by simp) (by simp) (by simp)
  exact Routine.invariant_bind (watching_within hcleanup hw) fun _ l w hw =>
    watching_within hreport hw

end Job

/-! ## A day on which every command succeeds -/

/-- The answers of such a day; the third read and later ones find nothing. -/
def calmWatch (instanceId : String) (first second : List Container) (w : Watch) (c : BackupCall) :
    Raises Answer JobError c × Watch :=
  match c with
  | .listContainers _ =>
    let listed := if w.looks = 0 then first else if w.looks = 1 then second else []
    (.ok listed, w.look listed)
  | .start (.restic run) => (.ok (), w.started instanceId run.command)
  | .start (.dockerExec _ _ _) => (.ok (), w)
  | c => ((calm instanceId ⟨[], false⟩ c).1, w)

theorem calmWatch_serves (instanceId : String) (first second : List Container) (w : Watch)
    (c : BackupCall) : (watching instanceId first second).serve w c
      (calmWatch instanceId first second w c).1 (calmWatch instanceId first second w c).2 := by
  cases c with
  | listContainers n =>
    refine ⟨fun h => ?_, fun h => ?_, rfl⟩
    · simp [h]
    · simp [h]
  | start child => cases child <;> rfl
  | _ => rfl

theorem calmWatch_obliging (instanceId : String) (first second : List Container) :
    Obliging (calmWatch instanceId first second) fun w command => w.started instanceId command where
  start _ _ := rfl
  await _ _ := rfl
  volumeless _ _ := rfl
  portless _ _ := rfl
  opens w := by
    have hcat : (ResticCommand.catConfig == .backup (instanceTag instanceId)) = false :=
      beq_false_of_ne (by simp)
    have hunlock : (ResticCommand.unlock == .backup (instanceTag instanceId)) = false :=
      beq_false_of_ne (by simp)
    simp [Watch.started, hcat, hunlock]

section Calm
variable {instanceId : String} {first second : List Container} {w : Watch} {I : Watch → Prop}

/-- **On such a day the data snapshot is started on whatever was read last.** -/
theorem coldSnapshot_calm {settings : Settings} {backupId : String} {l : BackupLocals}
    {env : List (String × String)} {Q : Except JobError Unit → BackupLocals → Watch → Prop}
    (henv : resticEnv settings = .ok env)
    (h : (coldSnapshot settings instanceId backupId).Always
      (.definite (calmWatch instanceId first second)) Watch.Safe Q l w) : w.Quiet := by
  unfold coldSnapshot at h
  simp only [Routine.always_bind, Routine.always_monadLift] at h
  have hcalm := calmWatch_obliging instanceId first second
  have h := hcalm.ensureRepo henv (hcalm.backupMounts h)
  obtain ⟨hsafe, -⟩ := hcalm.runRestic henv h
  rw [← Watch.quiet_iff]
  have hnone := (Bool.or_eq_false_iff.mp hsafe).2
  simpa using hnone

/-- An instance that was not to be stopped, and is now seen to run, is snapshotted as it
is. -/
theorem backupBody_calm {settings : Settings} {backupId : String}
    {volumeClasses : Option (List (String × String))} {l : BackupLocals}
    {env : List (String × String)} {Q : Except JobError Unit → BackupLocals → Watch → Prop}
    (hcold : volumeClasses.getD [] = []) (henv : resticEnv settings = .ok env)
    (hsecond : (Docker.getStatus second).status = .running) (hlooks : w.looks = 1)
    (h : (backupBody settings instanceId backupId volumeClasses false).Always
      (.definite (calmWatch instanceId first second)) Watch.Safe Q l w) :
    ∀ c ∈ second, ¬ Active c := by
  have hread : calmWatch instanceId first second w (.listContainers instanceId) =
      (.ok second, w.look second) := by simp [calmWatch, hlooks]
  unfold backupBody getStatus at h
  simp only [Routine.always_bind, Routine.always_monadLift, Action.always_bind] at h
  obtain ⟨-, -, h⟩ := (Action.always_perform_definite _).mp h
  rw [hread, onOk_ok] at h
  obtain ⟨-, h⟩ := h
  simp only [Routine.onOk_ok, hsecond, hcold] at h
  obtain ⟨listed, hlast, hrest⟩ := coldSnapshot_calm henv h
  obtain rfl := Option.some.inj hlast
  exact hrest

/-- The same, of the whole job: first seen not to run, and then to run. -/
theorem backupInstance_calm {settings : Settings} {backupId : String}
    {destination : Option Destination} {volumeClasses : Option (List (String × String))}
    {releaseLock : Bool} {l : BackupLocals} {env : List (String × String)}
    {Q : Except JobError Unit → BackupLocals → Watch → Prop} (hcold : volumeClasses.getD [] = [])
    (henv : resticEnv (effectiveSettings settings destination instanceId) = .ok env)
    (hfirst : (Docker.getStatus first).status ≠ .running)
    (hsecond : (Docker.getStatus second).status = .running)
    (h : (backupInstance settings instanceId backupId destination volumeClasses releaseLock).Always
      (.definite (calmWatch instanceId first second)) Watch.Safe Q l ⟨0, none, false⟩) :
    ∀ c ∈ second, ¬ Active c := by
  have hread : calmWatch instanceId first second ⟨0, none, false⟩ (.listContainers instanceId) =
      (.ok first, ⟨1, some first, false⟩) := rfl
  unfold backupInstance getStatus at h
  simp only [Routine.always_bind, Routine.always_assign, Routine.onOk_ok, Routine.always_monadLift,
    Action.always_bind] at h
  obtain ⟨-, -, h⟩ := (Action.always_perform_definite _).mp h.2
  rw [hread, onOk_ok] at h
  obtain ⟨-, h⟩ := h
  simp only [Routine.onOk_ok, Routine.always_tryFinally, Routine.always_tryExcept,
    beq_false_of_ne hfirst] at h
  exact backupBody_calm hcold henv hsecond rfl h

end Calm

/-! ## When it is quiet -/

/-- No status has been read yet. -/
def unread : Watch := ⟨0, none, false⟩

/-- **A cold backup snapshots quiet data exactly when** the first read finds the instance
running, so that it is stopped, or the second does not — or no repository is configured.
The two reads are any lists, and so are all later ones. -/
theorem cold_backup_quiescent (settings : Settings) (instanceId backupId : String)
    (destination : Option Destination) (volumeClasses : Option (List (String × String)))
    (releaseLock : Bool) (l : BackupLocals) (hcold : volumeClasses.getD [] = [])
    (first second : List Container) :
    (∀ w' q, Run (watching instanceId first second) unread
        (backupInstance settings instanceId backupId destination volumeClasses releaseLock l) w' q →
        w'.violated = false) ↔
      (Docker.getStatus first).status = .running ∨ (Docker.getStatus second).status ≠ .running ∨
      ∃ e, resticEnv (effectiveSettings settings destination instanceId) = .error e := by
  set eff := effectiveSettings settings destination instanceId with heff
  constructor
  · intro h
    by_contra hnone
    push Not at hnone
    obtain ⟨hfirst, hsecond, henv⟩ := hnone
    cases hok : resticEnv eff with
    | error e => exact henv e hok
    | ok env =>
      -- the run of the day on which every command succeeds
      have hall : (backupInstance settings instanceId backupId destination volumeClasses
          releaseLock).Always (.definite (calmWatch instanceId first second)) Watch.Safe
          (fun _ _ _ => True) l unread :=
        Prog.Always.of_serve (Prog.always_iff_runs.mpr fun w' q run =>
          ⟨h w' q run, fun _ _ => trivial⟩) (calmWatch_serves instanceId first second)
      obtain ⟨⟨c, hc, hact⟩, -⟩ := running_iff.mp hsecond
      exact backupInstance_calm hcold hok hfirst hsecond hall c hc hact
  · intro h w' q run
    have hall : (backupInstance settings instanceId backupId destination volumeClasses
        releaseLock).Always (watching instanceId first second) Watch.Safe (fun _ _ _ => True) l
        unread := by
      unfold backupInstance
      rw [Routine.always_bind, Routine.always_assign]
      refine ⟨rfl, ?_⟩
      rw [Routine.onOk_ok, Routine.always_bind, Routine.always_monadLift]
      refine (getStatus_watched (w := unread) rfl).mono fun r w₁ h₁ hst => ?_
      cases r with
      | error e => trivial
      | ok st =>
        obtain ⟨listed, rfl, rfl, hlisted, -⟩ := hst st rfl
        obtain rfl : first = listed := (hlisted rfl).symm
        rw [Routine.onOk_ok]
        refine backupAfter_watched (backupBody_watched h₁ rfl hcold ?_)
        exact h.imp_left fun hrunning => beq_iff_eq.mpr hrunning
    exact (Prog.always_iff_runs.mp hall w' q run).1

/-- An instance that runs at both reads is stopped before it is snapshotted. -/
theorem cold_backup_quiescent_running : (Docker.getStatus [liveWeb]).status = .running ∧
    ∀ w' q, Run (watching "i" [liveWeb] [liveWeb]) unread
      (backupInstance ownRepository "i" "b" none none true
        { payload := { backupId := "b", status := .failed } }) w' q → w'.violated = false := by
  have hrunning : (Docker.getStatus [liveWeb]).status = .running := by decide
  exact ⟨hrunning, (cold_backup_quiescent ownRepository "i" "b" none none true _ rfl
    [liveWeb] [liveWeb]).mpr (.inl hrunning)⟩

/-- **An instance that comes up between the two reads is snapshotted as it runs.** -/
theorem started_instance_snapshotted : ∃ w' q,
    Run (watching "i" [crashedWorker] [liveWeb]) unread
      (backupInstance ownRepository "i" "b" none none true
        { payload := { backupId := "b", status := .failed } }) w' q ∧
      w'.last = some [liveWeb] ∧ w'.violated = true :=
  ⟨_, _, Prog.run_evalFor (h := calmWatch "i" [crashedWorker] [liveWeb])
    (calmWatch_serves "i" [crashedWorker] [liveWeb]) 10 _ _, by rfl, by rfl⟩

end Greffer.Backup

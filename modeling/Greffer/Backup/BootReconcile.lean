import Greffer.Backup.Footprints
import Greffer.Backup.RestoreQuiet
import Greffer.Effects.Implement

/-! # A crash during a cold backup, and the boots after it

A cold backup of a running instance leaves a marker on disk before it stops the instance.
`reconcileOnBoot` is what a greffer does about such markers when it starts: it restarts the
instance if nothing of it runs, and removes the marker.

**The marker is removed in any case**, also when the daemon does not answer yet, or shows a
mix of running and stopped containers; then no later boot knows of the instance.  The job
itself removes it in any case too, also when its own start of the instance has failed.  And
it is not checked that the marker was written at all.  `crash_leaves_memory` says that these
are the three ways to forget an instance.
-/
namespace Greffer.Backup
open Effects Docker

/-! ## The recovery at boot -/

/-- The calls of a greffer that starts: those of the engine, and its looks at the data
directory. -/
inductive BootCall where
  | engine (c : BackupCall)
  /-- `root.exists()`. -/
  | rootExists
  /-- `root.iterdir()`: the names. -/
  | iterdir
  | isDir (name : String)
  /-- `inst_dir.glob(".restore_*.json")`: the restore ids. -/
  | globRestoreStates (instanceId : String)
  /-- `json.loads(state_file.read_text())`. -/
  | readRestoreState (instanceId restoreId : String)

/-- What each call answers when it raises nothing. -/
@[reducible] def BootAnswer : BootCall → Type
  | .engine c => Answer c
  | .rootExists | .isDir _ => Bool
  | .iterdir | .globRestoreStates _ => List String
  | .readRestoreState _ _ => RestorePayload

/-- Code that runs at boot. -/
abbrev Boot := Action BootAnswer JobError

/-- Make one call at boot. -/
abbrev bootCall (c : BootCall) : Boot (BootAnswer c) := Action.perform c

/-- Code of the engine, at boot. -/
def engine {α : Type} (m : Job α) : Boot α := m.implement fun c => bootCall (.engine c)

/-- The marker of one instance: restart what the backup left stopped, and remove it. -/
def recoverMarked (instanceId : String) : Job Unit := do
  if ← call (.exists (.backupMarker instanceId)) then
    let _ ← (do
      let st ← getStatus instanceId
      if st.status == .stopped then
        restart instanceId : Job Unit).outcome
    remove (.backupMarker instanceId)

/-- The exceptions a state file that cannot be read raises, which are skipped. -/
def unreadable : JobError → Bool
  | .raised (.osError _) | .raised (.valueError _) => true
  | _ => false

/-- The restore results that the manager has not acknowledged. -/
def repostRestores (settings : Settings) (instanceId : String) : List String → Boot Unit
  | [] => return ()
  | restoreId :: rest => do
    match ← (bootCall (.readRestoreState instanceId restoreId)).outcome with
    | .error e =>
      if unreadable e then
        repostRestores settings instanceId rest
      else
        Action.raise e
    | .ok payload =>
      if ← engine (postCallback settings instanceId (.restore payload)) then
        engine (remove (.restoreState instanceId restoreId))
      repostRestores settings instanceId rest

/-- The loop of `reconcile_on_boot`. -/
def reconcileDirs (settings : Settings) : List String → Boot Unit
  | [] => return ()
  | instanceId :: rest => do
    if ← bootCall (.isDir instanceId) then
      engine (recoverMarked instanceId)
      let states ← bootCall (.globRestoreStates instanceId)
      repostRestores settings instanceId states
    reconcileDirs settings rest

/-- `reconcile_on_boot`. -/
def reconcileOnBoot (settings : Settings) : Boot Unit := do
  if !(← bootCall .rootExists) then
    return ()
  let dirs ← bootCall .iterdir
  reconcileDirs settings dirs

/-! ## What is remembered of a stop -/

/-- What has become of one instance, and of its marker. -/
structure Memory where
  /-- The marker is on disk. -/
  marker : Bool
  /-- A backup has stopped the instance. -/
  stopped : Bool := false
  /-- A boot has issued a start of it since, or the job's own start has ended with exit code 0. -/
  restarted : Bool := false
  /-- The job's own start has raised, or ended with another exit code. -/
  unstarted : Bool := false
  /-- A boot has seen it running. -/
  observed : Bool := false
  /-- The last write of the marker has left no file. -/
  unwritten : Bool := false
  /-- What this boot has seen of the containers is neither an instance that runs nor one
  that rests, or it has seen nothing. -/
  puzzled : Bool := false
  /-- A puzzled boot has removed the marker. -/
  dropped : Bool := false
  /-- The job has removed the marker after a start that failed. -/
  abandoned : Bool := false

namespace Memory

/-- Stopped by a backup, and nothing remembers it: no start was issued, no boot saw it
running, and no boot will look. -/
def Stranded (w : Memory) : Prop :=
  w.stopped = true ∧ w.restarted = false ∧ w.observed = false ∧ w.marker = false

instance (w : Memory) : Decidable w.Stranded := inferInstanceAs (Decidable (_ ∧ _ ∧ _ ∧ _))

/-- The marker is written. -/
def marked (w : Memory) : Memory :=
  { w with marker := true, unwritten := false, dropped := false, abandoned := false }

/-- A write of the marker fails, and leaves a file or not. -/
def failed (left : Bool) (w : Memory) : Memory :=
  { w with
    marker := w.marker || left
    unwritten := !(w.marker || left)
    dropped := w.dropped && !(w.marker || left)
    abandoned := w.abandoned && !(w.marker || left) }

/-- The marker is removed. -/
def unlinked (w : Memory) : Memory :=
  { w with
    marker := false
    dropped := w.dropped || (w.marker && w.puzzled)
    abandoned := w.abandoned || (w.marker && w.unstarted) }

/-- The job's own start ends, with exit code 0 or not. -/
def ran (exitZero : Bool) (w : Memory) : Memory :=
  { w with restarted := w.restarted || exitZero, unstarted := w.unstarted || !exitZero }

/-- A boot has listed the containers. -/
def looked (seen : List Container → Bool) (listed : List Container) (w : Memory) : Memory :=
  { w with
    observed := w.observed || seen listed
    puzzled := !(seen listed || (Docker.getStatus listed).status == .stopped) }

/-- The greffer starts anew: nothing is left of what the process before it knew. -/
def reboot (w : Memory) : Memory := { w with puzzled := false, unstarted := false }

end Memory

/-- What the calls of the engine do to an instance and its marker.  Everything else is
answered, or raises, as it likes. -/
def remembering (instanceId : String) : Machine (Raises Answer JobError) Memory where
  serve w c r w' :=
    match c, r with
    | .exists (.backupMarker j), .ok found => w' = w ∧ (j = instanceId → found = w.marker)
    | .writeText (.backupMarker j) _, .ok () => w' = if j = instanceId then w.marked else w
    | .writeText (.backupMarker j) _, .error _ =>
      ∃ left, w' = if j = instanceId then w.failed left else w
    | .unlink (.backupMarker j), .ok () => w' = if j = instanceId then w.unlinked else w
    | .composeStop j, .ok () =>
      w' = if j = instanceId then { w with stopped := true, restarted := false, unstarted := false }
        else w
    -- the exit code is not in the answer: nothing looks at it
    | .composeUp j [], .ok () => ∃ exitZero, w' = if j = instanceId then w.ran exitZero else w
    | .composeUp j [], .error _ => w' = if j = instanceId then w.ran false else w
    | _, _ => w' = w

/-- The same at boot, where the containers are looked at and a start counts as it is issued.
`seen` is what a listing must show for the instance to count as running. -/
def booting (seen : List Container → Bool) (instanceId : String) :
    Machine (Raises BootAnswer JobError) Memory where
  serve w c r w' :=
    match c, r with
    | .engine (.listContainers j), .ok listed =>
      w' = if j = instanceId then w.looked seen listed else w
    | .engine (.listContainers j), .error _ =>
      w' = if j = instanceId then { w with puzzled := true } else w
    | .engine (.composeUp j []), _ => w' = if j = instanceId then { w with restarted := true } else w
    | .engine c, r => (remembering instanceId).serve w c r w'
    | _, _ => w' = w

/-- Any number of boots, each of which runs as far as it likes. -/
inductive Boots (seen : List Container → Bool) (instanceId : String) : Memory → Memory → Prop
  | none (w : Memory) : Boots seen instanceId w w
  | boot {w w' w'' : Memory} {settings : Settings}
      {q : Prog (Raises BootAnswer JobError) (Except JobError Unit)}
      (run : Run (booting seen instanceId) w.reboot (reconcileOnBoot settings) w' q)
      (rest : Boots seen instanceId w' w'') : Boots seen instanceId w w''

/-! ## The job -/

/-- The marker was never written, or was removed by a boot that was puzzled, or by the job
after a start that failed. -/
def Memory.Forgotten (w : Memory) : Prop :=
  w.unwritten = true ∨ w.dropped = true ∨ w.abandoned = true

/-- **A stop is remembered**, unless it was forgotten in one of the three ways; and then no
marker is there. -/
structure Memory.Kept (w : Memory) : Prop where
  remembered : w.stopped = true → w.restarted = true ∨ w.observed = true ∨ w.marker = true ∨
    w.Forgotten
  gone : w.Forgotten → w.marker = false

/-- The kinds of calls that touch neither the instance nor its marker. -/
def Kind.Aside (instanceId : String) (k : Kind) : Prop :=
  ¬ k.Stops ∧ ¬ k.Ups ∧
    (∀ content, k ≠ .write (.backupMarker instanceId) content) ∧
    k ≠ .unlink (.backupMarker instanceId)

section Job
variable {instanceId : String} {w w' : Memory} {c : BackupCall} {r : Raises Answer JobError c}

theorem aside_serve (hk : c.kind.Aside instanceId) (hs : (remembering instanceId).serve w c r w') :
    w' = w := by
  obtain ⟨hstop, hup, hwrite, hunlink⟩ := hk
  cases c with
  | composeStop j => exact absurd trivial hstop
  | composeUp j services => exact absurd trivial hup
  | «exists» file =>
    cases r with
    | error e => cases file <;> exact hs
    | ok found =>
      cases file with
      | backupMarker j => exact hs.1
      | _ => exact hs
  | writeText file content =>
    cases file with
    | backupMarker j =>
      have hother : j ≠ instanceId := by
        rintro rfl
        exact hwrite content rfl
      cases r with
      | ok u => rw [show w' = _ from hs, if_neg hother]
      | error e =>
        obtain ⟨left, rfl⟩ := hs
        rw [if_neg hother]
    | _ => cases r <;> exact hs
  | unlink file =>
    cases file with
    | backupMarker j =>
      have hother : j ≠ instanceId := by
        rintro rfl
        exact hunlink rfl
      cases r with
      | ok u => rw [show w' = _ from hs, if_neg hother]
      | error e => exact hs
    | _ => cases r <;> exact hs
  | _ => cases r <;> exact hs

/-- Calls beside the instance and its marker leave what is known of them. -/
theorem aside_within {L α : Type} {m : Routine Answer JobError L α} {l : L}
    (hm : RWithin (Kind.Aside instanceId) m) :
    m.Always (remembering instanceId) (· = w) (fun _ _ _ => True) l w :=
  (hm.always (fun _ _ _ _ hk hI hs => (aside_serve hk hs).trans hI) rfl).mono
    fun _ _ _ _ _ => trivial

/-- The start has ended, in one way or the other. -/
def Memory.Settled (w : Memory) : Prop :=
  w.Kept ∧ (w.stopped = true → w.restarted = true ∨ w.unstarted = true)

/-- What is known of a stopped instance before its marker is removed. -/
def Memory.Ready (w : Memory) : Prop :=
  w.stopped = true → w.restarted = true ∨ w.observed = true ∨ w.Forgotten ∨
    w.marker = true ∧ (w.puzzled = true ∨ w.unstarted = true)

theorem unlinked_kept (hready : w.Ready) : w.unlinked.Kept := by
  refine ⟨fun hstopped => ?_, fun _ => rfl⟩
  rcases hready hstopped with hx | hx | hx | ⟨hmarker, hx⟩
  · exact .inl hx
  · exact .inr (.inl hx)
  · refine .inr (.inr (.inr ?_))
    rcases hx with hx | hx | hx <;> simp [Memory.Forgotten, Memory.unlinked, hx]
  · refine .inr (.inr (.inr ?_))
    rcases hx with hx | hx <;> simp [Memory.Forgotten, Memory.unlinked, hmarker, hx]

/-- After the start, a marker that goes takes the knowledge of a failed one with it. -/
theorem Memory.Settled.ready (h : w.Settled) : w.Ready := by
  intro hstopped
  rcases h.2 hstopped with hx | hx
  · exact .inl hx
  · rcases h.1.remembered hstopped with hy | hy | hy | hy
    · exact .inl hy
    · exact .inr (.inl hy)
    · exact .inr (.inr (.inr ⟨hy, .inr hx⟩))
    · exact .inr (.inr (.inl hy))

theorem restarted_kept (h : w.Kept) : Memory.Kept { w with restarted := true } :=
  ⟨fun _ => .inl rfl, h.gone⟩

/-- The end of the job's own start settles the instance. -/
theorem ran_settled (h : w.Kept) (exitZero : Bool) : (w.ran exitZero).Settled := by
  refine ⟨⟨fun hstopped => ?_, h.gone⟩, fun _ => ?_⟩
  · rcases h.remembered hstopped with hx | hx
    · exact .inl (by simp [Memory.ran, hx])
    · exact .inr hx
  · cases exitZero <;> simp [Memory.ran]

/-- A start of all services ends in one way or the other. -/
theorem composeUp_serve {j : String} {r : Raises Answer JobError (.composeUp j [])}
    (hs : (remembering instanceId).serve w (.composeUp j []) r w') :
    ∃ exitZero, w' = if j = instanceId then w.ran exitZero else w := by
  cases r with
  | ok u => exact hs
  | error e => exact ⟨false, hs⟩

theorem later_serve (hstop : ¬ c.kind.Stops)
    (hwrite : ∀ content, c.kind ≠ .write (.backupMarker instanceId) content) (h : w.Settled)
    (hs : (remembering instanceId).serve w c r w') : w'.Settled := by
  -- Beside the calls that move the memory there are a start of all services and a removed marker.
  by_cases haside : c.kind.Aside instanceId
  · rw [aside_serve haside hs]
    exact h
  cases c with
  | composeStop j => exact absurd trivial hstop
  | composeUp j services =>
    cases services with
    | cons service rest =>
      rw [show w' = w from hs]
      exact h
    | nil =>
      obtain ⟨exitZero, rfl⟩ := composeUp_serve hs
      split
      · exact ran_settled h.1 exitZero
      · exact h
  | unlink file =>
    cases file with
    | backupMarker j =>
      cases r with
      | error e =>
        rw [show w' = w from hs]
        exact h
      | ok u =>
        rw [show w' = _ from hs]
        split
        · exact ⟨unlinked_kept h.ready, h.2⟩
        · exact h
    | _ => cases r <;> (rw [show w' = w from hs]; exact h)
  | writeText file content =>
    refine absurd ⟨?_, ?_, hwrite, ?_⟩ haside
    all_goals
      intro hx
      cases hx
  | start child | await child | kill child =>
    cases child
    all_goals
      refine absurd ⟨?_, ?_, hwrite, ?_⟩ haside
      all_goals
        intro hx
        cases hx
  | _ =>
    refine absurd ⟨?_, ?_, hwrite, ?_⟩ haside
    all_goals
      intro hx
      cases hx

end Job

section Backup
variable {settings : Settings} {instanceId backupId : String} {l : BackupLocals} {w : Memory}

theorem aside_look : Kind.look.Aside instanceId := by
  simp [Kind.Aside]

theorem aside_exists (file : FileRef) : (Kind.exists file).Aside instanceId := by
  simp [Kind.Aside]

theorem aside_exec : Kind.exec.Aside instanceId := by
  simp [Kind.Aside]

theorem aside_restic (command : ResticCommand) : (Kind.restic command).Aside instanceId := by
  simp [Kind.Aside]

theorem aside_repo : OpensRepo (Kind.Aside instanceId) :=
  ⟨aside_restic _, aside_restic _, aside_restic _⟩

/-- The snapshot leaves the marker, and what the job knows of its stop. -/
theorem coldSnapshot_aside (hl : l.stoppedForBackup = true) :
    (coldSnapshot settings instanceId backupId).Always (remembering instanceId) (· = w)
      (fun _ l' _ => l'.stoppedForBackup = true ∧ True) l w := by
  have haside : RWithin (Kind.Aside instanceId) (coldSnapshot settings instanceId backupId) :=
    coldSnapshot_within aside_look (aside_exists _) aside_repo (aside_restic _)
  have hkeeps : (coldSnapshot settings instanceId backupId).Keeps
      fun l => l.stoppedForBackup = true := by
    refine Routine.Keeps.bind Routine.keeps_lift fun mounts => ?_
    refine Routine.Keeps.bind Routine.keeps_lift fun _ => ?_
    refine Routine.Keeps.bind Routine.keeps_lift fun ended => ?_
    split
    · exact Routine.keeps_assign fun l hl => hl
    · exact Routine.Keeps.bind Routine.keeps_lift fun _ => Routine.keeps_assign fun l hl => hl
  exact (aside_within haside).returning (hkeeps l hl)

/-- A write of the marker that goes on has left it, or failed to. -/
theorem writeJson_marks (h : w.Kept) (hrunning : w.stopped = false) :
    (writeJson (.backupMarker instanceId) (.marker backupId)).Always (remembering instanceId)
      Memory.Kept (fun r w' => w'.stopped = false ∧
        (r = .ok () → w'.marker = true ∨ w'.Forgotten)) w := by
  have hremembered : ∀ w' : Memory, w'.stopped = false → (w'.Forgotten → w'.marker = false) →
      w'.Kept := by
    intro w' hrunning' hgone
    refine ⟨fun hx => ?_, hgone⟩
    rw [hrunning'] at hx
    cases hx
  unfold writeJson ignoringOSError
  rw [Action.always_tryExcept]
  refine ⟨h, fun r w₁ hs => ?_⟩
  cases r with
  | ok u =>
    have hw₁ : w₁ = w.marked := by
      rw [show w₁ = _ from hs, if_pos rfl]
    have hkept : w₁.Kept := hremembered w₁ (hw₁ ▸ hrunning) fun hx => by
      simp [hw₁, Memory.Forgotten, Memory.marked] at hx
    exact ⟨hkept, hw₁ ▸ hrunning, fun _ => .inl (by rw [hw₁]; rfl)⟩
  | error e =>
    obtain ⟨left, hw₁⟩ := hs
    rw [if_pos rfl] at hw₁
    have hmarked : w₁.marker = true ∨ w₁.Forgotten := by
      rw [hw₁]
      by_cases hthere : (w.marker || left) = true
      · exact .inl hthere
      · refine .inr (.inl ?_)
        simp [Memory.failed, hthere]
    have hkept : w₁.Kept := by
      refine hremembered w₁ (hw₁ ▸ hrunning) fun hx => ?_
      rw [hw₁] at hx ⊢
      simp only [Memory.Forgotten, Memory.failed, Bool.and_eq_true, Bool.not_eq_true'] at hx ⊢
      rcases hx with hx | hx | hx
      · exact hx
      · exact hx.2
      · exact hx.2
    refine ⟨hkept, ?_⟩
    dsimp only
    split
    · exact ⟨hkept, hw₁ ▸ hrunning, fun _ => hmarked⟩
    · exact ⟨hkept, hw₁ ▸ hrunning, fun _ => hmarked⟩

/-- **The marker is written before the stop**, and the job knows of the stop. -/
theorem backupBody_kept {volumeClasses : Option (List (String × String))} {wasRunning : Bool}
    (h : w.Kept) (hrunning : w.stopped = false) :
    (backupBody settings instanceId backupId volumeClasses wasRunning).Always
      (remembering instanceId) Memory.Kept
      (fun _ l' w' => w'.stopped = true → l'.stoppedForBackup = true) l w := by
  have hsame : ∀ {m : BackupSteps Unit} {l : BackupLocals}, RWithin (Kind.Aside instanceId) m →
      m.Always (remembering instanceId) Memory.Kept
        (fun _ l' w' => w'.stopped = true → l'.stoppedForBackup = true) l w := by
    intro m l hm
    refine (aside_within hm).imp (fun w' hw => hw ▸ h) fun r l' w' hw _ hstopped => ?_
    rw [hw, hrunning] at hstopped
    cases hstopped
  have hstopped : ∀ w' : Memory, w' = w → w'.stopped = true → False := by
    rintro w' rfl hx
    rw [hrunning] at hx
    cases hx
  unfold backupBody
  rw [Routine.always_bind, Routine.always_monadLift]
  refine ((getStatus_within aside_look).always (I := (· = w))
    (fun _ _ _ _ hk hI hs => (aside_serve hk hs).trans hI) rfl).imp (fun w' hw => hw ▸ h)
    fun r w₁ hw₁ _ => ?_
  obtain rfl : w₁ = w := hw₁
  cases r with
  | error e => exact fun hx => (hstopped _ rfl hx).elim
  | ok st =>
    rw [Routine.onOk_ok, Routine.always_ite]
    refine ⟨fun _ => ⟨h, fun hx => (hstopped _ rfl hx).elim⟩, fun _ => ?_⟩
    rw [Routine.always_ite]
    constructor
    · intro _
      have hhot : Within (Kind.Aside instanceId)
          (runHotBackup settings instanceId backupId (volumeClasses.getD [])) :=
        runHotBackup_within aside_look (aside_exists _) aside_repo aside_exec (aside_restic _)
          fun _ => aside_restic _
      exact hsame (Routine.Uses.bind (lift_within hhot) fun _ => Routine.uses_assign _)
    · intro _
      rw [Routine.always_ite]
      refine ⟨fun _ => ?_, fun _ => hsame (coldSnapshot_within aside_look (aside_exists _)
        aside_repo (aside_restic _))⟩
      -- a running instance: from here on the marker is there, or its write has failed
      rw [Routine.always_bind, Routine.always_monadLift]
      refine (writeJson_marks h hrunning).mono fun r w₂ hw₂ hr => ?_
      obtain ⟨hrunning₂, hmarked⟩ := hr
      have hfirst : w₂.stopped = true → l.stoppedForBackup = true := by
        intro hx
        rw [hrunning₂] at hx
        cases hx
      cases r with
      | error e => exact hfirst
      | ok u =>
        rw [Routine.onOk_ok, Routine.always_bind, Routine.always_monadLift]
        refine ⟨hw₂, fun r w₃ hs => ?_⟩
        cases r with
        | error e =>
          rw [show w₃ = w₂ from hs]
          exact ⟨hw₂, hfirst⟩
        | ok u =>
          have hw₃ : w₃.Kept := by
            rw [show w₃ = _ from hs, if_pos rfl]
            exact ⟨fun _ => .inr (.inr (hmarked rfl)), hw₂.gone⟩
          refine ⟨hw₃, ?_⟩
          dsimp only [Routine.onOk]
          rw [Routine.always_bind, Routine.always_assign]
          refine ⟨hw₃, ?_⟩
          rw [Routine.onOk_ok, Routine.always_bind, Routine.always_monadLift]
          refine ((waitStopped_within aside_look).always (I := (· = w₃))
            (fun _ _ _ _ hk hI hs => (aside_serve hk hs).trans hI) rfl).imp
            (fun w' hw => hw ▸ hw₃) fun r w₄ hw₄ _ => ?_
          obtain rfl : w₄ = w₃ := hw₄
          cases r with
          | error e => exact fun _ => rfl
          | ok rests =>
            rw [Routine.onOk_ok, Routine.always_ite]
            constructor
            · intro _
              exact (coldSnapshot_aside rfl).imp (fun w' hw => hw ▸ hw₃)
                fun r l' w' _ hl' _ => hl'.1
            · intro _
              exact ⟨hw₃, fun _ => rfl⟩

theorem backupHandler_kept {e : JobError} (h : w.Kept)
    (hknown : w.stopped = true → l.stoppedForBackup = true) :
    (backupHandler e).Always (remembering instanceId) Memory.Kept
      (fun _ l' w' => w'.Kept ∧ (w'.stopped = true → l'.stoppedForBackup = true)) l w := by
  cases e
  all_goals exact ⟨h, h, hknown⟩

/-- The kinds of calls that neither stop the instance nor write its marker. -/
def Kind.Later (instanceId : String) (k : Kind) : Prop :=
  ¬ k.Stops ∧ ∀ content, k ≠ .write (.backupMarker instanceId) content

/-- **The start has ended before the marker is removed.** -/
theorem backupCleanup_settled {destination : Option Destination} (h : w.Kept)
    (hknown : w.stopped = true → l.stoppedForBackup = true) :
    (backupCleanup settings instanceId destination).Always (remembering instanceId) Memory.Kept
      (fun _ _ w' => w'.Settled) l w := by
  have hretain : ∀ w : Memory, w.Settled →
      (backupRetain settings instanceId destination l).Always (remembering instanceId) Memory.Kept
        (fun _ _ w' => w'.Settled) l w := by
    intro w hw
    have huses : RWithin (Kind.Later instanceId)
        (backupRetain settings instanceId destination l) := by
      refine backupRetain_within ?_ (fun _ _ => ?_) ?_
      all_goals simp [Kind.Later]
    exact (huses.always (I := Memory.Settled)
      (fun _ _ _ _ hk hI hs => later_serve hk.1 hk.2 hI hs) hw).imp (fun w hw => hw.1)
      fun _ _ _ hw _ => hw
  rw [backupCleanup_eq, Routine.always_bind, Routine.always_locals]
  refine ⟨h, ?_⟩
  rw [Routine.onOk_ok, Routine.always_ite]
  constructor
  · intro _
    rw [Routine.always_bind, Routine.always_monadLift, Action.always_outcome]
    refine ⟨h, fun r w₁ hs => ?_⟩
    have hw₁ : w₁.Settled := by
      obtain ⟨exitZero, rfl⟩ := composeUp_serve hs
      rw [if_pos rfl]
      exact ran_settled h exitZero
    exact ⟨hw₁.1, hretain w₁ hw₁⟩
  · intro hno
    exact hretain w ⟨h, fun hstopped => absurd (hknown hstopped) hno⟩

end Backup

/-- **At every point of a backup** a stop is remembered, or its marker was not written. -/
theorem backupInstance_kept (settings : Settings) (instanceId backupId : String)
    (destination : Option Destination) (volumeClasses : Option (List (String × String)))
    (releaseLock : Bool) (l : BackupLocals) (marker : Bool) :
    (backupInstance settings instanceId backupId destination volumeClasses releaseLock).Always
      (remembering instanceId) Memory.Kept (fun _ _ _ => True) l { marker := marker } := by
  have hfresh : Memory.Kept { marker := marker } := by
    refine ⟨fun hx => ?_, fun hx => ?_⟩
    · cases hx
    · rcases hx with hx | hx | hx <;> cases hx
  unfold backupInstance
  rw [Routine.always_bind, Routine.always_assign]
  refine ⟨hfresh, ?_⟩
  rw [Routine.onOk_ok, Routine.always_bind, Routine.always_monadLift]
  refine ((getStatus_within aside_look).always (I := fun w => w = ({ marker := marker } : Memory))
    (fun _ _ _ _ hk hI hs => (aside_serve hk hs).trans hI) rfl).imp (fun w' hw => hw ▸ hfresh)
    fun r w₁ hw₁ _ => ?_
  obtain rfl : w₁ = { marker := marker } := hw₁
  cases r with
  | error e => trivial
  | ok st =>
    rw [Routine.onOk_ok, Routine.always_tryFinally, Routine.always_tryExcept]
    -- The `finally`: the cleanup settles what was stopped, and the report touches nothing of it.
    have hfinally : ∀ (l : BackupLocals) (w : Memory), w.Kept →
        (w.stopped = true → l.stoppedForBackup = true) →
        (do
          backupCleanup (effectiveSettings settings destination instanceId) instanceId destination
          backupReport (effectiveSettings settings destination instanceId) instanceId releaseLock :
          BackupSteps Unit).Always (remembering instanceId) Memory.Kept (fun _ _ _ => True) l w := by
      intro l w hw hknown
      rw [Routine.always_bind]
      refine (backupCleanup_settled hw hknown).mono fun r l' w' _ hsettled => ?_
      cases r with
      | error e => trivial
      | ok u =>
        have hreport : RWithin (Kind.Aside instanceId)
            (backupReport (effectiveSettings settings destination instanceId) instanceId
              releaseLock) := by
          refine backupReport_within ?_ ?_ fun _ => ?_
          all_goals simp [Kind.Aside]
        exact (aside_within hreport).imp (fun w hw => hw ▸ hsettled.1) fun _ _ _ _ _ => trivial
    refine (backupBody_kept hfresh rfl).mono fun r l₂ w₂ hw₂ hknown => ?_
    cases r with
    | error e =>
      refine (backupHandler_kept hw₂ hknown).mono fun r l₃ w₃ _ hr => ?_
      refine (hfinally l₃ w₃ hr.1 hr.2).mono fun r' l₄ w₄ _ _ => ?_
      cases r' <;> trivial
    | ok u =>
      refine (hfinally l₂ w₂ hw₂ hknown).mono fun r l₃ w₃ _ _ => ?_
      cases r <;> trivial

/-! ## The boots -/

/-- What the calls of the engine do at boot. -/
def booted (seen : List Container → Bool) (instanceId : String) :
    Machine (Raises Answer JobError) Memory where
  serve w c r w' := (booting seen instanceId).serve w (.engine c) r w'

section Boots
variable {seen : List Container → Bool} {instanceId : String} {w w' : Memory}

theorem engine_always {α : Type} {m : Job α} {I : Memory → Prop}
    {Q : Except JobError α → Memory → Prop} :
    (engine m).Always (booting seen instanceId) I Q w ↔
      m.Always (booted seen instanceId) I Q w :=
  Prog.always_embed (f := BootCall.engine) (M := booting seen instanceId)

theorem booted_aside {c : BackupCall} {r : Raises Answer JobError c}
    (hk : c.kind.Aside instanceId ∧ c.kind ≠ .look) (hs : (booted seen instanceId).serve w c r w') :
    w' = w := by
  have hserve : (remembering instanceId).serve w c r w' := by
    cases c with
    | listContainers j => exact absurd rfl hk.2
    | composeUp j services => exact absurd trivial hk.1.2.1
    | _ => exact hs
  exact aside_serve hk.1 hserve

/-- A look that is not at the marker changes nothing that is remembered. -/
theorem looked_kept (h : w.Kept) (listed : List Container) : (w.looked seen listed).Kept := by
  refine ⟨fun hstopped => ?_, h.gone⟩
  rcases h.remembered hstopped with hx | hx | hx | hx
  · exact .inl hx
  · exact .inr (.inl (by simp [Memory.looked, hx]))
  · exact .inr (.inr (.inl hx))
  · exact .inr (.inr (.inr hx))

/-- **A boot that finds the marker** starts an instance at rest, sees a running one, or is
puzzled. -/
theorem recover_ready (h : w.Kept) (hmarker : w.marker = true) :
    (do
      let st ← getStatus instanceId
      if st.status == .stopped then
        restart instanceId : Job Unit).Always (booted seen instanceId) Memory.Kept
      (fun _ w' => w'.Ready) w := by
  unfold getStatus
  rw [Action.always_bind, Action.always_bind]
  refine ⟨h, fun r w₁ hs => ?_⟩
  cases r with
  | error e =>
    have hw₁ : w₁ = { w with puzzled := true } := by
      rw [show w₁ = _ from hs, if_pos rfl]
    rw [hw₁]
    exact ⟨⟨h.remembered, h.gone⟩, fun _ => .inr (.inr (.inr ⟨hmarker, .inl rfl⟩))⟩
  | ok listed =>
    have hw₁ : w₁ = w.looked seen listed := by
      rw [show w₁ = _ from hs, if_pos rfl]
    have hkept : w₁.Kept := hw₁ ▸ looked_kept h listed
    refine ⟨hkept, hkept, ?_⟩
    rw [onOk_ok, Action.always_ite]
    constructor
    · intro _
      refine ⟨hkept, fun r w₂ hs => ?_⟩
      have hw₂ : w₂ = { w₁ with restarted := true } := by
        rw [show w₂ = _ from hs, if_pos rfl]
      rw [hw₂]
      exact ⟨restarted_kept hkept, fun _ => .inl rfl⟩
    · intro hrest
      refine ⟨hkept, fun _ => ?_⟩
      rw [hw₁]
      cases hseen : seen listed with
      | true => exact .inr (.inl (by simp [Memory.looked, hseen]))
      | false => exact .inr (.inr (.inr ⟨hmarker, .inl (by simp [Memory.looked, hseen, hrest])⟩))

theorem booted_other {j : String} (hj : j ≠ instanceId) {c : BackupCall}
    {r : Raises Answer JobError c}
    (hc : c = .exists (.backupMarker j) ∨ c = .listContainers j ∨ c = .composeUp j [] ∨
      c = .unlink (.backupMarker j)) (hs : (booted seen instanceId).serve w c r w') : w' = w := by
  rcases hc with rfl | rfl | rfl | rfl
  · cases r with
    | ok found => exact hs.1
    | error e => exact hs
  · cases r with
    | ok listed => rw [show w' = _ from hs, if_neg hj]
    | error e => rw [show w' = _ from hs, if_neg hj]
  · rw [show w' = _ from hs, if_neg hj]
  · cases r with
    | ok u => rw [show w' = _ from hs, if_neg hj]
    | error e => exact hs

/-- **One marker.** -/
theorem recoverMarked_kept (j : String) (h : w.Kept) :
    (recoverMarked j).Always (booted seen instanceId) Memory.Kept (fun _ _ => True) w := by
  -- The marker is that of the instance, or another one, which it has nothing to do with.
  by_cases hj : j = instanceId
  · subst hj
    unfold recoverMarked
    rw [Action.always_bind]
    refine ⟨h, fun r w₁ hs => ?_⟩
    cases r with
    | error e =>
      rw [show w₁ = w from hs]
      exact ⟨h, trivial⟩
    | ok found =>
      obtain ⟨rfl, hfound⟩ := hs
      refine ⟨h, ?_⟩
      rw [onOk_ok, Action.always_ite]
      refine ⟨fun hthere => ?_, fun _ => ⟨h, trivial⟩⟩
      have hmarker : w₁.marker = true := (hfound rfl).symm.trans hthere
      rw [Action.always_bind, Action.always_outcome]
      refine (recover_ready h hmarker).mono fun r w₂ h₂ hready => ?_
      unfold remove ignoringOSError
      dsimp only [onOk]
      rw [Action.always_tryExcept]
      refine ⟨h₂, fun r w₃ hs => ?_⟩
      have h₃ : w₃.Kept := by
        cases r with
        | ok u =>
          rw [show w₃ = _ from hs, if_pos rfl]
          exact unlinked_kept hready
        | error e =>
          rw [show w₃ = w₂ from hs]
          exact h₂
      refine ⟨h₃, ?_⟩
      cases r with
      | ok u => trivial
      | error e =>
        dsimp only
        split
        · exact ⟨h₃, trivial⟩
        · exact ⟨h₃, trivial⟩
  · have huses : (recoverMarked j).Uses fun c => c = .exists (.backupMarker j) ∨
        c = .listContainers j ∨ c = .composeUp j [] ∨ c = .unlink (.backupMarker j) := by
      unfold recoverMarked
      refine Action.Uses.bind (Action.uses_perform (.inl rfl)) fun found => ?_
      split
      · refine Action.Uses.bind (Action.Uses.outcome ?_) fun _ => ?_
        · refine Action.Uses.bind ?_ fun st => ?_
          · exact Action.Uses.bind (Action.uses_perform (.inr (.inl rfl))) fun _ =>
              Action.uses_pure _
          · split
            · exact Action.uses_perform (.inr (.inr (.inl rfl)))
            · exact Action.uses_pure _
        · refine Action.Uses.tryExcept (Action.uses_perform (.inr (.inr (.inr rfl)))) fun e => ?_
          split
          · exact Action.uses_pure _
          · exact Action.uses_raise _
      · exact Action.uses_pure _
    exact (huses.always (I := Memory.Kept) (fun _ _ _ _ hc hI hs => booted_other hj hc hs ▸ hI)
      h).mono fun _ _ _ _ => trivial

theorem engine_aside {α : Type} {m : Job α}
    (hm : Within (fun k => k.Aside instanceId ∧ k ≠ .look) m) (h : w.Kept) :
    (engine m).Always (booting seen instanceId) Memory.Kept (fun _ w' => w'.Kept) w := by
  refine engine_always.mpr ?_
  refine (hm.always (I := (· = w)) (fun _ _ _ _ hk hI hs => (booted_aside hk hs).trans hI)
    rfl).imp ?_ ?_
  · rintro w' rfl
    exact h
  · rintro _ w' rfl -
    exact h

/-- The restore results leave the instance and its marker. -/
theorem repostRestores_kept {settings : Settings} (j : String) (states : List String) (h : w.Kept) :
    (repostRestores settings j states).Always (booting seen instanceId) Memory.Kept
      (fun _ w' => w'.Kept) w := by
  induction states generalizing w with
  | nil => exact ⟨h, h⟩
  | cons restoreId rest ih =>
    unfold repostRestores
    rw [Action.always_bind, Action.always_outcome]
    refine ⟨h, fun r w₁ hs => ?_⟩
    obtain rfl : w₁ = w := hs
    refine ⟨h, ?_⟩
    dsimp only [onOk]
    cases r with
    | error e =>
      dsimp only
      split
      · exact ih h
      · exact ⟨h, h⟩
    | ok payload =>
      dsimp only
      rw [Action.always_bind]
      refine (engine_aside (postCallback_within ?_ ?_) h).mono fun r w₂ _ h₂ => ?_
      · simp [Kind.Aside]
      · simp [Kind.Aside]
      cases r with
      | error e => exact h₂
      | ok posted =>
        rw [onOk_ok, Action.always_ite]
        refine ⟨fun _ => ?_, fun _ => ih h₂⟩
        rw [Action.always_bind]
        refine (engine_aside (remove_within ?_) h₂).mono fun r w₃ _ h₃ => ?_
        · simp [Kind.Aside]
        cases r with
        | error e => exact h₃
        | ok u => exact ih h₃

theorem reconcileDirs_kept {settings : Settings} (dirs : List String) (h : w.Kept) :
    (reconcileDirs settings dirs).Always (booting seen instanceId) Memory.Kept
      (fun _ _ => True) w := by
  induction dirs generalizing w with
  | nil => exact ⟨h, trivial⟩
  | cons j rest ih =>
    unfold reconcileDirs
    rw [Action.always_bind]
    refine ⟨h, fun r w₁ hs => ?_⟩
    obtain rfl : w₁ = w := hs
    refine ⟨h, ?_⟩
    cases r with
    | error e => trivial
    | ok isDir =>
      dsimp only [onOk]
      rw [Action.always_ite]
      refine ⟨fun _ => ?_, fun _ => ih h⟩
      rw [Action.always_bind]
      refine (engine_always.mpr (recoverMarked_kept j h)).mono fun r w₂ h₂ _ => ?_
      cases r with
      | error e => trivial
      | ok u =>
        rw [onOk_ok, Action.always_bind]
        refine ⟨h₂, fun r w₃ hs => ?_⟩
        obtain rfl : w₃ = w₂ := hs
        refine ⟨h₂, ?_⟩
        cases r with
        | error e => trivial
        | ok states =>
          dsimp only [onOk]
          rw [Action.always_bind]
          refine (repostRestores_kept j states h₂).mono fun r w₄ _ h₄ => ?_
          cases r with
          | error e => trivial
          | ok u => exact ih h₄

/-- **At every point of a boot** a stop is remembered, or forgotten in one of the two ways. -/
theorem reconcileOnBoot_kept (settings : Settings) (h : w.Kept) :
    (reconcileOnBoot settings).Always (booting seen instanceId) Memory.Kept
      (fun _ _ => True) w := by
  unfold reconcileOnBoot
  rw [Action.always_bind]
  refine ⟨h, fun r w₁ hs => ?_⟩
  obtain rfl : w₁ = w := hs
  refine ⟨h, ?_⟩
  cases r with
  | error e => trivial
  | ok there =>
    dsimp only [onOk]
    rw [Action.always_ite]
    refine ⟨fun _ => ⟨h, trivial⟩, fun _ => ?_⟩
    rw [Action.always_bind]
    refine ⟨h, fun r w₂ hs => ?_⟩
    obtain rfl : w₂ = w₁ := hs
    refine ⟨h, ?_⟩
    cases r with
    | error e => trivial
    | ok dirs => exact reconcileDirs_kept dirs h

theorem Boots.kept (boots : Boots seen instanceId w w') (h : w.Kept) : w'.Kept := by
  induction boots with
  | none w => exact h
  | boot run rest ih =>
    have hreboot : Memory.Kept (Memory.reboot _) := ⟨h.remembered, h.gone⟩
    exact ih (Prog.always_iff_runs.mp (reconcileOnBoot_kept _ hreboot) _ _ run).1

end Boots

/-- **A crash leaves the instance remembered, unless it was forgotten in one of three ways.**
However far a backup got, and whatever the boots after it have done: the instance is
stopped, with no start issued by a boot and none of the job's own that ended well, never seen
running and with no marker on disk, exactly if the last write of the marker had left no file,
or a boot has removed the marker after a look at the containers that failed, or showed
neither an instance at rest nor a running one, or the job has removed it after a start that
raised or ended with another exit code than 0.  What counts as running (`seen`) is left
open. -/
theorem crash_leaves_memory (settings : Settings) (instanceId backupId : String)
    (destination : Option Destination) (volumeClasses : Option (List (String × String)))
    (releaseLock : Bool) (l : BackupLocals) (marker : Bool) (seen : List Container → Bool)
    {w w' : Memory} {q : Prog (Raises Answer JobError) (Except JobError Unit × BackupLocals)}
    (run : Run (remembering instanceId) { marker := marker }
      (backupInstance settings instanceId backupId destination volumeClasses releaseLock l) w q)
    (boots : Boots seen instanceId w w') :
    ¬ w'.Stranded ↔ (w'.stopped = true → w'.restarted = false → w'.observed = false →
      w'.unwritten = false ∧ w'.dropped = false ∧ w'.abandoned = false) := by
  have hkept : w.Kept := (Prog.always_iff_runs.mp (backupInstance_kept settings instanceId
    backupId destination volumeClasses releaseLock l marker) w q run).1
  have h' : w'.Kept := boots.kept hkept
  constructor
  · intro hsafe hstopped hrestarted hobserved
    have hremembered : ¬ w'.Forgotten := fun hx =>
      hsafe ⟨hstopped, hrestarted, hobserved, h'.gone hx⟩
    unfold Memory.Forgotten at hremembered
    simpa using hremembered
  · rintro hsafe ⟨hstopped, hrestarted, hobserved, hmarker⟩
    obtain ⟨hwritten, hstays, hheld⟩ := hsafe hstopped hrestarted hobserved
    have hcases := h'.remembered hstopped
    simp [hrestarted, hobserved, hmarker, Memory.Forgotten, hwritten, hstays, hheld] at hcases

/-! ## A boot that finds a mix of containers -/

/-- What the claim of a running instance needs: every container that counts runs. -/
def everyRunning (listed : List Container) : Bool :=
  listed.all fun c => c.ignoredForStatus || c.isRunning

/-- A daemon that lists the given containers and carries every command out. -/
def willing (listed : List Container) (w : Memory) (c : BackupCall) :
    Raises Answer JobError c × Memory :=
  match c with
  | .exists (.backupMarker _) => (.ok w.marker, w)
  | .writeText (.backupMarker j) _ =>
    (.ok (), if j = "i" then w.marked else w)
  | .unlink (.backupMarker j) => (.ok (), if j = "i" then w.unlinked else w)
  | .composeStop j =>
    (.ok (), if j = "i" then { w with stopped := true, restarted := false, unstarted := false } else w)
  | .composeUp j [] => (.ok (), if j = "i" then w.ran true else w)
  | .listContainers _ => (.ok listed, w)
  | c => (c.eventless, w)

theorem remembering_willing (listed : List Container) (w : Memory) (c : BackupCall) :
    (remembering "i").serve w c (willing listed w c).1 (willing listed w c).2 := by
  cases c with
  | «exists» file =>
    cases file with
    | backupMarker j => exact ⟨rfl, fun _ => rfl⟩
    | _ => rfl
  | writeText file content => cases file <;> rfl
  | unlink file => cases file <;> rfl
  | composeUp j services =>
    cases services with
    | nil => exact ⟨true, rfl⟩
    | cons service rest => rfl
  | _ => rfl

/-- The same daemon at the next boot, where only the one instance is on disk. -/
def awake (listed : List Container) (w : Memory) (c : BootCall) :
    Raises BootAnswer JobError c × Memory :=
  match c with
  | .engine (.listContainers j) =>
    (.ok listed, if j = "i" then w.looked everyRunning listed else w)
  | .engine (.composeUp j []) => (.ok (), if j = "i" then { w with restarted := true } else w)
  | .engine c => willing listed w c
  | .rootExists | .isDir _ => (.ok true, w)
  | .iterdir => (.ok ["i"], w)
  | .globRestoreStates _ => (.ok [], w)
  | .readRestoreState _ _ => (.error (.raised (.osError "")), w)

theorem booting_awake (listed : List Container) (w : Memory) (c : BootCall) :
    (booting everyRunning "i").serve w c (awake listed w c).1 (awake listed w c).2 := by
  cases c with
  | engine c =>
    cases c with
    | «exists» file => exact remembering_willing listed w (.exists file)
    | writeText file content => exact remembering_willing listed w (.writeText file content)
    | unlink file => exact remembering_willing listed w (.unlink file)
    | composeUp j services => cases services <;> rfl
    | _ => rfl
  | _ => rfl

/-- A cold backup. -/
def coldBackup : Prog (Raises Answer JobError) (Except JobError Unit × BackupLocals) :=
  backupInstance ownRepository "i" "b" none none true
    { payload := { backupId := "b", status := .failed } }

/-- The backup, killed right after the stop, and a boot that finds the given containers. -/
def afterBoot (listed : List Container) : Memory :=
  ((reconcileOnBoot ownRepository).evalFor (awake listed) 9
    (coldBackup.evalFor (willing [liveWeb]) 4 { marker := false }).1.reboot).1

theorem boots_after (listed : List Container) : Boots everyRunning "i"
    (coldBackup.evalFor (willing [liveWeb]) 4 { marker := false }).1 (afterBoot listed) :=
  .boot (Prog.run_evalFor (h := awake listed) (booting_awake listed) 9
    (reconcileOnBoot ownRepository) _) (.none _)

/-- A boot that finds the instance at rest starts it. -/
theorem crash_leaves_memory_at_rest : ¬ (afterBoot [crashedWorker]).Stranded := by
  refine (crash_leaves_memory ownRepository "i" "b" none none true _ false everyRunning
    (Prog.run_evalFor (h := willing [liveWeb]) (remembering_willing [liveWeb]) 4 coldBackup _)
    (boots_after [crashedWorker])).mpr ?_
  decide

/-- **A boot that finds a mix forgets the instance**: it was stopped, no start was issued,
and the marker is gone. -/
theorem mixed_boot_forgets : ∃ w w' q,
    Run (remembering "i") { marker := false } coldBackup w q ∧ w.stopped = true ∧
      w.marker = true ∧ Boots everyRunning "i" w w' ∧ w'.Stranded := by
  refine ⟨_, _, _, Prog.run_evalFor (h := willing [liveWeb]) (remembering_willing [liveWeb]) 4 _ _,
    by decide, by decide, boots_after [liveWeb, crashedWorker], by decide⟩

/-- A daemon that times out: the containers do not come to rest, and the start is given up. -/
def hung (w : Memory) (c : BackupCall) : Raises Answer JobError c × Memory :=
  match c with
  | .beforeDeadline => (.ok false, w)
  | .composeUp j [] =>
    (.error (.raised (.exception "TimeoutExpired")), if j = "i" then w.ran false else w)
  | c => willing [liveWeb] w c

-- The job gives its start up and removes the marker: no boot is needed to forget the instance.
example : (coldBackup.evalFor hung 40 { marker := false }).1.Stranded := by decide

end Greffer.Backup

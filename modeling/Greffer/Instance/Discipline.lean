import Greffer.Backup.Footprints
import Greffer.CertRenewal.Footprints
import Greffer.Instance.Lock

/-! # Who keeps to the lock

Every thread that uses the instance locks holds at most one of them, releases only what
it holds, and reserves or clears a hand-off **only while it holds that instance's lock**.
This is followed by a `Phase` for each thread, which any other call would break; that
none does is a judgement about each program alone (`starts_obeys`): the jobs reserve
before they release, the serialized operation clears after it has acquired, and a
renewal releases the lock of its probe before it takes the lock again.

Then the phases agree with the table in every state that any interleaving reaches
(`monitored`).
-/
namespace Greffer.Instance
open Effects

variable {H : Type} {HAns : H → Type}

/-- What a thread holds. -/
inductive Phase where
  | idle
  | holding (instanceId : String)
  /-- It has used a lock it does not hold, or taken a second one. -/
  | broken
  deriving DecidableEq

namespace Phase
variable (s : Phase) (i : String)

/-- The lock is taken. -/
def taken : Phase := if s = idle then holding i else broken

/-- The lock is used. -/
def used : Phase := if s = holding i then s else broken

/-- The lock is given back. -/
def released : Phase := if s = holding i then idle else broken

end Phase

/-- The phase of a job. -/
def afterJob (s : Phase) : (c : Backup.BackupCall) → Raises Backup.Answer Backup.JobError c → Phase
  | .acquireLock i, .ok true => s.taken i
  | .releaseLock, _ => .idle
  | .reserveHandoff i, _ => s.used i
  | _, _ => s

/-- The phase of a renewal. -/
def afterRenewal (s : Phase) : (c : CertRenewal.RenewalCall) →
    Raises CertRenewal.Answer CertRenewal.RenewalError c → Phase
  | .acquireUnlessHandoff i, .ok none => s.taken i
  | .releaseLock i, _ => s.released i
  | _, _ => s

/-- The phase of a control operation. -/
def afterControl (s : Phase) :
    (c : ControlCall H) → Raises (ControlCall.Answer HAns) ControlError c → Phase
  | .acquire i, .ok true => s.taken i
  | .clearHandoff i, _ => s.used i
  | .release i, _ => s.released i
  | _, _ => s

/-- The phases of the threads. -/
def phases (HAns : H → Type) : Monitor (Party.Reply HAns) Phase where
  after k s := match k with
    | .job => afterJob s
    | .renewal => afterRenewal s
    | .control => afterControl s

/-- The phases that are not broken. -/
def Keeping (s : Phase) : Prop := s ≠ .broken

theorem idle_keeping : Keeping .idle := fun h => by cases h

theorem holding_keeping (i : String) : Keeping (.holding i) := fun h => by cases h

@[simp] theorem Phase.used_holding (i : String) : (Phase.holding i).used i = .holding i := if_pos rfl

@[simp] theorem Phase.released_holding (i : String) : (Phase.holding i).released i = .idle :=
  if_pos rfl

/-- The machines of the phases. -/
abbrev jobPhases (HAns : H → Type) : Machine (Raises Backup.Answer Backup.JobError) Phase :=
  (phases HAns).machine .job

abbrev renewalPhases (HAns : H → Type) :
    Machine (Raises CertRenewal.Answer CertRenewal.RenewalError) Phase :=
  (phases HAns).machine .renewal

abbrev controlPhases (HAns : H → Type) :
    Machine (Raises (ControlCall.Answer HAns) ControlError) Phase :=
  (phases HAns).machine .control

/-! ## Control operations -/

/-- **A serialized operation keeps to the lock**, whatever its handler does. -/
theorem serialize_obeys (instanceId : String)
    (handler : Action (ControlCall.Answer HAns) ControlError Unit)
    (own : handler.Uses fun c => ∃ h, c = .handler h) :
    (serializeInstanceOp instanceId handler).Always (controlPhases HAns) Keeping
      (fun _ _ => True) .idle := by
  have hholding := holding_keeping instanceId
  have hhandler : handler.Always (controlPhases HAns) Keeping (fun _ s => s = .holding instanceId)
      (.holding instanceId) := by
    refine (own.always (I := fun s => s = .holding instanceId) ?_ rfl).imp ?_ fun _ _ h _ => h
    · rintro s c r s' ⟨h, rfl⟩ rfl rfl
      rfl
    · rintro s rfl
      exact hholding
  unfold serializeInstanceOp
  rw [Action.always_bind]
  refine ⟨idle_keeping, ?_⟩
  rintro (e | acquired) s rfl
  · exact ⟨idle_keeping, trivial⟩
  cases acquired with
  | false => exact ⟨idle_keeping, idle_keeping, trivial⟩
  | true =>
    refine ⟨hholding, ?_⟩
    rw [onOk_ok, if_pos rfl, Action.always_bind]
    refine ⟨hholding, ?_⟩
    rintro (e | ⟨⟩) s hs
    all_goals
      obtain rfl : s = .holding instanceId := hs.trans (Phase.used_holding instanceId)
    · exact ⟨hholding, trivial⟩
    refine ⟨hholding, ?_⟩
    rw [onOk_ok, Action.always_bind, Action.always_outcome]
    refine hhandler.mono ?_
    rintro r s - rfl
    rw [onOk_ok, Action.always_bind]
    refine ⟨hholding, ?_⟩
    rintro (e | ⟨⟩) s hs
    all_goals
      obtain rfl : s = .idle := hs.trans (Phase.released_holding instanceId)
    · exact ⟨idle_keeping, trivial⟩
    · exact ⟨idle_keeping, idle_keeping, trivial⟩

/-! ## Backup and restore jobs -/

section Jobs
open Backup

/-- The kinds of calls that leave the lock and the hand-off alone. -/
def Unlocked : Backup.Kind → Prop
  | .handoff | .acquire | .release => False
  | _ => True

theorem afterJob_unlocked {s : Phase} {c : BackupCall} (h : Unlocked c.kind)
    (r : Raises Backup.Answer JobError c) : afterJob s c r = s := by
  cases c <;> first | rfl | exact h.elim

theorem routine_frame {L α : Type} {m : Routine Backup.Answer JobError L α} {l : L}
    (h : RWithin Unlocked m) {s : Phase} (hs : Keeping s) :
    m.Always (jobPhases HAns) Keeping (fun _ _ s' => s' = s) l s := by
  refine (h.always (I := fun s' => s' = s) ?_ rfl).imp ?_ fun _ _ _ h _ => h
  · rintro s₁ c r s₂ hc rfl hs₂
    exact hs₂.trans (afterJob_unlocked hc r)
  · rintro s' rfl
    exact hs

theorem opensRepo_unlocked : OpensRepo Unlocked := ⟨trivial, trivial, trivial⟩

theorem routine_frame_bind {L α β : Type} {m : Routine Backup.Answer JobError L α}
    {f : α → Routine Backup.Answer JobError L β} {l : L} {s : Phase} (h : RWithin Unlocked m)
    (hs : Keeping s) (hf : ∀ a l, (f a).Always (jobPhases HAns) Keeping (fun _ _ _ => True) l s) :
    (m >>= f).Always (jobPhases HAns) Keeping (fun _ _ _ => True) l s := by
  rw [Routine.always_bind]
  refine (routine_frame h hs).mono ?_
  rintro (e | a) l s' - rfl
  · trivial
  · exact hf a l

/-- The release of a job, before more code that leaves the lock alone. -/
theorem release_bind {L β : Type} {f : Unit → Routine Backup.Answer JobError L β} {l : L}
    {s : Phase} (hs : Keeping s) (hf : RWithin Unlocked (f ())) :
    ((monadLift (call .releaseLock) : Routine Backup.Answer JobError L Unit) >>= f).Always
      (jobPhases HAns) Keeping (fun _ _ _ => True) l s := by
  rw [Routine.always_bind]
  refine ⟨hs, ?_⟩
  rintro (e | ⟨⟩) s' rfl
  · exact ⟨idle_keeping, trivial⟩
  · exact ⟨idle_keeping, (routine_frame hf idle_keeping).mono fun _ _ _ _ _ => trivial⟩

/-- A part of a job, and the cleanup after it. -/
theorem cleanup_obeys {L : Type} {m f : Routine Backup.Answer JobError L Unit} {l : L} {s : Phase}
    (h : RWithin Unlocked m) (hs : Keeping s)
    (hf : ∀ l, f.Always (jobPhases HAns) Keeping (fun _ _ _ => True) l s) :
    (m.tryFinally f).Always (jobPhases HAns) Keeping (fun _ _ _ => True) l s := by
  rw [Routine.always_tryFinally]
  refine (routine_frame h hs).mono ?_
  rintro r l s' - rfl
  refine (hf l).mono ?_
  rintro (e | ⟨⟩) l s - - <;> trivial

/-- **The backup job keeps to the lock** it was started with. -/
theorem backupInstance_obeys (settings : Settings) (instanceId backupId : String)
    (destination : Option Destination) (volumeClasses : Option (List (String × String)))
    (l : BackupLocals) :
    (backupInstance settings instanceId backupId destination volumeClasses true).Always
      (jobPhases HAns) Keeping (fun _ _ _ => True) l (.holding instanceId) := by
  have hholding := holding_keeping instanceId
  unfold backupInstance
  refine routine_frame_bind (Routine.uses_assign _) hholding fun _ l => ?_
  refine routine_frame_bind (lift_within (getStatus_within trivial)) hholding fun st l => ?_
  refine cleanup_obeys (Routine.Uses.tryExcept (backupBody_within trivial trivial
    opensRepo_unlocked trivial trivial (fun _ => trivial) trivial trivial)
    fun e => backupHandler_within) hholding fun l => ?_
  refine routine_frame_bind (backupCleanup_within trivial trivial (fun _ _ => trivial) trivial)
    hholding fun _ l => ?_
  refine release_bind hholding (Routine.uses_locals.bind fun l => ?_)
  exact (lift_within (postCallback_within trivial trivial)).bind fun _ => Routine.uses_pure _

/-- **The restore job keeps to the lock** it was started with: it reserves the hand-off
before it releases the lock. -/
theorem restoreInstance_obeys (settings : Settings) (instanceId resticSnapshotId restoreId : String)
    (destination : Option Destination) (manifest volumeClasses : Option (List (String × String)))
    (l : RestoreLocals) :
    (restoreInstance settings instanceId resticSnapshotId restoreId destination manifest
      volumeClasses true).Always (jobPhases HAns) Keeping (fun _ _ _ => True) l
      (.holding instanceId) := by
  have hholding := holding_keeping instanceId
  unfold restoreInstance
  refine routine_frame_bind (Routine.uses_assign _) hholding fun _ l => ?_
  refine routine_frame_bind (lift_within (getStatus_within trivial)) hholding fun st l => ?_
  refine cleanup_obeys (Routine.Uses.tryExcept (RestoreRequest.body_within _ trivial trivial trivial
    trivial opensRepo_unlocked trivial trivial (fun _ _ => trivial) (fun _ => trivial)
    (fun _ _ => trivial) fun _ => trivial) fun e => RestoreRequest.handler_within) hholding fun l => ?_
  refine routine_frame_bind (RestoreRequest.cleanup_within _ trivial trivial trivial trivial
    fun _ => trivial) hholding fun _ l => ?_
  have hrelease (payload : RestorePayload) (l : RestoreLocals) : Routine.Always (jobPhases HAns)
      Keeping (fun _ _ _ => True) (do
        call .releaseLock
        if ← postCallback (effectiveSettings settings destination instanceId) instanceId
            (.restore payload) then
          remove (.restoreState instanceId restoreId) : RestoreSteps Unit) l
      (.holding instanceId) := by
    refine release_bind hholding ?_
    refine (lift_within (postCallback_within trivial trivial)).bind fun acked => ?_
    split
    · exact lift_within (remove_within trivial)
    · exact Routine.uses_pure _
  unfold RestoreRequest.report
  refine routine_frame_bind Routine.uses_locals hholding fun l' l => ?_
  dsimp only
  rw [Routine.always_ite]
  refine ⟨fun _ => ?_, fun _ => hrelease _ l⟩
  · rw [Routine.always_bind]
    refine ⟨hholding, ?_⟩
    rintro (e | ⟨⟩) s hs
    all_goals
      obtain rfl : s = .holding instanceId := hs.trans (Phase.used_holding instanceId)
    · exact ⟨hholding, trivial⟩
    · exact ⟨hholding, hrelease _ l⟩

theorem lockedJob_obeys {L : Type} {job : Routine Backup.Answer JobError L Unit} {l : L}
    {s : Phase} (h : job.Always (jobPhases HAns) Keeping (fun _ _ _ => True) l s) :
    (lockedJob job).Always (jobPhases HAns) Keeping (fun _ _ _ => True) l s := by
  unfold lockedJob
  rw [Routine.always_tryFinally]
  refine h.mono fun r l s hs _ => ⟨hs, ?_⟩
  rintro (e | ⟨⟩) s' rfl <;> exact ⟨idle_keeping, trivial⟩

/-- Accepting a job takes its instance's lock. -/
theorem spawn_obeys (instanceId : String) :
    (spawn instanceId).Always (jobPhases HAns) Keeping
      (fun r s => r = .ok () → s = .holding instanceId) .idle := by
  have hholding := holding_keeping instanceId
  unfold spawn
  rw [Action.always_bind]
  refine ⟨idle_keeping, ?_⟩
  rintro (e | acquired) s rfl
  · exact ⟨idle_keeping, fun h => by cases h⟩
  cases acquired with
  | false => exact ⟨idle_keeping, idle_keeping, fun h => by cases h⟩
  | true =>
    refine ⟨hholding, ?_⟩
    dsimp only [onOk]
    rw [if_neg (show ¬ (!true) = true from Bool.false_ne_true), Action.always_tryExcept]
    refine ⟨hholding, ?_⟩
    rintro (e | ⟨⟩) s rfl
    · refine ⟨hholding, hholding, ?_⟩
      rintro (e' | ⟨⟩) s rfl
      · exact ⟨idle_keeping, fun h => by cases h⟩
      · exact ⟨idle_keeping, fun h => by cases h⟩
    · exact ⟨hholding, fun _ => rfl⟩

/-- **An accepted job keeps to its lock**, with the request that accepts it. -/
theorem job_obeys (j : AcceptedJob) : (do spawn j.instanceId; j.thread : Job Unit).Always
    (jobPhases HAns) Keeping (fun _ _ => True) .idle := by
  rw [Action.always_bind]
  refine (spawn_obeys j.instanceId).mono ?_
  rintro (e | ⟨⟩) s hs hheld
  · trivial
  obtain rfl := hheld rfl
  rw [onOk_ok]
  cases j with
  | backup settings i b dest classes =>
    exact Routine.always_run.mpr (lockedJob_obeys (backupInstance_obeys _ _ _ _ _ _))
  | restore settings i snap r dest manifest classes =>
    exact Routine.always_run.mpr (lockedJob_obeys (restoreInstance_obeys _ _ _ _ _ _ _ _))

end Jobs

/-! ## Renewal -/

section Renewal
open CertRenewal

/-- The calls that take or release no lock. -/
def Lockless : RenewalCall → Prop
  | .acquireUnlessHandoff _ | .releaseLock _ => False
  | _ => True

theorem lockless_of_renews {c : RenewalCall} (h : Renews c) : Lockless c := by
  cases c <;> trivial

theorem afterRenewal_lockless {s : Phase} {c : RenewalCall} (h : Lockless c)
    (r : Raises CertRenewal.Answer RenewalError c) : afterRenewal s c r = s := by
  cases c <;> first | rfl | exact h.elim

/-- From a phase to the same phase, however it ends. -/
def Restores {α : Type} (HAns : H → Type) (s : Phase) (f : Steps α) : Prop :=
  ∀ m, f.Always (renewalPhases HAns) Keeping (fun _ _ s' => s' = s) m s

section
variable {α β : Type} {s : Phase}

theorem restores_of_uses {f : Steps α} (h : f.Uses Lockless) (hs : Keeping s) :
    Restores HAns s f := by
  refine fun m => (h.always (I := fun s' => s' = s) ?_ rfl).imp ?_ fun _ _ _ h _ => h
  · rintro s₁ c r s₂ hc rfl hs₂
    exact hs₂.trans (afterRenewal_lockless hc r)
  · rintro s' rfl
    exact hs

theorem restores_renews {f : Steps α} (h : f.Uses Renews) (hs : Keeping s) : Restores HAns s f :=
  restores_of_uses (fun l => (h l).mono fun _ => lockless_of_renews) hs

theorem restores_call (c : RenewalCall) (hc : Lockless c) (hs : Keeping s) :
    Restores HAns s (monadLift (call c) : Steps (CertRenewal.Answer c)) :=
  restores_of_uses (Routine.uses_monadLift (Action.uses_perform hc)) hs

theorem Restores.bind {f : Steps α} {g : α → Steps β} (hf : Restores HAns s f)
    (hg : ∀ a, Restores HAns s (g a)) : Restores HAns s (f >>= g) := by
  intro m
  rw [Routine.always_bind]
  refine (hf m).mono ?_
  rintro (e | a) m' s' - rfl
  · rfl
  · exact hg a m'

theorem Restores.tryExcept {f : Steps α} {h : RenewalError → Steps α} (hf : Restores HAns s f)
    (hh : ∀ e, Restores HAns s (h e)) : Restores HAns s (f.tryExcept h) := by
  intro m
  rw [Routine.always_tryExcept]
  refine (hf m).mono ?_
  rintro (e | a) m' s' - rfl
  · exact hh e m'
  · rfl

theorem Restores.tryFinally {f : Steps α} {g : Steps Unit} (hf : Restores HAns s f)
    (hg : Restores HAns s g) : Restores HAns s (f.tryFinally g) := by
  intro m
  rw [Routine.always_tryFinally]
  refine (hf m).mono ?_
  rintro r m' s' - rfl
  refine (hg m').mono ?_
  rintro (e | ⟨⟩) m'' s'' - rfl <;> rfl

theorem Restores.ite {c : Prop} [Decidable c] {f g : Steps α} (hf : Restores HAns s f)
    (hg : Restores HAns s g) : Restores HAns s (if c then f else g) := by
  split
  · exact hf
  · exact hg

theorem restores_pure (a : α) (hs : Keeping s) : Restores HAns s (pure a : Steps α) :=
  fun _ => ⟨hs, rfl⟩

/-- **Under the lock**: taken if it is granted, and released however the code under it
ends. -/
theorem restores_locked {greffonId : String} {f : Steps α} {g : Option Refusal → Steps α}
    (hgranted : g none = f.tryFinally (call (.releaseLock greffonId))) (hf : f.Uses Renews)
    (hrefused : ∀ refusal, Restores HAns .idle (g (some refusal))) :
    Restores HAns .idle
      ((monadLift (call (.acquireUnlessHandoff greffonId)) : Steps (Option Refusal)) >>= g) := by
  intro m
  have hholding := holding_keeping greffonId
  rw [Routine.always_bind]
  refine ⟨idle_keeping, ?_⟩
  rintro (e | refusal) s rfl
  · exact ⟨idle_keeping, rfl⟩
  cases refusal with
  | some refusal => exact ⟨idle_keeping, hrefused refusal m⟩
  | none =>
    refine ⟨hholding, ?_⟩
    dsimp only [Routine.onOk]
    rw [hgranted, Routine.always_tryFinally]
    refine (restores_renews hf hholding m).mono ?_
    rintro r m' s' - rfl
    refine ⟨hholding, ?_⟩
    rintro (e | ⟨⟩) s' hs
    all_goals
      obtain rfl : s' = .idle := hs.trans (Phase.released_holding greffonId)
      exact ⟨idle_keeping, rfl⟩

end

theorem renewOne_restores (settings : CertRenewal.Settings) (greffonId : String) (force : Bool) :
    Restores HAns .idle (renewOne settings greffonId force) := by
  have hprobe : Restores HAns .idle (probeDebt settings greffonId) := by
    refine (restores_call (.composeInflight greffonId) trivial idle_keeping).bind fun inflight =>
      Restores.ite (restores_pure _ idle_keeping) ?_
    refine (restores_renews (renews_of_resolves (probe_uses (sidecarSettling_uses greffonId))) idle_keeping).bind
      fun settlingNow => Restores.ite (restores_pure _ idle_keeping) ?_
    exact restores_locked rfl (renews_of_resolves (probe_uses (probeLocked_uses greffonId settings))) fun _ =>
      restores_pure none idle_keeping
  have hsettle : Restores HAns .idle (settleDebt settings greffonId) := by
    refine (restores_renews (renews_of_resolves (owes_uses greffonId)) idle_keeping).bind fun owing =>
      Restores.ite (hprobe.bind fun probed => ?_) (restores_pure _ idle_keeping)
    cases probed with
    | none => exact restores_pure _ idle_keeping
    | some served => exact restores_renews (renews_of_resolves (report_uses greffonId served)) idle_keeping
  exact hsettle.bind fun _ => restores_locked rfl (renewLocked_uses settings greffonId force)
    fun _ => restores_pure _ idle_keeping

theorem attemptAll_restores (settings : CertRenewal.Settings) (only : Option String)
    (force : Bool) (statuses : List (String × String)) (t : Tally) :
    Restores HAns .idle (attemptAll settings only force statuses t) := by
  induction statuses generalizing t with
  | nil => exact restores_pure t idle_keeping
  | cons e rest ih =>
    obtain ⟨greffonId, status⟩ := e
    have hattempt (t : Tally) : Restores HAns .idle (attempt settings only force t greffonId) := by
      refine Restores.tryExcept ((renewOne_restores settings greffonId force).bind fun _ =>
        restores_pure _ idle_keeping) fun e => ?_
      have hcounted : Restores HAns .idle (do
          noteFailure settings greffonId
          return ({ t.select only greffonId .failed with errors := t.errors + 1 }, false) :
            Steps (Tally × Bool)) :=
        (restores_renews (renews_of_resolves (noteFailure_uses settings greffonId)) idle_keeping).bind fun _ =>
          restores_pure _ idle_keeping
      cases e <;> first | exact restores_pure _ idle_keeping | exact hcounted
    refine Restores.ite (ih t) ?_
    refine (restores_call .stopRequested trivial idle_keeping).bind fun stop =>
      Restores.ite (restores_pure t idle_keeping) ?_
    refine (hattempt _).bind fun r => ?_
    exact (restores_of_uses Routine.uses_locals idle_keeping).bind fun m =>
      Restores.ite (restores_pure _ idle_keeping) (ih _)

/-- **A renewal pass keeps to the locks**: it takes one at a time, and gives each back. -/
theorem renewAll_obeys (settings : CertRenewal.Settings) (only : Option String) (force : Bool)
    (m : Memory) : ((renewAll settings only force).run m).Always (renewalPhases HAns) Keeping
      (fun _ _ => True) .idle := by
  have hsave := @restores_renews _ HAns _ _ _ (renews_of_resolves saveUnconfirmed_uses) idle_keeping
  have hlisted (statuses : List (String × String)) :
      Restores HAns .idle (renewListed.listed settings only force statuses) := by
    refine (attemptAll_restores settings only force statuses {}).bind fun t => ?_
    refine Restores.bind ((restores_of_uses (Routine.uses_assign _) idle_keeping).bind
      fun _ => hsave) fun _ => ?_
    exact Restores.ite (restores_of_uses (Routine.uses_raise _) idle_keeping)
      (Restores.ite (restores_of_uses (Routine.uses_raise _) idle_keeping)
        (restores_pure _ idle_keeping))
  have hpass (statuses : List (String × String)) :
      Restores HAns .idle (renewListed settings only force statuses) := by
    unfold renewListed
    cases only with
    | none => exact hlisted statuses
    | some greffonId =>
      exact Restores.ite (hlisted statuses) (restores_of_uses (Routine.uses_raise _) idle_keeping)
  have hload : Restores HAns .idle loadUnconfirmed := by
    refine restores_of_uses (Routine.Uses.bind (Routine.uses_monadLift (Action.Uses.tryExcept
      (Action.uses_perform trivial) fun e => ?_)) fun _ => Routine.uses_assign _) idle_keeping
    split <;> trivial
  have hlocked : Restores HAns .idle (renewAllLocked settings only force) := by
    refine hload.bind fun _ => (restores_of_uses (Routine.uses_assign _) idle_keeping).bind fun _ =>
      (restores_call .stopRequested trivial idle_keeping).bind fun stop =>
        Restores.ite (restores_pure _ idle_keeping) ?_
    refine (restores_call .collectStatusMap trivial idle_keeping).bind fun statuses =>
      (restores_call .stopRequested trivial idle_keeping).bind fun stop =>
        Restores.ite (restores_pure _ idle_keeping) (hpass statuses)
  have hall : Restores HAns .idle (renewAll settings only force) :=
    (restores_call .acquirePassLock trivial idle_keeping).bind fun acquired => Restores.ite
      (hlocked.tryFinally (restores_call .releasePassLock trivial idle_keeping))
      (restores_of_uses (Routine.uses_raise _) idle_keeping)
  exact Routine.always_run.mpr ((hall m).mono fun _ _ _ _ _ => trivial)

end Renewal

/-! ## All threads -/

/-- **Every thread that starts keeps to the locks.** -/
theorem starts_obeys {t : Thread (Party.Reply HAns) Party.Result} (h : Starts t) :
    t.Obeys (phases HAns) Keeping .idle := by
  cases h with
  | job j => exact job_obeys j
  | renewal settings only force m => exact renewAll_obeys settings only force m
  | control instanceId handler own => exact serialize_obeys instanceId handler own

/-- The phase and the table agree on what the thread holds. -/
def Agree (n : Nat) (s : Phase) (w : Locks) : Prop :=
  ∀ i, w.holder i = some n ↔ s = .holding i

/-- Only threads below `n` hold a lock. -/
def HeldBelow (n : Nat) (w : Locks) : Prop := ∀ i m, w.holder i = some m → m < n

/-- **What a call does to the holders**, given that it breaks no phase: nothing, or the
thread takes a free lock, or it gives back the lock it holds. -/
inductive Moves (n : Nat) (s : Phase) (w : Locks) : Phase → Locks → Prop
  | stays {s' : Phase} {w' : Locks} (hs : s' = s) (h : w'.holder = w.holder) : Moves n s w s' w'
  | takes {s' : Phase} {w' : Locks} (i : String) (hidle : s = .idle) (hfree : w.holder i = none)
      (hs : s' = .holding i) (h : w'.holder = Function.update w.holder i (some n)) :
      Moves n s w s' w'
  | gives {s' : Phase} {w' : Locks} (hs : s' = .idle)
      (h : w'.holder = fun i => if w.holder i = some n then none else w.holder i) :
      Moves n s w s' w'

theorem moves_taken {n : Nat} {s : Phase} {w w' : Locks} {i : String} (hfree : w.holder i = none)
    (hok : Keeping (s.taken i)) (h : w'.holder = Function.update w.holder i (some n)) :
    Moves n s w (s.taken i) w' := by
  unfold Phase.taken at hok ⊢
  by_cases hidle : s = .idle
  · rw [if_pos hidle]
    exact .takes i hidle hfree rfl h
  · rw [if_neg hidle] at hok
    exact absurd rfl hok

theorem moves_acquire {n : Nat} {s : Phase} {w : Locks} {i : String} (after : Bool → Phase)
    (hgranted : after true = s.taken i) (hrefused : after false = s)
    (hok : Keeping (after (w.acquire n i).1)) :
    Moves n s w (after (w.acquire n i).1) (w.acquire n i).2 := by
  rcases w.acquire_cases n i with ⟨hfree, h⟩ | ⟨-, h⟩
  · rw [h] at hok ⊢
    dsimp only at hok ⊢
    rw [hgranted] at hok ⊢
    exact moves_taken hfree hok rfl
  · rw [h]
    exact .stays hrefused rfl

theorem moves_used {n : Nat} {s : Phase} {w w' : Locks} {i : String} (hok : Keeping (s.used i))
    (h : w'.holder = w.holder) : Moves n s w (s.used i) w' := by
  unfold Phase.used at hok ⊢
  by_cases hs : s = .holding i
  · rw [if_pos hs]
    exact .stays rfl h
  · rw [if_neg hs] at hok
    exact absurd rfl hok

theorem moves_release {n : Nat} {s : Phase} {w : Locks} {i : String} (hagree : Agree n s w)
    (hok : Keeping (s.released i)) : Moves n s w (s.released i) (w.release i) := by
  unfold Phase.released at hok ⊢
  by_cases hs : s = .holding i
  · rw [if_pos hs]
    refine .gives rfl (funext fun j => ?_)
    by_cases hj : j = i
    · subst hj
      simp [Locks.release, (hagree j).mpr hs]
    · have hne : w.holder j ≠ some n := by
        intro h
        rw [(hagree j).mp h] at hs
        cases hs
        exact hj rfl
      simp [Locks.release, hj, hne]
  · rw [if_neg hs] at hok
    exact absurd rfl hok

/-- **Every call moves the locks and the phase together.** -/
theorem moves_of_serve {n : Nat} {k : Party} {s : Phase} {w w' : Locks} {c : k.Call H}
    {r : Party.Reply HAns k c} (hs : (shared HAns).serve n k w c r w') (hagree : Agree n s w)
    (hok : Keeping ((phases HAns).after k s c r)) :
    Moves n s w ((phases HAns).after k s c r) w' := by
  cases k with
  | job =>
    cases c <;> first | exact .stays rfl (congrArg Locks.holder hs) | skip
    case reserveHandoff i =>
      obtain ⟨-, rfl⟩ := (show r = .ok () ∧ w' = w.reserve i from hs)
      exact moves_used hok rfl
    case acquireLock i =>
      obtain ⟨rfl, rfl⟩ := Prod.mk.inj
        (show (r, w') = (.ok (w.acquire n i).1, (w.acquire n i).2) from hs)
      exact moves_acquire (fun granted => afterJob s (.acquireLock i) (.ok granted)) rfl rfl hok
    case releaseLock =>
      obtain ⟨-, rfl⟩ := (show r = .ok () ∧ w' = w.releaseOnce n from hs)
      exact .gives rfl rfl
  | renewal =>
    cases c <;> first | exact .stays rfl (congrArg Locks.holder hs) | skip
    case acquireUnlessHandoff i =>
      obtain ⟨rfl, rfl⟩ := Prod.mk.inj
        (show (r, w') = (.ok (w.acquireUnlessHandoff n i).1, (w.acquireUnlessHandoff n i).2) from hs)
      rcases w.acquireUnlessHandoff_cases n i with ⟨-, h⟩ | ⟨w₁, hl, ⟨hfree, h⟩ | ⟨-, h⟩⟩
      · rw [h] at hok ⊢
        exact .stays rfl rfl
      · rw [h] at hok ⊢
        refine moves_taken hfree hok ?_
        rw [← hl.holder]
        rfl
      · rw [h] at hok ⊢
        exact .stays rfl hl.holder
    case releaseLock i =>
      obtain ⟨-, rfl⟩ := (show r = .ok () ∧ w' = w.release i from hs)
      exact moves_release hagree hok
  | control =>
    cases c with
    | handler h => exact .stays rfl (congrArg Locks.holder hs)
    | clearHandoff i =>
      obtain ⟨-, rfl⟩ := (show r = .ok () ∧ w' = w.clear i from hs)
      exact moves_used hok rfl
    | acquire i =>
      obtain ⟨rfl, rfl⟩ := Prod.mk.inj
        (show (r, w') = (.ok (w.acquire n i).1, (w.acquire n i).2) from hs)
      exact moves_acquire (fun granted => afterControl s (.acquire i) (.ok granted)) rfl rfl hok
    | release i =>
      obtain ⟨-, rfl⟩ := (show r = .ok () ∧ w' = w.release i from hs)
      exact moves_release hagree hok

namespace Moves
variable {n : Nat} {s s' : Phase} {w w' : Locks}

/-- The thread's own phase agrees with the table after the move. -/
theorem own (h : Moves n s w s' w') (hagree : Agree n s w) : Agree n s' w' := by
  intro i
  cases h with
  | stays hs h =>
    rw [hs, h]
    exact hagree i
  | takes j hidle hfree hs h =>
    rw [hs, h]
    by_cases hj : i = j
    · subst hj
      simp
    · rw [Function.update_of_ne hj, hagree i, hidle]
      exact ⟨fun hx => (by cases hx), fun hx => absurd (by cases hx; rfl) hj⟩
  | gives hs h =>
    rw [hs, h]
    dsimp only
    split
    · exact ⟨fun hx => (by cases hx), fun hx => (by cases hx)⟩
    · rename_i hne
      exact ⟨fun hx => absurd hx hne, fun hx => by cases hx⟩

/-- What another thread holds is not touched. -/
theorem others (h : Moves n s w s' w') {n' : Nat} (hn : n' ≠ n) (i : String) :
    w'.holder i = some n' ↔ w.holder i = some n' := by
  cases h with
  | stays _ h => rw [h]
  | takes j _ hfree _ h =>
    rw [h]
    by_cases hj : i = j
    · subst hj
      simp [hfree, Ne.symm hn]
    · rw [Function.update_of_ne hj]
  | gives _ h =>
    rw [h]
    dsimp only
    split
    · rename_i hi
      rw [hi]
      exact ⟨fun hx => (by cases hx), fun hx => absurd (Option.some.inj hx).symm hn⟩
    · exact Iff.rfl

theorem heldBelow (h : Moves n s w s' w') {N : Nat} (hn : n < N) (hw : HeldBelow N w) :
    HeldBelow N w' := by
  intro i m hm
  by_cases hmn : m = n
  · rw [hmn]
    exact hn
  · exact hw i m ((h.others hmn i).mp hm)

end Moves

/-- **The phases and the table agree**, in every interleaving. -/
theorem monitored : Monitored (shared HAns) Starts (phases HAns) Keeping Agree HeldBelow where
  own hs hagree hok := (moves_of_serve hs hagree hok).own hagree
  other hs hagree hok hn hagree' i := ((moves_of_serve hs hagree hok).others hn i).trans (hagree' i)
  drift := by
    rintro w w' n s ⟨now, -, rfl⟩ hagree
    exact hagree
  fresh := by
    intro t n w hstart hbelow
    refine ⟨.idle, starts_obeys hstart, fun i => ⟨fun h => ?_, fun h => by cases h⟩⟩
    exact absurd (hbelow i n h) (Nat.lt_irrefl n)
  bounded_serve hs hagree hok hn hbelow := (moves_of_serve hs hagree hok).heldBelow hn hbelow
  bounded_drift := by
    rintro w w' N ⟨now, -, rfl⟩ hbelow
    exact hbelow
  bounded_succ hbelow i m hm := Nat.lt_succ_of_lt (hbelow i m hm)

end Greffer.Instance

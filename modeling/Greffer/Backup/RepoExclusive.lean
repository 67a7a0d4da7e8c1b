import Mathlib.Logic.Function.Basic
import Greffer.Backup.RepoOps

/-! # One operation for each repository

Any number of requests for repository-wide operations, each a thread, in any
interleaving of their calls.  `RepoLocks` is what they share: the registry of locks, who
holds each of them, and which threads are at work.

An acquire is **prompt** if the lock it finds free is still the registered one of its
key.  Between the lookup and the acquire of one request, the job of another may take the
very lock out of the registry and release it; an acquire that comes then is not prompt,
and a third request finds a fresh lock.  Where every acquire is prompt no two operations
of one key are at work together.  Without any assumption, a key that refuses new
operations has an unfinished one.

The argument follows each thread through a `RepoPhase`: a job that holds a lock holds
no other, gives it up before it returns, and, where the acquires are prompt, its lock
stays registered until the job takes it out itself.
-/
namespace Greffer.Backup
open Effects RepoSteps

/-- The locks of repository operations, as all threads see them. -/
structure RepoLocks where
  /-- `_REPO_OP_LOCKS`. -/
  registry : String → Option RepoLock
  /-- The thread that holds the lock. -/
  holder : RepoLock → Option Nat
  /-- How many locks have been made. -/
  made : Nat
  /-- The key of the operation that runs in the thread. -/
  running : Nat → Option String

namespace RepoLocks
variable (w : RepoLocks) (n : Nat) (repo : String) (lock : RepoLock)

/-- `_repo_op_lock`. -/
def lookup : RepoLock × RepoLocks :=
  match w.registry repo with
  | some lock => (lock, w)
  | none => (⟨repo, w.made⟩, { w with
      registry := Function.update w.registry repo (some ⟨repo, w.made⟩)
      made := w.made + 1 })

def take : RepoLocks := { w with holder := Function.update w.holder lock (some n) }

/-- `lock.acquire(blocking=False)`. -/
def acquire : Bool × RepoLocks :=
  if (w.holder lock).isNone then (true, w.take n lock) else (false, w)

/-- The job's thread is started. -/
def begin : RepoLocks := { w with running := Function.update w.running n (some repo) }

/-- The work is over, and the lock leaves the registry if it is the one there. -/
def pop : RepoLocks := { w with
  registry := if w.registry repo = some lock then Function.update w.registry repo none
    else w.registry
  running := Function.update w.running n none }

def release : RepoLocks := { w with holder := Function.update w.holder lock none }

/-- A new operation on the key would be refused. -/
def Refuses : Prop := ∃ lock, w.registry repo = some lock ∧ w.holder lock ≠ none

/-- A registered lock is one of its key. -/
def Sound : Prop := ∀ repo lock, w.registry repo = some lock → lock.repo = repo

end RepoLocks

/-- **What the threads share**: the calls on the locks are atomic, a thread may fail to
start, and the work answers as it likes. -/
def repoLocks : Shared (fun _ : Unit => Raises RepoOpCall.Answer JobError) RepoLocks where
  serve n _ w
    | .repoOpLock repo, r, w' => (r, w') = (.ok (w.lookup repo).1, (w.lookup repo).2)
    | .acquire lock, r, w' => (r, w') = (.ok (w.acquire n lock).1, (w.acquire n lock).2)
    | .startThread job, r, w' =>
      (r = .ok () ∧ w' = w.begin n job.repo) ∨ ((∃ e, r = .error e) ∧ w' = w)
    | .pop repo lock, r, w' => r = .ok () ∧ w' = w.pop n repo lock
    | .release lock, r, w' => r = .ok () ∧ w' = w.release lock
    | _, _, w' => w' = w
  drift w w' := w' = w

/-- The threads: one for each request. -/
inductive RepoThread :
    Thread (fun _ : Unit => Raises RepoOpCall.Answer JobError) (fun _ => Except JobError Unit) → Prop
  | request (settings : Settings) (op : RepoOp) (destination : Option Destination) :
    RepoThread ⟨(), repoOpRequest settings op destination⟩

/-- A lock that is found free is still the registered one. -/
def PromptAcquire (w : RepoLocks) (_ : Unit) : RepoOpCall → Prop
  | .acquire lock => w.holder lock = none → w.registry lock.repo = some lock
  | _ => True

/-! ## Phases -/

/-- Where a request is. -/
inductive RepoPhase where
  /-- It has no lock: it has not looked for one, was refused, or is done. -/
  | idle
  | found (lock : RepoLock)
  | holding (lock : RepoLock)
  /-- The lock is out of the registry. -/
  | popped (lock : RepoLock)
  /-- It made a call out of turn. -/
  | astray
  /-- It was answered as the locks answer nobody. -/
  | absurd

/-- The phase, after a call. -/
def RepoPhase.after (_ : Unit) : RepoPhase → (c : RepoOpCall) → Raises RepoOpCall.Answer JobError c →
    RepoPhase
  | .absurd, _, _ => .absurd
  | .idle, .repoOpLock repo, .ok lock => if lock.repo = repo then .found lock else .absurd
  | .idle, .repoOpLock _, .error _ => .absurd
  | .found lock, .acquire l, .ok true => if l = lock then .holding lock else .astray
  | .found _, .acquire _, .ok false => .idle
  | .found _, .acquire _, .error _ => .absurd
  | .holding lock, .startThread job, _ => if job.repo = lock.repo then .holding lock else .astray
  | .holding lock, .pop repo l, .ok _ =>
    if repo = lock.repo ∧ l = lock then .popped lock else .astray
  | .holding _, .pop _ _, .error _ => .absurd
  | .popped lock, .release l, .ok _ => if l = lock then .idle else .astray
  | .popped _, .release _, .error _ => .absurd
  | .holding lock, .engine _, _ | .holding lock, .start _ _, _ | .holding lock, .await _ _, _
  | .holding lock, .listInstanceIds, _ => .holding lock
  | _, _, _ => .astray

/-- Requests, followed through their phases. -/
def repoMonitor : Monitor (fun _ : Unit => Raises RepoOpCall.Answer JobError) RepoPhase where
  after := RepoPhase.after

/-- No call out of turn was made. -/
def RepoPhase.InTurn (s : RepoPhase) : Prop := s ≠ .astray

/-- The request holds nothing. -/
def RepoPhase.Ended (s : RepoPhase) : Prop := s = .idle ∨ s = .absurd

/-! ## Requests keep to their turns -/

/-- One kind of thread. -/
abbrev repoPhases : Machine (Raises RepoOpCall.Answer JobError) RepoPhase := repoMonitor.machine ()

/-- The calls of the work, which leave the locks alone. -/
def RepoOpCall.IsWork : RepoOpCall → Prop
  | .engine _ | .start _ _ | .await _ _ | .listInstanceIds => True
  | _ => False

/-- Whoever was answered as nobody is need not be followed. -/
theorem absurd_always {α : Type} (p : Prog (Raises RepoOpCall.Answer JobError) α) :
    p.Always repoPhases RepoPhase.InTurn (fun _ s => s = .absurd) .absurd := by
  induction p with
  | pure a => exact ⟨by simp [RepoPhase.InTurn], rfl⟩
  | call c next ih =>
    refine ⟨by simp [RepoPhase.InTurn], fun r s hs => ?_⟩
    obtain rfl : s = .absurd := hs
    exact ih r

theorem absurd_ended {α : Type} (m : RepoSteps α) {Q : Except JobError α → RepoPhase → Prop}
    (hQ : ∀ r, Q r .absurd) : m.Always repoPhases RepoPhase.InTurn Q .absurd := by
  refine Prog.Always.mono (absurd_always m) fun r s _ hs => ?_
  obtain rfl : s = .absurd := hs
  exact hQ r

theorem engine_work {α : Type} (m : Job α) : (engine m).Uses RepoOpCall.IsWork := by
  induction m with
  | pure r => trivial
  | call c next ih => exact ⟨trivial, ih⟩

theorem fn_work (op : RepoOp) (settings : Settings) : (op.fn settings).Uses RepoOpCall.IsWork := by
  have hrun : ∀ failure, (runRepoOp op failure settings).Uses RepoOpCall.IsWork := by
    intro failure
    refine Action.Uses.tryExcept (Action.Uses.bind (engine_work _) fun _ => ?_)
      fun _ => Action.uses_pure _
    refine Action.Uses.bind (Action.uses_ofExcept _) fun env => ?_
    refine Action.Uses.bind (Action.uses_perform trivial) fun _ => ?_
    refine Action.Uses.bind (Action.uses_perform trivial) fun ended => ?_
    split
    · exact Action.uses_pure _
    · exact Action.uses_pure _
  cases op with
  | prune => exact hrun _
  | check => exact hrun _

theorem repoMissing_work (settings : Settings) : (repoMissing settings).Uses RepoOpCall.IsWork := by
  refine Action.Uses.bind (engine_work _) fun ended => ?_
  split
  · exact Action.uses_pure _
  · exact Action.uses_pure _

theorem repoOpEach_work (op : RepoOp) (settings : Settings) (ids : List String) :
    (repoOpEach op settings ids).Uses RepoOpCall.IsWork := by
  induction ids with
  | nil => exact Action.uses_pure _
  | cons iid rest ih =>
    refine Action.Uses.bind (Action.Uses.tryExcept ?_ fun _ => Action.uses_pure _) fun _ => ih
    refine Action.Uses.bind (repoMissing_work _) fun missing => ?_
    split
    · exact Action.Uses.bind (fn_work _ _) fun _ => Action.uses_pure _
    · exact Action.uses_pure _

theorem RepoJob.work_work (job : RepoJob) : job.work.Uses RepoOpCall.IsWork := by
  unfold RepoJob.work
  split
  · exact Action.Uses.bind (Action.uses_perform trivial) fun ids => repoOpEach_work _ _ ids
  · exact Action.Uses.bind (fn_work _ _) fun _ => Action.uses_pure _

variable {lock : RepoLock}

/-- Work is done under the lock. -/
theorem holding_work {α : Type} {m : RepoSteps α} (h : m.Uses RepoOpCall.IsWork) :
    m.Always repoPhases RepoPhase.InTurn (fun _ s => s = .holding lock) (.holding lock) := by
  refine (h.always (I := fun s => s = .holding lock) ?_ rfl).imp ?_ fun _ _ _ hs => hs
  · intro s c r s' hc hs hserve
    obtain rfl : s' = RepoPhase.after () s c r := hserve
    subst hs
    cases c <;> first | exact hc.elim | rfl
  · intro s hs
    subst hs
    simp [RepoPhase.InTurn]

/-- **A job that reaps its lock ends with none.** -/
theorem reap_ended : (reapRepoOpLock lock.repo lock).Always repoPhases RepoPhase.InTurn
    (fun _ s => s.Ended) (.holding lock) := by
  unfold reapRepoOpLock
  rw [Action.always_bind]
  refine ⟨by simp [RepoPhase.InTurn], fun r s hs => ?_⟩
  obtain rfl : s = RepoPhase.after () (.holding lock) (.pop lock.repo lock) r := hs
  cases r with
  | error e => exact ⟨by simp [RepoPhase.InTurn, RepoPhase.after], .inr rfl⟩
  | ok u =>
    have hpopped : RepoPhase.after () (.holding lock) (.pop lock.repo lock) (.ok u) =
        .popped lock := by simp [RepoPhase.after]
    rw [hpopped]
    refine ⟨by simp [RepoPhase.InTurn], by simp [RepoPhase.InTurn], fun r s hs => ?_⟩
    obtain rfl : s = RepoPhase.after () (.popped lock) (.release lock) r := hs
    cases r with
    | error e => exact ⟨by simp [RepoPhase.InTurn, RepoPhase.after], .inr rfl⟩
    | ok u =>
      have hidle : RepoPhase.after () (.popped lock) (.release lock) (.ok u) = .idle := by
        simp [RepoPhase.after]
      rw [hidle]
      exact ⟨by simp [RepoPhase.InTurn], .inl rfl⟩

theorem reapThen_ended {α : Type} (result : Except JobError α) :
    (reapRepoOpLock lock.repo lock >>= fun _ => Action.ofExcept result).Always repoPhases
      RepoPhase.InTurn (fun _ s => s.Ended) (.holding lock) := by
  rw [Action.always_bind]
  refine reap_ended.mono fun r s hturn hs => ?_
  cases r with
  | error e => exact hs
  | ok u => exact ⟨hturn, hs⟩

/-- How a spawn ends: it raises and has nothing, or answers with a job that has its lock. -/
def RepoPhase.Started (r : Except JobError RepoJob) (s : RepoPhase) : Prop :=
  s = .absurd ∨ ((∃ e, r = .error e) ∧ s = .idle) ∨
    ∃ job, r = .ok job ∧ job.lock.repo = job.repo ∧ s = .holding job.lock

theorem RepoPhase.Ended.raised {s : RepoPhase} (h : s.Ended) (e : JobError) :
    s.Started (.error e) := by
  rcases h with rfl | rfl
  · exact .inr (.inl ⟨⟨e, rfl⟩, rfl⟩)
  · exact .inl rfl

/-- A start that fails reaps the lock, and raises. -/
theorem reapRaise_started (e : JobError) :
    (reapRepoOpLock lock.repo lock >>= fun _ => Action.raise e).Always repoPhases
      RepoPhase.InTurn (fun r s => RepoPhase.Started r s) (.holding lock) := by
  rw [Action.always_bind]
  refine reap_ended.mono fun r s hturn hs => ?_
  cases r with
  | error e => exact hs.raised e
  | ok u => exact ⟨hturn, hs.raised e⟩

theorem RepoJob.thread_ended (job : RepoJob) (h : job.lock.repo = job.repo) :
    job.thread.Always repoPhases RepoPhase.InTurn (fun _ s => s.Ended) (.holding job.lock) := by
  unfold RepoJob.thread
  rw [Action.always_bind, Action.always_outcome, ← h]
  refine (holding_work job.work_work).mono fun r s _ hs => ?_
  subst hs
  exact reapThen_ended r

theorem RepoJob.start_started (job : RepoJob) (h : job.lock.repo = job.repo) :
    job.start.Always repoPhases RepoPhase.InTurn (fun r s => RepoPhase.Started r s) (.holding job.lock) := by
  have hheld : ∀ r, RepoPhase.after () (.holding job.lock) (.startThread job) r =
      .holding job.lock := by
    intro r
    simp [RepoPhase.after, h]
  unfold RepoJob.start
  rw [Action.always_tryExcept, Action.always_bind]
  refine ⟨by simp [RepoPhase.InTurn], fun r s hs => ?_⟩
  obtain rfl : s = .holding job.lock := hs.trans (hheld r)
  refine ⟨by simp [RepoPhase.InTurn], ?_⟩
  cases r with
  | ok u => exact ⟨by simp [RepoPhase.InTurn], .inr (.inr ⟨job, rfl, h, rfl⟩)⟩
  | error e =>
    rw [onOk_error]
    dsimp only
    rw [← h]
    exact reapRaise_started e

theorem startLocked_started (repo : String) (op : RepoOp) (settings : Settings) (fanOut : Bool) :
    (startLocked repo op settings fanOut).Always repoPhases RepoPhase.InTurn
      (fun r s => RepoPhase.Started r s) .idle := by
  have hlost : ∀ r : Except JobError RepoJob, RepoPhase.Started r .absurd := fun _ => .inl rfl
  unfold startLocked
  rw [Action.always_bind]
  refine ⟨by simp [RepoPhase.InTurn], fun r s hs => ?_⟩
  obtain rfl : s = RepoPhase.after () .idle (.repoOpLock repo) r := hs
  cases r with
  | error e => exact ⟨by simp [RepoPhase.InTurn, RepoPhase.after], hlost _⟩
  | ok lock =>
    by_cases hkey : lock.repo = repo
    · have hfound : RepoPhase.after () .idle (.repoOpLock repo) (.ok lock) = .found lock := by
        simp [RepoPhase.after, hkey]
      rw [hfound]
      refine ⟨by simp [RepoPhase.InTurn], ?_⟩
      rw [onOk_ok, Action.always_bind]
      refine ⟨by simp [RepoPhase.InTurn], fun r s hs => ?_⟩
      obtain rfl : s = RepoPhase.after () (.found lock) (.acquire lock) r := hs
      cases r with
      | error e => exact ⟨by simp [RepoPhase.InTurn, RepoPhase.after], hlost _⟩
      | ok acquired =>
        cases acquired with
        | false => exact ⟨by simp [RepoPhase.InTurn, RepoPhase.after],
            by simp [RepoPhase.InTurn, RepoPhase.after], .inr (.inl ⟨⟨_, rfl⟩, rfl⟩)⟩
        | true =>
          have hheld : RepoPhase.after () (.found lock) (.acquire lock) (.ok true) =
              .holding lock := by simp [RepoPhase.after]
          rw [hheld]
          exact ⟨by simp [RepoPhase.InTurn],
            RepoJob.start_started ⟨repo, lock, op, settings, fanOut⟩ hkey⟩
    · have hnobody : RepoPhase.after () .idle (.repoOpLock repo) (.ok lock) = .absurd := by
        simp [RepoPhase.after, hkey]
      rw [hnobody]
      exact ⟨by simp [RepoPhase.InTurn], absurd_ended _ hlost⟩

theorem spawnRepoOp_started (settings : Settings) (op : RepoOp)
    (destination : Option Destination) :
    (spawnRepoOp settings op destination).Always repoPhases RepoPhase.InTurn
      (fun r s => RepoPhase.Started r s) .idle := by
  unfold spawnRepoOp
  split
  · exact startLocked_started _ _ _ _
  · dsimp only
    split
    · exact ⟨by simp [RepoPhase.InTurn], .inr (.inl ⟨⟨_, rfl⟩, rfl⟩)⟩
    · exact startLocked_started _ _ _ _

/-- **Every request keeps to its turns, and returns without a lock.** -/
theorem request_ended (settings : Settings) (op : RepoOp) (destination : Option Destination) :
    (repoOpRequest settings op destination).Always repoPhases RepoPhase.InTurn
      (fun _ s => s.Ended) .idle := by
  unfold repoOpRequest
  rw [Action.always_bind]
  refine (spawnRepoOp_started settings op destination).mono fun r s hturn hs => ?_
  rcases hs with rfl | ⟨⟨e, rfl⟩, rfl⟩ | ⟨job, rfl, hkey, rfl⟩
  · cases r with
    | error e => exact .inr rfl
    | ok job => exact absurd_ended _ fun _ => .inr rfl
  · exact .inl rfl
  · exact job.thread_ended hkey

/-! ## Requests and the locks agree -/

/-- The thread holds this lock and no other. -/
def RepoLocks.Holds (w : RepoLocks) (n : Nat) (lock : RepoLock) : Prop :=
  w.holder lock = some n ∧ ∀ l, w.holder l = some n → l = lock

/-- The thread is in this phase; if `prompt`, a lock that is held is registered. -/
def RepoLocks.Agrees (prompt : Prop) (n : Nat) (s : RepoPhase) (w : RepoLocks) : Prop :=
  w.Sound ∧ match s with
    | .idle | .found _ => w.running n = none ∧ ∀ l, w.holder l ≠ some n
    | .holding lock => w.Holds n lock ∧ (∀ repo, w.running n = some repo → repo = lock.repo) ∧
        (prompt → w.registry lock.repo = some lock)
    | .popped lock => w.Holds n lock ∧ w.running n = none
    | .astray | .absurd => False

/-- The calls the guard lets through. -/
abbrev promptIf (prompt : Prop) (w : RepoLocks) (k : Unit) (c : RepoOpCall) : Prop :=
  prompt → PromptAcquire w k c

/-- The turns of a request. -/
inductive RepoTurn : RepoPhase → (c : RepoOpCall) → Raises RepoOpCall.Answer JobError c →
    RepoPhase → Prop
  | found (lock : RepoLock) : RepoTurn .idle (.repoOpLock lock.repo) (.ok lock) (.found lock)
  | acquired (lock : RepoLock) : RepoTurn (.found lock) (.acquire lock) (.ok true) (.holding lock)
  | refused (lock l : RepoLock) : RepoTurn (.found lock) (.acquire l) (.ok false) .idle
  | started (lock : RepoLock) (job : RepoJob) (r : Except JobError Unit)
      (h : job.repo = lock.repo) : RepoTurn (.holding lock) (.startThread job) r (.holding lock)
  | popped (lock : RepoLock) :
    RepoTurn (.holding lock) (.pop lock.repo lock) (.ok ()) (.popped lock)
  | released (lock : RepoLock) : RepoTurn (.popped lock) (.release lock) (.ok ()) .idle
  | worked (lock : RepoLock) (c : RepoOpCall) (r : Raises RepoOpCall.Answer JobError c)
      (h : c.IsWork) : RepoTurn (.holding lock) c r (.holding lock)

variable {prompt : Prop} {n n' : Nat} {w w' : RepoLocks} {s s' : RepoPhase} {c : RepoOpCall}
  {r : Raises RepoOpCall.Answer JobError c}

theorem RepoLocks.Sound.lookup (h : w.Sound) (repo : String) : (w.lookup repo).1.repo = repo := by
  unfold RepoLocks.lookup
  cases hr : w.registry repo with
  | none => rfl
  | some lock => exact h repo lock hr

/-- **A call in turn is one of the turns.** -/
theorem turn_of_serve (hserve : repoLocks.serve n () w c r w') (h : w.Agrees prompt n s)
    (hturn : (RepoPhase.after () s c r).InTurn) : RepoTurn s c r (RepoPhase.after () s c r) := by
  obtain ⟨hsound, hphase⟩ := h
  -- By where the request is: a call that is not expected there brings it out of turn.
  cases s with
  | astray => exact hphase.elim
  | absurd => exact hphase.elim
  | idle =>
    cases c with
    | repoOpLock repo =>
      obtain ⟨rfl, -⟩ := Prod.mk.inj hserve
      have hkey := hsound.lookup repo
      have hafter : RepoPhase.after () .idle (.repoOpLock repo) (.ok (w.lookup repo).1) =
          .found (w.lookup repo).1 := by simp [RepoPhase.after, hkey]
      rw [hafter]
      have hturn := RepoTurn.found (w.lookup repo).1
      rw [hkey] at hturn
      exact hturn
    | _ => exact absurd rfl hturn
  | found lock =>
    cases c with
    | acquire l =>
      obtain ⟨rfl, -⟩ := Prod.mk.inj hserve
      cases hacquired : (w.acquire n l).1 with
      | false => exact .refused lock l
      | true =>
        by_cases hl : l = lock
        · subst hl
          have hafter : RepoPhase.after () (.found l) (.acquire l) (.ok true) = .holding l := by
            simp [RepoPhase.after]
          rw [hafter]
          exact .acquired l
        · rw [hacquired] at hturn
          exact absurd (by simp [RepoPhase.after, hl]) hturn
    | _ => exact absurd rfl hturn
  | holding lock =>
    cases c with
    | startThread job =>
      by_cases hjob : job.repo = lock.repo
      · have hafter : RepoPhase.after () (.holding lock) (.startThread job) r = .holding lock := by
          simp [RepoPhase.after, hjob]
        rw [hafter]
        exact .started lock job r hjob
      · exact absurd (by simp [RepoPhase.after, hjob]) hturn
    | pop repo l =>
      obtain ⟨rfl, -⟩ := hserve
      by_cases hl : repo = lock.repo ∧ l = lock
      · obtain ⟨rfl, rfl⟩ := hl
        have hafter : RepoPhase.after () (.holding l) (.pop l.repo l) (.ok ()) = .popped l := by
          simp [RepoPhase.after]
        rw [hafter]
        exact .popped l
      · exact absurd (by simp [RepoPhase.after, hl]) hturn
    | engine c => exact .worked lock _ r trivial
    | start op env => exact .worked lock _ r trivial
    | await op env => exact .worked lock _ r trivial
    | listInstanceIds => exact .worked lock _ r trivial
    | _ => exact absurd rfl hturn
  | popped lock =>
    cases c with
    | release l =>
      obtain ⟨rfl, -⟩ := hserve
      by_cases hl : l = lock
      · subst hl
        have hafter : RepoPhase.after () (.popped l) (.release l) (.ok ()) = .idle := by
          simp [RepoPhase.after]
        rw [hafter]
        exact .released l
      · exact absurd (by simp [RepoPhase.after, hl]) hturn
    | _ => exact absurd rfl hturn

namespace RepoLocks

/-- A lock that is given was free, -/
theorem acquired_of_serve {lock : RepoLock}
    (h : repoLocks.serve n () w (.acquire lock) (.ok true) w') :
    w.holder lock = none ∧ w' = w.take n lock := by
  obtain ⟨hr, rfl⟩ := Prod.mk.inj h
  unfold acquire at hr ⊢
  cases hfree : w.holder lock with
  | none => exact ⟨rfl, rfl⟩
  | some m =>
    rw [hfree] at hr
    cases hr

/-- and one that is refused leaves everything as it was. -/
theorem refused_of_serve {lock : RepoLock}
    (h : repoLocks.serve n () w (.acquire lock) (.ok false) w') : w' = w := by
  obtain ⟨hr, rfl⟩ := Prod.mk.inj h
  unfold acquire at hr ⊢
  cases hfree : w.holder lock with
  | none =>
    rw [hfree] at hr
    cases hr
  | some m => rfl

theorem lookup_registry (hsound : w.Sound) (repo : String) :
    (w.lookup repo).2.Sound ∧ (w.lookup repo).2.holder = w.holder ∧
      (w.lookup repo).2.running = w.running ∧
      ∀ lock : RepoLock, w.registry lock.repo = some lock →
        (w.lookup repo).2.registry lock.repo = some lock := by
  unfold lookup
  cases hr : w.registry repo with
  | some lock => exact ⟨hsound, rfl, rfl, fun _ h => h⟩
  | none =>
    refine ⟨fun repo' lock h => ?_, rfl, rfl, fun lock h => ?_⟩
    · by_cases hrepo : repo' = repo
      · subst hrepo
        dsimp only at h
        rw [Function.update_self] at h
        obtain rfl := Option.some.inj h
        rfl
      · dsimp only at h
        rw [Function.update_of_ne hrepo] at h
        exact hsound repo' lock h
    · have hrepo : lock.repo ≠ repo := by
        intro heq
        rw [heq, hr] at h
        cases h
      dsimp only
      rw [Function.update_of_ne hrepo]
      exact h

theorem pop_registry {lock l : RepoLock} (n : Nat) (hne : l ≠ lock)
    (h : w.registry l.repo = some l) : (w.pop n lock.repo lock).registry l.repo = some l := by
  unfold pop
  by_cases hr : w.registry lock.repo = some lock
  · have hrepo : l.repo ≠ lock.repo := by
      intro heq
      rw [heq, hr] at h
      exact hne (Option.some.inj h).symm
    dsimp only
    rw [if_pos hr, Function.update_of_ne hrepo]
    exact h
  · dsimp only
    rw [if_neg hr]
    exact h

theorem Sound.pop (h : w.Sound) (n : Nat) (repo : String) (lock : RepoLock) :
    (w.pop n repo lock).Sound := by
  intro repo' l hl
  unfold RepoLocks.pop at hl
  dsimp only at hl
  by_cases hr : w.registry repo = some lock
  · rw [if_pos hr] at hl
    by_cases hrepo : repo' = repo
    · subst hrepo
      rw [Function.update_self] at hl
      cases hl
    · rw [Function.update_of_ne hrepo] at hl
      exact h repo' l hl
  · rw [if_neg hr] at hl
    exact h repo' l hl

/-- What a thread's agreement rests on. -/
theorem Agrees.frame (h : w.Agrees prompt n s) (hsound : w'.Sound)
    (hrunning : w'.running n = w.running n)
    (hholder : ∀ l, w'.holder l = some n ↔ w.holder l = some n)
    (hregistry : ∀ lock, w.Holds n lock → w.registry lock.repo = some lock →
      w'.registry lock.repo = some lock) : w'.Agrees prompt n s := by
  obtain ⟨-, hphase⟩ := h
  have hholds : ∀ lock, w.Holds n lock → w'.Holds n lock := fun lock hl =>
    ⟨(hholder lock).mpr hl.1, fun l hl' => hl.2 l ((hholder l).mp hl')⟩
  refine ⟨hsound, ?_⟩
  cases s with
  | idle => exact ⟨hrunning.trans hphase.1, fun l hl => hphase.2 l ((hholder l).mp hl)⟩
  | found lock => exact ⟨hrunning.trans hphase.1, fun l hl => hphase.2 l ((hholder l).mp hl)⟩
  | holding lock =>
    obtain ⟨hheld, hrun, hreg⟩ := hphase
    refine ⟨hholds lock hheld, fun repo hr => hrun repo (hrunning ▸ hr), fun hp => ?_⟩
    exact hregistry lock hheld (hreg hp)
  | popped lock => exact ⟨hholds lock hphase.1, hrunning.trans hphase.2⟩
  | astray => exact hphase.elim
  | absurd => exact hphase.elim

/-- Of a lock taken from nobody, the others see nothing. -/
theorem take_holder {lock : RepoLock} (hfree : w.holder lock = none) (hne : n' ≠ n) (l : RepoLock) :
    (w.take n lock).holder l = some n' ↔ w.holder l = some n' := by
  unfold take
  by_cases hl : l = lock
  · subst hl
    dsimp only
    rw [Function.update_self, hfree]
    exact ⟨fun h => absurd (Option.some.inj h).symm hne, nofun⟩
  · dsimp only
    rw [Function.update_of_ne hl]

theorem release_holder {lock : RepoLock} (hheld : w.holder lock = some n) (hne : n' ≠ n)
    (l : RepoLock) : (w.release lock).holder l = some n' ↔ w.holder l = some n' := by
  unfold release
  by_cases hl : l = lock
  · subst hl
    dsimp only
    rw [Function.update_self, hheld]
    exact ⟨nofun, fun h => absurd (Option.some.inj h).symm hne⟩
  · dsimp only
    rw [Function.update_of_ne hl]

end RepoLocks

theorem serve_work (h : c.IsWork) (hserve : repoLocks.serve n () w c r w') : w' = w := by
  cases c with
  | engine c => exact hserve
  | start op env => exact hserve
  | await op env => exact hserve
  | listInstanceIds => exact hserve
  | repoOpLock repo => exact h.elim
  | acquire lock => exact h.elim
  | startThread job => exact h.elim
  | pop repo lock => exact h.elim
  | release lock => exact h.elim

/-- **A turn keeps the agreement of whoever takes it.** -/
theorem agrees_own (hturn : RepoTurn s c r s') (hserve : repoLocks.serve n () w c r w')
    (hprompt : promptIf prompt w () c) (h : w.Agrees prompt n s) : w'.Agrees prompt n s' := by
  obtain ⟨hsound, hphase⟩ := h
  -- By the turn; the two that move a lock also move the phase that says so.
  cases hturn with
  | found lock =>
    obtain ⟨hlock, rfl⟩ := Prod.mk.inj hserve
    obtain ⟨hsound', hholder, hrunning, -⟩ := RepoLocks.lookup_registry hsound lock.repo
    refine ⟨hsound', (congrFun hrunning n).trans hphase.1, fun l => ?_⟩
    rw [hholder]
    exact hphase.2 l
  | acquired lock =>
    obtain ⟨hfree, rfl⟩ := RepoLocks.acquired_of_serve hserve
    refine ⟨hsound, ⟨Function.update_self .., fun l hl => ?_⟩, fun repo hr => ?_, fun hp => ?_⟩
    · by_contra hne
      unfold RepoLocks.take at hl
      dsimp only at hl
      rw [Function.update_of_ne hne] at hl
      exact hphase.2 l hl
    · cases hphase.1.symm.trans hr
    · exact hprompt hp hfree
  | refused lock l =>
    obtain rfl := RepoLocks.refused_of_serve hserve
    exact ⟨hsound, hphase⟩
  | started lock job r hjob =>
    rcases hserve with ⟨-, rfl⟩ | ⟨-, rfl⟩
    · refine ⟨hsound, hphase.1, fun repo hr => ?_, hphase.2.2⟩
      unfold RepoLocks.begin at hr
      dsimp only at hr
      rw [Function.update_self] at hr
      exact (Option.some.inj hr).symm.trans hjob
    · exact ⟨hsound, hphase⟩
  | popped lock =>
    obtain ⟨-, rfl⟩ := hserve
    exact ⟨hsound.pop n _ _, hphase.1, Function.update_self ..⟩
  | released lock =>
    obtain ⟨-, rfl⟩ := hserve
    refine ⟨hsound, hphase.2, fun l hl => ?_⟩
    unfold RepoLocks.release at hl
    by_cases hne : l = lock
    · subst hne
      dsimp only at hl
      rw [Function.update_self] at hl
      cases hl
    · dsimp only at hl
      rw [Function.update_of_ne hne] at hl
      exact hne (hphase.1.2 l hl)
  | worked lock c r hwork =>
    obtain rfl := serve_work hwork hserve
    exact ⟨hsound, hphase⟩

/-- **It keeps that of every other.** -/
theorem agrees_other (hturn : RepoTurn s c r s') (hserve : repoLocks.serve n () w c r w')
    (h : w.Agrees prompt n s) (hne : n' ≠ n) {t : RepoPhase} (ht : w.Agrees prompt n' t) :
    w'.Agrees prompt n' t := by
  obtain ⟨hsound, hphase⟩ := h
  cases hturn with
  | found lock =>
    obtain ⟨-, rfl⟩ := Prod.mk.inj hserve
    obtain ⟨hsound', hholder, hrunning, hregistry⟩ := RepoLocks.lookup_registry hsound lock.repo
    refine ht.frame hsound' (congrFun hrunning n') (fun l => ?_) fun l _ => hregistry l
    rw [hholder]
  | acquired lock =>
    obtain ⟨hfree, rfl⟩ := RepoLocks.acquired_of_serve hserve
    exact ht.frame hsound rfl (RepoLocks.take_holder hfree hne) fun _ _ hl => hl
  | refused lock l =>
    obtain rfl := RepoLocks.refused_of_serve hserve
    exact ht
  | started lock job r hjob =>
    rcases hserve with ⟨-, rfl⟩ | ⟨-, rfl⟩
    · exact ht.frame hsound (Function.update_of_ne hne _ _) (fun _ => Iff.rfl) fun _ _ hl => hl
    · exact ht
  | popped lock =>
    obtain ⟨-, rfl⟩ := hserve
    refine ht.frame (hsound.pop n _ _) (Function.update_of_ne hne _ _) (fun _ => Iff.rfl) ?_
    intro l hl hregistered
    refine RepoLocks.pop_registry n (fun heq => ?_) hregistered
    subst heq
    exact hne (Option.some.inj (hl.1.symm.trans hphase.1.1))
  | released lock =>
    obtain ⟨-, rfl⟩ := hserve
    exact ht.frame hsound rfl (RepoLocks.release_holder hphase.1.1 hne) fun _ _ hl => hl
  | worked lock c r hwork =>
    obtain rfl := serve_work hwork hserve
    exact ht

/-- The world knows of no thread from `N` on. -/
def RepoLocks.Below (prompt : Prop) (N : Nat) (w : RepoLocks) : Prop :=
  ∀ n, N ≤ n → w.Agrees prompt n .idle

theorem repo_supervised (prompt : Prop) : Supervised (repoLocks.guard (promptIf prompt)) RepoThread
    repoMonitor RepoPhase.InTurn RepoPhase.Ended (RepoLocks.Agrees prompt)
    (RepoLocks.Below prompt) where
  own := fun ⟨hprompt, hserve⟩ h hturn =>
    agrees_own (turn_of_serve hserve h hturn) hserve hprompt h
  other := fun ⟨_, hserve⟩ h hturn hne ht =>
    agrees_other (turn_of_serve hserve h hturn) hserve h hne ht
  drift := fun hdrift h => by
    obtain rfl := hdrift
    exact h
  fresh := fun {t n w} ht hbelow => by
    cases ht with
    | request settings op destination =>
      exact ⟨.idle, request_ended settings op destination, hbelow n le_rfl⟩
  bounded_serve := fun {n k w c r w' s N} ⟨_, hserve⟩ h hturn hn hbelow m hm =>
    agrees_other (turn_of_serve hserve h hturn) hserve h (by omega) (hbelow m hm)
  bounded_drift := fun hdrift h => by
    obtain rfl := hdrift
    exact h
  bounded_succ := fun h n hn => h n (by omega)

/-- Before any request. -/
def noLocks : RepoLocks where
  registry _ := none
  holder _ := none
  made := 0
  running _ := none

/-- The pools of request threads. -/
abbrev RepoPool :=
  Pool (fun _ : Unit => Raises RepoOpCall.Answer JobError) (fun _ => Except JobError Unit) RepoLocks

/-- The events of a run, each with the locks it found. -/
abbrev RepoEvents :=
  List (RepoLocks × Event fun _ : Unit => Raises RepoOpCall.Answer JobError)

theorem repo_agrees {p : RepoPool} {es : RepoEvents}
    (trace : (repoLocks.guard (promptIf prompt)).Trace RepoThread ⟨noLocks, []⟩ es p) :
    Supervised.Agrees repoMonitor RepoPhase.InTurn RepoPhase.Ended (RepoLocks.Agrees prompt)
      (RepoLocks.Below prompt) p := by
  refine (repo_supervised prompt).along trace ⟨fun n _ => ?_, fun n t ht => ?_⟩
  · exact ⟨nofun, rfl, nofun⟩
  · cases ht

/-- A thread at work holds the registered lock of its key. -/
theorem running_registered {p : RepoPool} {repo : String}
    (h : Supervised.Agrees repoMonitor RepoPhase.InTurn RepoPhase.Ended (RepoLocks.Agrees True)
      (RepoLocks.Below True) p) (hrunning : p.world.running n = some repo) :
    ∃ lock, p.world.registry repo = some lock ∧ p.world.holder lock = some n := by
  have hagrees : ∃ s, p.world.Agrees True n s := by
    by_cases hn : n < p.threads.length
    · obtain ⟨s, -, hs⟩ := h.2 n _ (List.getElem?_eq_getElem hn)
      exact ⟨s, hs⟩
    · exact ⟨.idle, h.1 n (Nat.le_of_not_lt hn)⟩
  obtain ⟨s, -, hphase⟩ := hagrees
  cases s with
  | holding lock =>
    obtain ⟨hheld, hrun, hregistered⟩ := hphase
    obtain rfl := hrun repo hrunning
    exact ⟨lock, hregistered trivial, hheld.1⟩
  | idle => cases hphase.1.symm.trans hrunning
  | found lock => cases hphase.1.symm.trans hrunning
  | popped lock => cases hphase.2.symm.trans hrunning
  | astray => exact hphase.elim
  | absurd => exact hphase.elim

/-- A key that refuses has an unfinished operation, whose thread holds its lock. -/
theorem refusing_unfinished {p : RepoPool} {repo : String}
    (h : Supervised.Agrees repoMonitor RepoPhase.InTurn RepoPhase.Ended (RepoLocks.Agrees prompt)
      (RepoLocks.Below prompt) p) (hrefuses : p.world.Refuses repo) :
    ∃ n t lock, p.threads[n]? = some t ∧ ¬ t.Returned ∧ lock.repo = repo ∧
      p.world.holder lock = some n := by
  obtain ⟨lock, hregistered, hheld⟩ := hrefuses
  obtain ⟨n, hholder⟩ := Option.ne_none_iff_exists'.mp hheld
  have hlt : n < p.threads.length := by
    by_contra hn
    exact (h.1 n (Nat.le_of_not_lt hn)).2.2 lock hholder
  obtain ⟨s, hsettles, hsound, hphase⟩ := h.2 n _ (List.getElem?_eq_getElem hlt)
  refine ⟨n, _, lock, List.getElem?_eq_getElem hlt, fun hreturned => ?_,
    hsound repo lock hregistered, hholder⟩
  rcases hsettles.ended_of_returned hreturned with rfl | rfl
  · exact hphase.2 lock hholder
  · exact hphase

theorem meets_promptIf {es : RepoEvents} (h : prompt → ∀ e ∈ es, Meets PromptAcquire e) :
    ∀ e ∈ es, Meets (promptIf prompt) e := by
  intro e he
  obtain ⟨w, event⟩ := e
  cases event with
  | called n k c r => exact fun hp => h hp _ he
  | started n => trivial
  | drifted => trivial

/-- **One operation for each repository.**  In every interleaving of requests: if every
acquire was prompt, two threads at work on one key are the same thread; and a key that
refuses new operations has an operation that holds its lock and has not ended. -/
theorem repo_ops_exclusive {p : RepoPool} {es : RepoEvents}
    (trace : repoLocks.Trace RepoThread ⟨noLocks, []⟩ es p) :
    ((∀ e ∈ es, Meets PromptAcquire e) → ∀ repo n n', p.world.running n = some repo →
      p.world.running n' = some repo → n = n') ∧
    ∀ repo, p.world.Refuses repo → ∃ n t lock, p.threads[n]? = some t ∧ ¬ t.Returned ∧
      lock.repo = repo ∧ p.world.holder lock = some n := by
  constructor
  · intro hprompt repo n n' hn hn'
    have hmeets : ∀ e ∈ es, Meets (promptIf True) e := meets_promptIf fun _ => hprompt
    have hagrees := repo_agrees (trace.guard hmeets)
    obtain ⟨lock, hregistered, hholder⟩ := running_registered hagrees hn
    obtain ⟨lock', hregistered', hholder'⟩ := running_registered hagrees hn'
    obtain rfl := Option.some.inj (hregistered.symm.trans hregistered')
    exact Option.some.inj (hholder.symm.trans hholder')
  · intro repo hrefuses
    have hmeets : ∀ e ∈ es, Meets (promptIf False) e := meets_promptIf fun h => h.elim
    exact refusing_unfinished (repo_agrees (trace.guard hmeets)) hrefuses

/-! ### A lock reaped between the lookup and the acquire -/

/-- A day on which the calls of the thread `n` succeed. -/
def calmRepo (n : Nat) (w : RepoLocks) :
    (c : RepoOpCall) → Raises RepoOpCall.Answer JobError c × RepoLocks
  | .repoOpLock repo => (.ok (w.lookup repo).1, (w.lookup repo).2)
  | .acquire lock => (.ok (w.acquire n lock).1, (w.acquire n lock).2)
  | .startThread job => (.ok (), w.begin n job.repo)
  | .pop repo lock => (.ok (), w.pop n repo lock)
  | .release lock => (.ok (), w.release lock)
  | .engine (.start _) | .start _ _ => (.ok (), w)
  | .engine (.await _) | .await _ _ => (.ok { returncode := 0 }, w)
  | .listInstanceIds => (.ok [], w)
  | .engine _ => (.error (.backup .timeout), w)

theorem calmRepo_serves (n : Nat) (w : RepoLocks) (c : RepoOpCall) :
    repoLocks.serve n () w c (calmRepo n w c).1 (calmRepo n w c).2 := by
  cases c with
  | repoOpLock repo => exact rfl
  | acquire lock => exact rfl
  | startThread job => exact .inl ⟨rfl, rfl⟩
  | pop repo lock => exact ⟨rfl, rfl⟩
  | release lock => exact ⟨rfl, rfl⟩
  | engine c => cases c <;> rfl
  | start op env => exact rfl
  | await op env => exact rfl
  | listInstanceIds => exact rfl

/-- A greffer with a repository of its own. -/
def bucketRepository : Settings where
  grefferBackupRepo := some "s3:bucket"
  resticPassword := some "secret"
  grefferId := "g"

/-- A request to prune it. -/
def pruneRequest : Prog (Raises RepoOpCall.Answer JobError) (Except JobError Unit) :=
  repoOpRequest bucketRepository .prune none

/-- The events of `m` calls of the thread `n`. -/
def calmEvents (n m : Nat) (p : Prog (Raises RepoOpCall.Answer JobError) (Except JobError Unit))
    (w : RepoLocks) : RepoEvents :=
  @eventsFor Unit (fun _ => RepoOpCall) (fun _ => Raises RepoOpCall.Answer JobError)
    (fun _ => Except JobError Unit) RepoLocks () (calmRepo n) n m p w

theorem calmEvents_trace (n m : Nat)
    (p : Prog (Raises RepoOpCall.Answer JobError) (Except JobError Unit)) (w : RepoLocks)
    (ts : List (Thread (fun _ : Unit => Raises RepoOpCall.Answer JobError)
      fun _ => Except JobError Unit)) (hn : ts[n]? = some ⟨(), p⟩) :
    repoLocks.Trace RepoThread ⟨w, ts⟩ (calmEvents n m p w)
      ⟨(p.evalFor (calmRepo n) m w).1, ts.set n ⟨(), (p.evalFor (calmRepo n) m w).2⟩⟩ :=
  Shared.Trace.alone (calmRepo_serves n) m p w ts hn

/-- A single request, until its job is at work. -/
def singleRequest : RepoEvents := (noLocks, .started 0) :: calmEvents 0 3 pruneRequest noLocks

theorem repo_ops_exclusive_single : ∃ p : RepoPool,
    repoLocks.Trace RepoThread ⟨noLocks, []⟩ singleRequest p ∧
      p.world.running 0 = some "s3:bucket" ∧
      ∀ repo n n', p.world.running n = some repo → p.world.running n' = some repo → n = n' := by
  have hrequest := calmEvents_trace 0 3 pruneRequest noLocks [⟨(), pruneRequest⟩] rfl
  have htrace : repoLocks.Trace RepoThread ⟨noLocks, []⟩ singleRequest _ :=
    .cons (.start (RepoThread.request bucketRepository .prune none)) hrequest
  refine ⟨_, htrace, rfl, (repo_ops_exclusive htrace).1 ?_⟩
  refine List.forall_mem_cons.mpr ⟨trivial, List.forall_mem_cons.mpr ⟨trivial, ?_⟩⟩
  refine List.forall_mem_cons.mpr ⟨fun _ => rfl, List.forall_mem_cons.mpr ⟨trivial, ?_⟩⟩
  intro e he
  cases he

/-- The first request has pruned, and is about to reap its lock; -/
def pruned := pruneRequest.evalFor (calmRepo 0) 9 noLocks

/-- the second finds that lock; -/
def foundIt := pruneRequest.evalFor (calmRepo 1) 1 pruned.1

/-- the first reaps it; -/
def reaped := pruned.2.evalFor (calmRepo 0) 2 foundIt.1

/-- the second acquires it and is at work; -/
def staleAtWork := foundIt.2.evalFor (calmRepo 1) 2 reaped.1

/-- the third finds a fresh lock. -/
def freshAtWork := pruneRequest.evalFor (calmRepo 2) 3 staleAtWork.1

/-- **Two prunes of one repository at once.** -/
theorem stale_lock_two_prunes : ∃ (es : RepoEvents) (p : RepoPool),
    repoLocks.Trace RepoThread ⟨noLocks, []⟩ es p ∧
      p.world.running 1 = some "s3:bucket" ∧ p.world.running 2 = some "s3:bucket" := by
  have h₀ : repoLocks.Trace RepoThread ⟨noLocks, [⟨(), pruneRequest⟩]⟩ _
      ⟨pruned.1, [⟨(), pruned.2⟩]⟩ :=
    calmEvents_trace 0 9 pruneRequest noLocks _ rfl
  have h₁ : repoLocks.Trace RepoThread ⟨pruned.1, [⟨(), pruned.2⟩, ⟨(), pruneRequest⟩]⟩ _
      ⟨foundIt.1, [⟨(), pruned.2⟩, ⟨(), foundIt.2⟩]⟩ :=
    calmEvents_trace 1 1 pruneRequest pruned.1 _ rfl
  have h₂ : repoLocks.Trace RepoThread ⟨foundIt.1, [⟨(), pruned.2⟩, ⟨(), foundIt.2⟩]⟩ _
      ⟨reaped.1, [⟨(), reaped.2⟩, ⟨(), foundIt.2⟩]⟩ :=
    calmEvents_trace 0 2 pruned.2 foundIt.1 _ rfl
  have h₃ : repoLocks.Trace RepoThread ⟨reaped.1, [⟨(), reaped.2⟩, ⟨(), foundIt.2⟩]⟩ _
      ⟨staleAtWork.1, [⟨(), reaped.2⟩, ⟨(), staleAtWork.2⟩]⟩ :=
    calmEvents_trace 1 2 foundIt.2 reaped.1 _ rfl
  have h₄ : repoLocks.Trace RepoThread
      ⟨staleAtWork.1, [⟨(), reaped.2⟩, ⟨(), staleAtWork.2⟩, ⟨(), pruneRequest⟩]⟩ _
      ⟨freshAtWork.1, [⟨(), reaped.2⟩, ⟨(), staleAtWork.2⟩, ⟨(), freshAtWork.2⟩]⟩ :=
    calmEvents_trace 2 3 pruneRequest staleAtWork.1 _ rfl
  have hstart := RepoThread.request bucketRepository .prune none
  exact ⟨_, _, .cons (.start hstart) (h₀.append (.cons (.start hstart) (h₁.append (h₂.append
    (h₃.append (.cons (.start hstart) h₄)))))), rfl, rfl⟩

end Greffer.Backup

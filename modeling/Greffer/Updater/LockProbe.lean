import Greffer.Effects.Routine
import Greffer.Effects.Threads

/-! # Probing the update lock

Whoever updates the node holds an exclusive `flock` on `/data/.update.lock` for the whole run.  The
heartbeat and the control operations ask whether somebody does: `update_in_progress` **tries to take
the lock** and gives it back at once, and where it cannot take it the answer is that an update is in
progress.

A probe that takes the lock holds it for a moment, so that another probe of the same moment finds it
held.  The updaters retry for a second for just that reason; a probe does not.  Hence an answer of
`True` speaks of an updater as long as no probe comes while another one holds the lock
(`answers_true_iff`), and two probes are enough for one that speaks of nobody (`probe_sees_probe`).
-/
namespace Greffer.UpdateLock
open Effects

/-! ## The code -/

/-- The calls on the lock file, and what an updater does in between. -/
inductive LockCall where
  | importFcntl
  /-- `open(lock_path, "a")` or `open(lock_path, "w")`: nobody writes to the file. -/
  | openLock
  /-- `fcntl.flock(fh.fileno(), fcntl.LOCK_EX | fcntl.LOCK_NB)`. -/
  | flockExclusive
  /-- `fcntl.flock(fh.fileno(), fcntl.LOCK_UN)`. -/
  | flockUnlock
  | closeLock
  | sleep
  /-- The update itself. -/
  | runUpdate
  deriving DecidableEq

/-- What each call answers: the update, an exit code. -/
@[reducible] def LockCall.Answer : LockCall → Type
  | .runUpdate => Int
  | _ => Unit

/-- What they raise. -/
inductive LockError where
  | importError
  | osError
  | other
  deriving DecidableEq

/-- Code that uses the lock. -/
abbrev Locking := Action LockCall.Answer LockError

/-- Make one call. -/
abbrev ask (c : LockCall) : Locking c.Answer := Action.perform c

/-- `except OSError`, with a value to return. -/
def orOnOSError {α : Type} (m : Locking α) (a : α) : Locking α :=
  m.tryExcept fun
    | .osError => return a
    | e => Action.raise e

/-- `finally`, with the lock file closed. -/
def thenClose {α : Type} (m : Locking α) (close : Locking Unit) : Locking α := do
  let result ← m.outcome
  close
  Action.ofExcept result

/-- The part of the probe that has the file open. -/
def probeOpened : Locking Bool :=
  orOnOSError (do
    ask .flockExclusive
    ask .flockUnlock
    return false) true

/-- Whether `fcntl` can be imported. -/
def hasFcntl : Locking Bool :=
  Action.tryExcept (do ask .importFcntl; return true) fun
    | .importError => return false
    | e => Action.raise e

/-- `update_in_progress`. -/
def updateInProgress : Locking Bool := do
  if ← hasFcntl then
    if ← orOnOSError (do ask .openLock; return true) false then
      thenClose probeOpened (ask .closeLock)
    else
      return false
  else
    return false

/-- What `acquire_lock` returns. -/
inductive Handle where
  /-- `_NO_LOCK`. -/
  | noLock
  | file
  deriving DecidableEq

/-- The loop of `acquire_lock`, with so many attempts left. -/
def tryLock : Nat → Locking Bool
  | 0 => return false
  | left + 1 => do
    if ← orOnOSError (do ask .flockExclusive; return true) false then
      return true
    -- no sleep after the last attempt
    if 0 < left then
      ask .sleep
    tryLock left

/-- `acquire_lock`. -/
def acquireLock (attempts : Nat) : Locking (Option Handle) := do
  if ← hasFcntl then
    ask .openLock
    if ← tryLock attempts then
      return some .file
    ask .closeLock
    return none
  else
    return some .noLock

/-- `release_lock`. -/
def releaseLock : Handle → Locking Unit
  | .noLock => return ()
  | .file => orOnOSError (ask .closeLock) ()

/-- `EXIT_REFUSED`. -/
def exitRefused : Int := 3

/-- `main` of the updater.  `greffer update` on the host takes and releases the lock as it does. -/
def updaterMain (attempts : Nat) : Locking Int := do
  match ← acquireLock attempts with
  | none => return exitRefused
  | some handle => thenClose (ask .runUpdate) (releaseLock handle)

/-! ## What the threads share -/

/-- The threads, in whichever process they are. -/
inductive LockThread where
  | probe
  | updater
  deriving DecidableEq

/-- What a thread returns. -/
@[reducible] def LockThread.Result : LockThread → Type
  | probe => Except LockError Bool
  | updater => Except LockError Int

/-- The lock file. -/
structure LockFile where
  /-- The thread that has the file locked. -/
  holder : Option (Nat × LockThread)
  /-- The threads that have died with their processes. -/
  dead : Nat → Prop

namespace LockFile
variable (w : LockFile) (n : Nat) (k : LockThread)

def lock : LockFile := { w with holder := some (n, k) }

/-- The file is unlocked, or closed, by the thread. -/
def unlock : LockFile := { w with
  holder := if w.holder.any (fun h => h.1 == n) then none else w.holder }

/-- An updater holds the lock. -/
def UpdaterHolds : Prop := ∃ n, w.holder = some (n, .updater)

/-- A probe holds it. -/
def ProbeHolds : Prop := ∃ n, w.holder = some (n, .probe)

end LockFile

/-- **The lock file**: a lock is had by one, an attempt may also fail for another reason, and the locks
of a process that dies are free. -/
def lockFile : Shared (fun _ : LockThread => Raises LockCall.Answer LockError) LockFile where
  serve n k w c r w' := ¬ w.dead n ∧ match c, r with
    -- `LOCK_NB`: an attempt does not wait
    | .flockExclusive, r => (r = .ok () ∧ w.holder = none ∧ w' = w.lock n k) ∨
        (r = .error .osError ∧ w' = w)
    | .flockUnlock, r => (r = .ok () ∧ w' = w.unlock n) ∨ (r = .error .osError ∧ w' = w)
    | .closeLock, _ => w' = w.unlock n
    | .importFcntl, _ | .openLock, _ | .sleep, _ | .runUpdate, _ => w' = w
  -- threads die at any time, and the one that had the lock leaves it free
  drift w w' := (∀ n, w.dead n → w'.dead n) ∧
    ((w'.holder = w.holder ∧ ∀ n k, w.holder = some (n, k) → ¬ w'.dead n) ∨
      ∃ n k, w.holder = some (n, k) ∧ w'.dead n ∧ w'.holder = none)

/-- A thread that uses the lock. -/
abbrev UsesLock := Thread (fun _ : LockThread => Raises LockCall.Answer LockError) LockThread.Result

/-- The threads that may start. -/
inductive Contends : UsesLock → Prop
  | probe : Contends ⟨.probe, updateInProgress⟩
  | updater (attempts : Nat) : Contends ⟨.updater, updaterMain attempts⟩

/-- The answer on which a probe returns `True`. -/
def DecidesTrue : (k : LockThread) → (c : LockCall) → Raises LockCall.Answer LockError c → Prop
  | .probe, .flockExclusive, .error .osError => True
  | .probe, .flockUnlock, .error .osError => True
  | _, _, _ => False

/-- What an event does to the answer of a probe: it decides for `True` only under an updater's lock. -/
def Truthful : LockFile × Event (fun _ : LockThread => Raises LockCall.Answer LockError) → Prop
  | (w, .called _ k c r) => DecidesTrue k c r → w.UpdaterHolds
  | _ => True

/-- No probe tries the lock while a probe holds it, and the lock fails no probe but for being held. -/
def Undisturbed : LockFile × Event (fun _ : LockThread => Raises LockCall.Answer LockError) → Prop
  | (w, .called _ .probe .flockExclusive r) => ¬ w.ProbeHolds ∧ (r = .error .osError → w.holder ≠ none)
  | (_, .called _ .probe .flockUnlock r) => r = .ok ()
  | _ => True

/-! ## Who unlocks -/

/-- What a thread has. -/
inductive LockPhase where
  | without
  | locked (k : LockThread)
  /-- It unlocked a file that it had not locked. -/
  | broken
  deriving DecidableEq

/-- The phase, after a call. -/
def LockPhase.after (k : LockThread) :
    LockPhase → (c : LockCall) → Raises LockCall.Answer LockError c → LockPhase
  | s, .flockUnlock, .ok _ => if s = .locked k then .without else .broken
  | s, .flockUnlock, .error _ => if s = .locked k then s else .broken
  | _, .flockExclusive, .ok _ => .locked k
  | _, .closeLock, _ => .without
  | s, _, _ => s

/-- The threads, followed through their phases. -/
def lockMonitor : Monitor (fun _ : LockThread => Raises LockCall.Answer LockError) LockPhase where
  after := LockPhase.after

/-- It unlocked only what it had locked. -/
def LockPhase.Sound (s : LockPhase) : Prop := s ≠ .broken

/-- The machine of the phases. -/
abbrev lockPhases (k : LockThread) : Machine (Raises LockCall.Answer LockError) LockPhase :=
  lockMonitor.machine k

section Conduct
variable {α W : Type} {M : Machine (Raises LockCall.Answer LockError) W} {I : W → Prop}
  {R Q : Except LockError α → W → Prop} {m : Locking α} {w : W}

theorem always_orOnOSError {a : α} (hm : m.Always M I R w)
    (hvalue : ∀ w, R (.error .osError) w → Q (.ok a) w)
    (hother : ∀ r w, r ≠ .error .osError → R r w → Q r w) :
    (orOnOSError m a).Always M I Q w := by
  unfold orOnOSError
  rw [Action.always_tryExcept]
  refine hm.mono fun r w hI hr => ?_
  cases r with
  | ok b => exact hother _ w nofun hr
  | error e =>
    cases e with
    | osError => exact ⟨hI, hvalue w hr⟩
    | importError => exact ⟨hI, hother _ w nofun hr⟩
    | other => exact ⟨hI, hother _ w nofun hr⟩

variable {k : LockThread} {s : LockPhase}

theorem locked_sound (k : LockThread) : (LockPhase.locked k).Sound := nofun

/-- What unlocks nothing is sound. -/
theorem sound_of_uses (h : m.Uses (· ≠ .flockUnlock)) (hs : s.Sound) :
    m.Always (lockPhases k) LockPhase.Sound (fun _ s => s.Sound) s := by
  refine h.always (fun s c r s' hc hs hserve => ?_) hs
  obtain rfl : s' = LockPhase.after k s c r := hserve
  cases c with
  | flockUnlock => exact absurd rfl hc
  | flockExclusive =>
    cases r with
    | ok u => exact locked_sound k
    | error e => exact hs
  | closeLock => exact nofun
  | _ => exact hs

theorem uses_orOnOSError {ok : LockCall → Prop} {a : α} (h : m.Uses ok) :
    (orOnOSError m a).Uses ok := by
  refine Action.Uses.tryExcept h fun e => ?_
  cases e <;> trivial

theorem uses_hasFcntl : hasFcntl.Uses (· ≠ .flockUnlock) := by
  refine Action.Uses.tryExcept
    (Action.Uses.bind (Action.uses_perform (by decide)) fun _ => Action.uses_pure _) fun e => ?_
  cases e <;> trivial

theorem uses_thenClose {ok : LockCall → Prop} {close : Locking Unit} (h : m.Uses ok)
    (hclose : close.Uses ok) : (thenClose m close).Uses ok :=
  Action.Uses.bind h.outcome fun _ => Action.Uses.bind hclose fun _ => Action.uses_ofExcept _

theorem uses_tryLock (left : Nat) : (tryLock left).Uses (· ≠ .flockUnlock) := by
  induction left with
  | zero => exact Action.uses_pure _
  | succ left ih =>
    refine Action.Uses.bind (uses_orOnOSError
      (Action.Uses.bind (Action.uses_perform (by decide)) fun _ => Action.uses_pure _)) fun locked => ?_
    split
    · exact Action.uses_pure _
    · dsimp only
      split
      · exact Action.Uses.bind (Action.uses_perform (by decide)) fun _ => ih
      · exact ih

/-- An updater closes its file, and unlocks nothing. -/
theorem uses_updaterMain (attempts : Nat) : (updaterMain attempts).Uses (· ≠ .flockUnlock) := by
  have hclose : (ask .closeLock).Uses (· ≠ .flockUnlock) := Action.uses_perform (by decide)
  refine Action.Uses.bind (Action.Uses.bind uses_hasFcntl fun hasLock => ?_) fun handle => ?_
  · split
    · refine Action.Uses.bind (Action.uses_perform (by decide)) fun _ =>
        Action.Uses.bind (uses_tryLock attempts) fun locked => ?_
      split
      · exact Action.uses_pure _
      · exact Action.Uses.bind hclose fun _ => Action.uses_pure _
    · exact Action.uses_pure _
  · cases handle with
    | none => exact Action.uses_pure _
    | some handle =>
      refine uses_thenClose (Action.uses_perform (by decide)) ?_
      cases handle with
      | noLock => exact Action.uses_pure _
      | file => exact uses_orOnOSError hclose

end Conduct

/-- **A probe unlocks what it has locked.** -/
theorem probeOpened_sound {s : LockPhase} (hs : s.Sound) :
    probeOpened.Always (lockPhases .probe) LockPhase.Sound (fun _ s => s.Sound) s := by
  have hlocked := locked_sound .probe
  refine always_orOnOSError (R := fun _ s => s.Sound) ?_ (fun _ h => h) fun _ _ _ h => h
  rw [Action.always_bind]
  refine ⟨hs, fun r s' hserve => ?_⟩
  cases r with
  | error e =>
    obtain rfl : s' = s := hserve
    exact ⟨hs, hs⟩
  | ok u =>
    obtain rfl : s' = .locked .probe := hserve
    refine ⟨hlocked, ?_⟩
    rw [onOk_ok, Action.always_bind]
    refine ⟨hlocked, fun r s' hserve => ?_⟩
    cases r with
    | error e =>
      obtain rfl : s' = .locked .probe := hserve
      exact ⟨hlocked, hlocked⟩
    | ok u =>
      obtain rfl : s' = .without := hserve
      exact ⟨nofun, nofun, nofun⟩

theorem updateInProgress_sound : updateInProgress.Always (lockPhases .probe) LockPhase.Sound
    (fun _ _ => True) .without := by
  have hwithout : LockPhase.Sound .without := nofun
  unfold updateInProgress
  rw [Action.always_bind]
  refine (sound_of_uses uses_hasFcntl hwithout).mono fun r s _ hs => ?_
  cases r with
  | error e => trivial
  | ok hasLock =>
    rw [onOk_ok]
    split
    case isFalse => exact ⟨hs, trivial⟩
    case isTrue =>
      have hopen : (orOnOSError (do ask .openLock; return true) false).Uses (· ≠ .flockUnlock) :=
        uses_orOnOSError (Action.Uses.bind (Action.uses_perform (by decide)) fun _ =>
          Action.uses_pure _)
      rw [Action.always_bind]
      refine (sound_of_uses hopen hs).mono fun r s _ hs => ?_
      cases r with
      | error e => trivial
      | ok opened =>
        rw [onOk_ok]
        split
        case isFalse => exact ⟨hs, trivial⟩
        case isTrue =>
          unfold thenClose
          rw [Action.always_bind, Action.always_outcome]
          refine (probeOpened_sound hs).mono fun r s _ hs => ?_
          rw [onOk_ok]
          have hclose : (ask .closeLock >>= fun _ => Action.ofExcept r).Uses (· ≠ .flockUnlock) :=
            Action.Uses.bind (Action.uses_perform (by decide)) fun _ => Action.uses_ofExcept _
          exact (sound_of_uses hclose hs).mono fun _ _ _ _ => trivial

/-! ## Phases and the lock file agree -/

namespace LockFile
variable {n n' N : Nat} {k : LockThread} {w w' : LockFile} {s s' : LockPhase} {c : LockCall}
  {r : Raises LockCall.Answer LockError c}

/-- A thread that has locked the file and lives holds the lock. -/
def Agrees (n : Nat) (s : LockPhase) (w : LockFile) : Prop :=
  ∀ k, s = .locked k → ¬ w.dead n → w.holder = some (n, k)

theorem unlock_of_ne (hne : n' ≠ n) {k' : LockThread} (hheld : w.holder = some (n', k')) :
    (w.unlock n).holder = some (n', k') := by
  unfold unlock
  rw [hheld]
  simp [hne]

theorem dead_of_serve (hserve : lockFile.serve n k w c r w') : w'.dead = w.dead := by
  obtain ⟨-, hserve⟩ := hserve
  cases c with
  | flockExclusive => rcases hserve with ⟨-, -, rfl⟩ | ⟨-, rfl⟩ <;> rfl
  | flockUnlock => rcases hserve with ⟨-, rfl⟩ | ⟨-, rfl⟩ <;> rfl
  | closeLock => rw [show w' = w.unlock n from hserve]; rfl
  | importFcntl | openLock | sleep | runUpdate => rw [show w' = w from hserve]

/-- **A thread leaves the lock of another.** -/
theorem holder_of_serve (hserve : lockFile.serve n k w c r w') (hne : n' ≠ n) {k' : LockThread}
    (hheld : w.holder = some (n', k')) : w'.holder = some (n', k') := by
  obtain ⟨-, hserve⟩ := hserve
  cases c with
  | flockExclusive =>
    rcases hserve with ⟨-, hfree, rfl⟩ | ⟨-, rfl⟩
    · cases hfree.symm.trans hheld
    · exact hheld
  | flockUnlock =>
    rcases hserve with ⟨-, rfl⟩ | ⟨-, rfl⟩
    · exact unlock_of_ne hne hheld
    · exact hheld
  | closeLock =>
    rw [show w' = w.unlock n from hserve]
    exact unlock_of_ne hne hheld
  | importFcntl | openLock | sleep | runUpdate =>
    rw [show w' = w from hserve]
    exact hheld

theorem agrees_own (hserve : lockFile.serve n k w c r w') (h : w.Agrees n s)
    (hsound : (LockPhase.after k s c r).Sound) : w'.Agrees n (LockPhase.after k s c r) := by
  have hdead := dead_of_serve hserve
  obtain ⟨-, hserve⟩ := hserve
  intro k' hphase halive
  rw [hdead] at halive
  cases c with
  | flockExclusive =>
    rcases hserve with ⟨rfl, -, rfl⟩ | ⟨rfl, rfl⟩
    · cases hphase
      rfl
    · exact h k' hphase halive
  | flockUnlock =>
    by_cases hs : s = .locked k
    · rcases hserve with ⟨rfl, rfl⟩ | ⟨rfl, rfl⟩
      · cases hphase.symm.trans (if_pos hs)
      · exact h k' ((if_pos hs).symm.trans hphase) halive
    · rcases hserve with ⟨rfl, rfl⟩ | ⟨rfl, rfl⟩
      · exact absurd (if_neg hs) hsound
      · exact absurd (if_neg hs) hsound
  | closeLock => cases hphase
  | importFcntl | openLock | sleep | runUpdate =>
    rw [show w' = w from hserve]
    exact h k' hphase halive

theorem agrees_drift (hdrift : lockFile.drift w w') (h : w.Agrees n s) : w'.Agrees n s := by
  intro k hphase halive
  obtain ⟨hdies, hholder⟩ := hdrift
  have hheld := h k hphase fun hdead => halive (hdies n hdead)
  rcases hholder with ⟨hsame, -⟩ | ⟨m, k', hheld', hdead, -⟩
  · exact hsame.trans hheld
  · cases hheld.symm.trans hheld'
    exact absurd hdead halive

end LockFile

open LockFile

theorem lock_monitored : Monitored lockFile Contends lockMonitor LockPhase.Sound LockFile.Agrees
    (fun _ _ => True) where
  own hserve h hsound := agrees_own hserve h hsound
  other hserve _ _ hne ht k hphase halive :=
    holder_of_serve hserve hne (ht k hphase (dead_of_serve hserve ▸ halive))
  drift hdrift h := agrees_drift hdrift h
  fresh ht _ := by
    refine ⟨.without, ?_, nofun⟩
    cases ht with
    | probe => exact updateInProgress_sound
    | updater attempts =>
      have hwithout : LockPhase.Sound .without := nofun
      exact (sound_of_uses (uses_updaterMain attempts) hwithout).mono fun _ _ _ _ => trivial
  bounded_serve _ _ _ _ _ := trivial
  bounded_drift _ _ := trivial
  bounded_succ _ := trivial

/-! ## Of what an answer speaks -/

/-- Nobody has the file locked. -/
def unlocked : LockFile where
  holder := none
  dead _ := False

/-- The pools of threads. -/
abbrev LockPool :=
  Pool (fun _ : LockThread => Raises LockCall.Answer LockError) LockThread.Result LockFile

/-- The events of a run, each with the lock file it found. -/
abbrev LockEvents :=
  List (LockFile × Event fun _ : LockThread => Raises LockCall.Answer LockError)

variable {es : LockEvents} {p q : LockPool}

/-- **Whoever unlocks the file holds the lock.** -/
theorem holds_of_unlock (trace : lockFile.Trace Contends ⟨unlocked, []⟩ es p) {n : Nat}
    {k : LockThread} {r : Raises LockCall.Answer LockError .flockUnlock}
    (hstep : lockFile.Step Contends p (.called n k .flockUnlock r) q) :
    p.world.holder = some (n, k) := by
  obtain ⟨-, hthreads⟩ := lock_monitored.along trace ⟨trivial, nofun⟩
  cases hstep with
  | call runs served =>
    obtain ⟨s, hobeys, hagree⟩ := hthreads n _ runs
    have hsound := (hobeys.next r).1
    by_cases hs : s = .locked k
    · exact hagree k hs served.1
    · cases r with
      | ok u => exact absurd (if_neg hs) hsound
      | error e => exact absurd (if_neg hs) hsound

/-- An event is a step of the run that it ends. -/
theorem step_of_mem (trace : lockFile.Trace Contends ⟨unlocked, []⟩ es q) {x} (hx : x ∈ es) :
    ∃ before p p', lockFile.Trace Contends ⟨unlocked, []⟩ before p ∧ p.world = x.1 ∧
      lockFile.Step Contends p x.2 p' := by
  obtain ⟨before, after, rfl⟩ := List.append_of_mem hx
  obtain ⟨p, hbefore, hrest⟩ := trace.of_append
  obtain ⟨hworld, p', hstep, -⟩ := Shared.Trace.of_cons (w := x.1) (e := x.2) hrest
  exact ⟨before, p, p', hbefore, hworld, hstep⟩

theorem updaterHolds_iff {w : LockFile} :
    w.UpdaterHolds ↔ ¬ w.ProbeHolds ∧ w.holder ≠ none := by
  constructor
  · rintro ⟨n, hheld⟩
    refine ⟨fun ⟨m, hprobe⟩ => ?_, fun hfree => ?_⟩
    · cases hheld.symm.trans hprobe
    · cases hheld.symm.trans hfree
  · rintro ⟨hprobe, hheld⟩
    obtain ⟨⟨n, k⟩, hholder⟩ := Option.ne_none_iff_exists'.mp hheld
    cases k with
    | probe => exact absurd ⟨n, hholder⟩ hprobe
    | updater => exact ⟨n, hholder⟩

/-- **One event** is truthful if and only if it is undisturbed. -/
theorem truthful_iff (trace : lockFile.Trace Contends ⟨unlocked, []⟩ es p)
    {e : Event fun _ : LockThread => Raises LockCall.Answer LockError}
    (hstep : lockFile.Step Contends p e q) : Truthful (p.world, e) ↔ Undisturbed (p.world, e) := by
  cases e with
  | started n => exact Iff.rfl
  | drifted => exact Iff.rfl
  | called n k c r =>
    cases k with
    | updater => exact iff_of_true nofun trivial
    | probe =>
      cases c with
      | flockExclusive =>
        cases hstep with
        | call runs served =>
          rcases served.2 with ⟨rfl, hfree, -⟩ | ⟨rfl, -⟩
          · refine iff_of_true nofun ⟨fun ⟨m, hheld⟩ => ?_, nofun⟩
            cases hfree.symm.trans hheld
          · refine ⟨fun htrue => ?_, fun hcalm _ => updaterHolds_iff.mpr ⟨hcalm.1, hcalm.2 rfl⟩⟩
            obtain ⟨hprobe, hheld⟩ := updaterHolds_iff.mp (htrue trivial)
            exact ⟨hprobe, fun _ => hheld⟩
      | flockUnlock =>
        -- It is the probe that holds the lock.
        have hheld := holds_of_unlock trace hstep
        cases hstep with
        | call runs served =>
          rcases served.2 with ⟨rfl, -⟩ | ⟨rfl, -⟩
          · exact iff_of_true nofun rfl
          · refine iff_of_false (fun htrue => ?_) nofun
            obtain ⟨m, hupdater⟩ := htrue trivial
            cases hheld.symm.trans hupdater
      | importFcntl => exact iff_of_true nofun trivial
      | openLock => exact iff_of_true nofun trivial
      | closeLock => exact iff_of_true nofun trivial
      | sleep => exact iff_of_true nofun trivial
      | runUpdate => exact iff_of_true nofun trivial

/-! ## What a probe returns -/

/-- What a thread returns that was given no such answer. -/
def NotTrue : (k : LockThread) → k.Result → Prop
  | .probe, r => r ≠ .ok true
  | .updater, _ => True

/-- Answers that do not decide. -/
abbrev undecided : Machine (Raises LockCall.Answer LockError) Unit where
  serve _ c r _ := ¬ DecidesTrue .probe c r

theorem probeOpened_unless :
    probeOpened.Always undecided (fun _ => True) (fun r _ => r ≠ .ok true) () := by
  refine always_orOnOSError (R := fun r _ => r ≠ .ok true ∧ r ≠ .error .osError) ?_
    (fun _ h => absurd rfl h.2) fun r _ _ h => h.1
  rw [Action.always_bind]
  refine ⟨trivial, fun r _ hr => ⟨trivial, ?_⟩⟩
  cases r with
  | error e =>
    refine ⟨nofun, fun heq => hr ?_⟩
    cases heq
    trivial
  | ok u =>
    rw [onOk_ok, Action.always_bind]
    refine ⟨trivial, fun r _ hr => ⟨trivial, ?_⟩⟩
    cases r with
    | error e =>
      refine ⟨nofun, fun heq => hr ?_⟩
      cases heq
      trivial
    | ok u => exact ⟨trivial, nofun, nofun⟩

/-- Nothing else than a failed `flock` makes a probe return `True`. -/
theorem updateInProgress_unless :
    updateInProgress.Always undecided (fun _ => True) (fun r _ => r ≠ .ok true) () := by
  have hany : ∀ {α : Type} (m : Locking α),
      m.Always undecided (fun _ => True) (fun _ _ => True) () := fun _ =>
    Prog.always_iff_runs.mpr fun _ _ _ => ⟨trivial, fun _ _ => trivial⟩
  have hfalse : (pure false : Locking Bool).Always undecided (fun _ => True)
      (fun r _ => r ≠ .ok true) () := ⟨trivial, nofun⟩
  unfold updateInProgress
  rw [Action.always_bind]
  refine (hany hasFcntl).mono fun r _ _ _ => ?_
  cases r with
  | error e => exact nofun
  | ok hasLock =>
    rw [onOk_ok, Action.always_ite]
    refine ⟨fun _ => ?_, fun _ => hfalse⟩
    rw [Action.always_bind]
    refine (hany _).mono fun r _ _ _ => ?_
    cases r with
    | error e => exact nofun
    | ok opened =>
      rw [onOk_ok, Action.always_ite]
      refine ⟨fun _ => ?_, fun _ => hfalse⟩
      unfold thenClose
      rw [Action.always_bind, Action.always_outcome]
      refine probeOpened_unless.mono fun result _ _ hresult => ?_
      rw [onOk_ok, Action.always_bind]
      refine (hany _).mono fun r _ _ _ => ?_
      cases r with
      | error e => exact nofun
      | ok u => exact ⟨trivial, hresult⟩

theorem contends_unless {t : UsesLock} (h : Contends t) : t.Unless DecidesTrue NotTrue := by
  cases h with
  | probe => exact updateInProgress_unless
  | updater attempts =>
    exact Prog.always_iff_runs.mpr fun _ _ _ => ⟨trivial, fun _ _ => trivial⟩

/-- **Answers of `True`**, in any interleaving of probes and updaters: each comes from a `flock` that
failed, and all of them speak of an updater that held the lock then if and only if no probe came while
another one held it and the lock failed none for another reason. -/
theorem answers_true_iff (trace : lockFile.Trace Contends ⟨unlocked, []⟩ es q) :
    (∀ n : Nat, q.threads[n]? = some ⟨.probe, .pure (.ok true)⟩ →
        ∃ w k c r, (w, .called n k c r) ∈ es ∧ DecidesTrue k c r) ∧
      ((∀ e ∈ es, Truthful e) ↔ ∀ e ∈ es, Undisturbed e) := by
  refine ⟨fun n hn => ?_, forall₂_congr fun x hx => ?_⟩
  · refine (trace.unless_or_decided (fun t => contends_unless) n nofun hn).resolve_left fun h => ?_
    exact h.2 rfl
  · obtain ⟨before, p, p', hbefore, hworld, hstep⟩ := step_of_mem trace hx
    have hiff := truthful_iff hbefore hstep
    rwa [hworld] at hiff

section Runs
variable {n : Nat} {k : LockThread} {w : LockFile}

theorem serve_importFcntl (h : ¬ w.dead n) : lockFile.serve n k w .importFcntl (.ok ()) w := ⟨h, rfl⟩

theorem serve_openLock (h : ¬ w.dead n) : lockFile.serve n k w .openLock (.ok ()) w := ⟨h, rfl⟩

theorem serve_closeLock (h : ¬ w.dead n) :
    lockFile.serve n k w .closeLock (.ok ()) (w.unlock n) := ⟨h, rfl⟩

theorem serve_flock (h : ¬ w.dead n) (hfree : w.holder = none) :
    lockFile.serve n k w .flockExclusive (.ok ()) (w.lock n k) := ⟨h, .inl ⟨rfl, hfree, rfl⟩⟩

theorem serve_flock_fails (h : ¬ w.dead n) :
    lockFile.serve n k w .flockExclusive (.error .osError) w := ⟨h, .inr ⟨rfl, rfl⟩⟩

end Runs

/-- **Two probes**: the second comes between the two calls of the first, and answers `True` where no
updater has run. -/
theorem probe_sees_probe : ∃ es q, lockFile.Trace Contends ⟨unlocked, []⟩ es q ∧
    q.threads[1]? = some ⟨.probe, .pure (.ok true)⟩ ∧ ∀ x ∈ es, ¬ x.1.UpdaterHolds := by
  have trace := Shared.Trace.cons (S := lockFile) (p := ⟨unlocked, []⟩) (.start Contends.probe) <|
    .cons (.call (n := 0) rfl (serve_importFcntl id)) <|
    .cons (.call (n := 0) rfl (serve_openLock id)) <|
    .cons (.call (n := 0) rfl (serve_flock id rfl)) <|
    .cons (.start Contends.probe) <|
    .cons (.call (n := 1) rfl (serve_importFcntl id)) <|
    .cons (.call (n := 1) rfl (serve_openLock id)) <|
    .cons (.call (n := 1) rfl (serve_flock_fails id)) <|
    .cons (.call (n := 1) rfl (serve_closeLock id)) (.nil _)
  have hfree : ¬ unlocked.UpdaterHolds := by rintro ⟨n, ⟨⟩⟩
  have hprobe : ¬ (unlocked.lock 0 .probe).UpdaterHolds := by rintro ⟨n, ⟨⟩⟩
  refine ⟨_, _, trace, rfl, ?_⟩
  simp only [List.forall_mem_cons, List.not_mem_nil, false_imp_iff, implies_true, and_true]
  exact ⟨hfree, hfree, hfree, hfree, hprobe, hprobe, hprobe, hprobe, hprobe⟩

/-- An updater, and a probe that sees it. -/
theorem probe_sees_updater : ∃ es q, lockFile.Trace Contends ⟨unlocked, []⟩ es q ∧
    q.threads[1]? = some ⟨.probe, .pure (.ok true)⟩ ∧ ∀ e ∈ es, Truthful e := by
  have trace := Shared.Trace.cons (S := lockFile) (p := ⟨unlocked, []⟩) (.start (Contends.updater 20)) <|
    .cons (.call (n := 0) rfl (serve_importFcntl id)) <|
    .cons (.call (n := 0) rfl (serve_openLock id)) <|
    .cons (.call (n := 0) rfl (serve_flock id rfl)) <|
    .cons (.start Contends.probe) <|
    .cons (.call (n := 1) rfl (serve_importFcntl id)) <|
    .cons (.call (n := 1) rfl (serve_openLock id)) <|
    .cons (.call (n := 1) rfl (serve_flock_fails id)) <|
    .cons (.call (n := 1) rfl (serve_closeLock id)) (.nil _)
  refine ⟨_, _, trace, rfl, (answers_true_iff trace).2.mpr ?_⟩
  simp only [List.forall_mem_cons, List.not_mem_nil, false_imp_iff, implies_true, and_true]
  have hheld : Undisturbed (unlocked.lock 0 .updater,
      .called 1 .probe .flockExclusive (.error .osError)) := ⟨by rintro ⟨n, ⟨⟩⟩, nofun⟩
  exact ⟨trivial, trivial, trivial, trivial, trivial, trivial, trivial, hheld, trivial⟩

end Greffer.UpdateLock

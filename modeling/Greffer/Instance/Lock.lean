import Mathlib.Algebra.Order.Ring.Rat
import Mathlib.Logic.Function.Basic
import Greffer.Backup.Spawn
import Greffer.CertRenewal.Pass
import Greffer.Effects.Threads

/-! # The instance's lock and the hand-off

Every instance has one lock in the process, taken without waiting by backup and restore
jobs, by the control operations `_serialize_instance_op` wraps, and by certificate
renewal; and a reservation may be placed on it, a deadline until which renewal stands
off.  `Locks` is that table, with the thread that holds each lock, and `shared` says what
each call of a thread does to it.  Calls that are about nothing here answer as they like.
-/
namespace Greffer.Instance
open Effects

/-- The locks, the reservations, and the monotonic clock. -/
structure Locks where
  now : Rat
  /-- The thread that holds the instance's lock. -/
  holder : String → Option Nat
  /-- `_handoff`: the deadline of the instance's reservation. -/
  handoff : String → Option Rat

/-- `_HANDOFF_WINDOW_SECONDS`. -/
def handoffWindowSeconds : Rat := 90

namespace Locks
variable (w : Locks) (n : Nat) (i : String)

/-- The instance's lock is free. -/
def free : Bool := (w.holder i).isNone

/-- The thread takes the lock. -/
def take : Locks := { w with holder := Function.update w.holder i (some n) }

/-- `lock.release()`. -/
def release : Locks := { w with holder := Function.update w.holder i none }

/-- The one-shot `release()` of `_release_once`: it frees the lock its job still holds. -/
def releaseOnce : Locks :=
  { w with holder := fun i => if w.holder i = some n then none else w.holder i }

/-- `reserve_handoff`. -/
def reserve : Locks :=
  { w with handoff := Function.update w.handoff i (some (w.now + handoffWindowSeconds)) }

/-- `clear_handoff`. -/
def clear : Locks := { w with handoff := Function.update w.handoff i none }

/-- `lock.acquire(blocking=False)`. -/
def acquire : Bool × Locks := if w.free i then (true, w.take n i) else (false, w)

/-- `_pending_locked`: a reservation past its deadline is dropped. -/
def pendingLocked : Bool × Locks :=
  match w.handoff i with
  | none => (false, w)
  | some deadline => if deadline ≤ w.now then (false, w.clear i) else (true, w)

/-- `acquire_unless_handoff`: why it refuses, if it does. -/
def acquireUnlessHandoff : Option CertRenewal.Refusal × Locks :=
  let (pending, w) := w.pendingLocked i
  if pending then (some .handoff, w)
  else
    let (acquired, w) := w.acquire n i
    (if acquired then none else some .instanceBusy, w)

theorem acquire_cases : (w.holder i = none ∧ w.acquire n i = (true, w.take n i)) ∨
    (w.holder i ≠ none ∧ w.acquire n i = (false, w)) := by
  unfold acquire free
  cases h : w.holder i with
  | none => exact .inl ⟨rfl, rfl⟩
  | some m => exact .inr ⟨fun hx => (by cases hx), rfl⟩

/-- No reservation of the instance stands: there is none, or it has just been dropped. -/
def Lapsed (w' : Locks) : Prop :=
  (w.handoff i = none ∧ w' = w) ∨ ∃ d, w.handoff i = some d ∧ d ≤ w.now ∧ w' = w.clear i

theorem Lapsed.holder {w w' : Locks} {i : String} (h : w.Lapsed i w') : w'.holder = w.holder := by
  rcases h with ⟨-, rfl⟩ | ⟨d, -, -, rfl⟩ <;> rfl

theorem Lapsed.now {w w' : Locks} {i : String} (h : w.Lapsed i w') : w'.now = w.now := by
  rcases h with ⟨-, rfl⟩ | ⟨d, -, -, rfl⟩ <;> rfl

/-- **A renewal's acquire**: refused for a reservation that stands, or else as any other. -/
theorem acquireUnlessHandoff_cases :
    ((∃ d, w.handoff i = some d ∧ w.now < d) ∧
      w.acquireUnlessHandoff n i = (some .handoff, w)) ∨
    ∃ w', w.Lapsed i w' ∧
      ((w.holder i = none ∧ w.acquireUnlessHandoff n i = (none, w'.take n i)) ∨
        (w.holder i ≠ none ∧ w.acquireUnlessHandoff n i = (some .instanceBusy, w'))) := by
  have hlapsed (w' : Locks) (h : w.Lapsed i w') (hp : w.pendingLocked i = (false, w')) :
      (w.holder i = none ∧ w.acquireUnlessHandoff n i = (none, w'.take n i)) ∨
        (w.holder i ≠ none ∧ w.acquireUnlessHandoff n i = (some .instanceBusy, w')) := by
    rw [← h.holder]
    unfold acquireUnlessHandoff
    rcases w'.acquire_cases n i with ⟨hfree, ha⟩ | ⟨hheld, ha⟩
    · exact .inl ⟨hfree, by simp [hp, ha]⟩
    · exact .inr ⟨hheld, by simp [hp, ha]⟩
  cases hd : w.handoff i with
  | none =>
    have hl : w.Lapsed i w := .inl ⟨hd, rfl⟩
    exact .inr ⟨w, hl, hlapsed w hl (by simp [pendingLocked, hd])⟩
  | some d =>
    by_cases hpast : d ≤ w.now
    · have hl : w.Lapsed i (w.clear i) := .inr ⟨d, hd, hpast, rfl⟩
      exact .inr ⟨w.clear i, hl, hlapsed _ hl (by simp [pendingLocked, hd, hpast])⟩
    · refine .inl ⟨⟨d, rfl, not_le.mp hpast⟩, ?_⟩
      simp [acquireUnlessHandoff, pendingLocked, hd, hpast]

end Locks

/-! ## Control operations -/

/-- What a control operation may raise: an HTTP error, or anything else. -/
inductive ControlError where
  | http (statusCode : Nat) (detail : String)
  | raised (e : Exn)

/-- The calls of a serialized control operation: the lock's, and its handler's own. -/
inductive ControlCall (H : Type) where
  | acquire (instanceId : String)
  | clearHandoff (instanceId : String)
  | release (instanceId : String)
  | handler (h : H)

/-- What each call answers. -/
@[reducible] def ControlCall.Answer {H : Type} (HAns : H → Type) : ControlCall H → Type
  | .acquire _ => Bool
  | .handler h => HAns h
  | .clearHandoff _ | .release _ => Unit

variable {H : Type} {HAns : H → Type}

/-- `_serialize_instance_op`, of a handler. -/
def serializeInstanceOp (instanceId : String)
    (handler : Action (ControlCall.Answer HAns) ControlError Unit) :
    Action (ControlCall.Answer HAns) ControlError Unit := do
  if ← Action.perform (ControlCall.acquire instanceId) then
    Action.perform (ControlCall.clearHandoff instanceId)
    let r ← handler.outcome
    Action.perform (ControlCall.release instanceId)
    Action.ofExcept r
  else Action.raise (.http 409 "instance_busy")

/-! ## The threads -/

/-- The kinds of threads that use the locks. -/
inductive Party where
  | job
  | renewal
  | control
  deriving DecidableEq

/-- The calls of each kind. -/
@[reducible] def Party.Call (H : Type) : Party → Type
  | .job => Backup.BackupCall
  | .renewal => CertRenewal.RenewalCall
  | .control => ControlCall H

/-- What each call is answered. -/
@[reducible] def Party.Reply (HAns : H → Type) : (k : Party) → k.Call H → Type
  | .job => Raises Backup.Answer Backup.JobError
  | .renewal => Raises CertRenewal.Answer CertRenewal.RenewalError
  | .control => Raises (ControlCall.Answer HAns) ControlError

/-- What each kind returns. -/
@[reducible] def Party.Result : Party → Type
  | .job => Except Backup.JobError Unit
  | .renewal => Except CertRenewal.RenewalError CertRenewal.PassResult
  | .control => Except ControlError Unit

/-- The locks, as a job's calls use them. -/
def serveJob (n : Nat) (w : Locks) :
    (c : Backup.BackupCall) → Raises Backup.Answer Backup.JobError c → Locks → Prop
  | .acquireLock i, r, w' => (r, w') = (.ok (w.acquire n i).1, (w.acquire n i).2)
  | .releaseLock, r, w' => r = .ok () ∧ w' = w.releaseOnce n
  | .reserveHandoff i, r, w' => r = .ok () ∧ w' = w.reserve i
  | _, _, w' => w' = w

/-- The locks, as a renewal's calls use them. -/
def serveRenewal (n : Nat) (w : Locks) : (c : CertRenewal.RenewalCall) →
    Raises CertRenewal.Answer CertRenewal.RenewalError c → Locks → Prop
  | .acquireUnlessHandoff i, r, w' =>
    (r, w') = (.ok (w.acquireUnlessHandoff n i).1, (w.acquireUnlessHandoff n i).2)
  | .releaseLock i, r, w' => r = .ok () ∧ w' = w.release i
  | _, _, w' => w' = w

/-- The locks, as a control operation's calls use them. -/
def serveControl (n : Nat) (w : Locks) :
    (c : ControlCall H) → Raises (ControlCall.Answer HAns) ControlError c → Locks → Prop
  | .acquire i, r, w' => (r, w') = (.ok (w.acquire n i).1, (w.acquire n i).2)
  | .clearHandoff i, r, w' => r = .ok () ∧ w' = w.clear i
  | .release i, r, w' => r = .ok () ∧ w' = w.release i
  | .handler _, _, w' => w' = w

/-- **The shared table**: the calls of every thread, and the clock, which only advances. -/
def shared (HAns : H → Type) : Shared (Party.Reply HAns) Locks where
  serve n k w := match k with
    | .job => serveJob n w
    | .renewal => serveRenewal n w
    | .control => serveControl n w
  drift w w' := ∃ now, w.now ≤ now ∧ w' = { w with now := now }

/-- **The threads that start**: an accepted backup or restore with its request, a renewal
pass, and a control operation with any handler that leaves the locks alone. -/
inductive Starts : Thread (Party.Reply HAns) Party.Result → Prop
  | job (j : Backup.AcceptedJob) :
    Starts ⟨.job, (do Backup.spawn j.instanceId; j.thread : Backup.Job Unit)⟩
  | renewal (settings : CertRenewal.Settings) (only : Option String) (force : Bool)
      (m : CertRenewal.Memory) :
    Starts ⟨.renewal, (CertRenewal.renewAll settings only force).run m⟩
  | control (instanceId : String) (handler : Action (ControlCall.Answer HAns) ControlError Unit)
      (own : handler.Uses fun c => ∃ h, c = .handler h) :
    Starts ⟨.control, serializeInstanceOp instanceId handler⟩

end Greffer.Instance

import Mathlib.Data.Finset.Card
import Greffer.Effects.Routine
import Greffer.Effects.Threads

/-! # Children of compose

`compose.start` and `compose.stop` return while the child they spawned is still at work.  For as long
as it is, the instance counts as mid-compose: `track_compose_child` counts the child and starts a
thread that waits for it and takes it off the count again; where no thread could be started it takes
the child off itself.  The counter of an instance lives in a dictionary, from which it disappears when
it comes to zero.

Any number of calls, waiters and exits may interleave.  Each child is taken off **once**: by its call
as long as that has handed it to no waiter, by its waiter from then on, and only after it has exited.
So the counter is the number of children that are tracked and not yet released (`Counts`), and it is
positive as long as a child that has been handed over still runs.  And none of them stays on it: as
long as it does, its call or its waiter is still to take it off.
-/
namespace Greffer.Instance
open Effects

/-! ## The code -/

/-- A process that was spawned. -/
structure Proc where
  pid : Nat
  deriving DecidableEq

/-- The calls.  Under `_inflight_guard` an update of the counter is one step. -/
inductive ChildCall where
  /-- `_inflight[greffon_id] = _inflight.get(greffon_id, 0) + 1`. -/
  | count (greffonId : String)
  /-- `threading.Thread(target=_wait, ..).start()`. -/
  | startWaiter (greffonId : String) (proc : Proc)
  /-- `proc.wait()`. -/
  | wait (proc : Proc)
  /-- What `_release_compose_child` does under the guard. -/
  | release (greffonId : String)
  | warn (event greffonId : String)

/-- What they raise: exceptions of which nothing but a traceback is made. -/
inductive ChildError where
  | exception

/-- Each of them answers nothing. -/
@[reducible] def ChildCall.Answer (_ : ChildCall) : Type := Unit

/-- Code that has to do with children. -/
abbrev ChildSteps := Action ChildCall.Answer ChildError

/-- Make one call. -/
abbrev request (c : ChildCall) : ChildSteps Unit := Action.perform c

/-- `_release_compose_child`. -/
def releaseComposeChild (greffonId : String) : ChildSteps Unit := request (.release greffonId)

/-- `_wait`: the child is released however the wait ends. -/
def waitForChild (greffonId : String) (proc : Proc) : ChildSteps Unit := do
  let waited ← ((request (.wait proc)).tryExcept fun _ =>
    request (.warn "compose_wait_failed" greffonId)).outcome
  releaseComposeChild greffonId
  Action.ofExcept waited

/-- `track_compose_child`. -/
def trackComposeChild (greffonId : String) (proc : Option Proc) : ChildSteps Unit :=
  match proc with
  | none => return ()
  | some proc => do
    request (.count greffonId)
    (request (.startWaiter greffonId proc)).tryExcept fun _ => do
      request (.warn "compose_wait_thread_failed" greffonId)
      releaseComposeChild greffonId

/-! ## What the threads share -/

/-- The threads: those that call `track_compose_child`, each with a child that is known by the number of
the thread, and those that wait for the child of such a number. -/
inductive ChildThread where
  | tracker
  | waiter (child : Nat) (greffonId : String)
  deriving DecidableEq

/-- The child of a thread. -/
def ChildThread.child (n : Nat) : ChildThread → Nat
  | tracker => n
  | waiter child _ => child

/-- The counters; and what became of the children. -/
structure Children where
  /-- `_inflight`. -/
  inflight : String → Option Int
  exited : Proc → Prop
  /-- The children of an instance that are tracked and not yet released. -/
  live : String → Finset Nat
  /-- The instance and the process of a child for which a waiter has been started. -/
  waiter : Nat → Option (String × Proc)
  /-- The thread that was its waiter, once the wait is over. -/
  waited : Nat → Option Nat

namespace Children
variable (w : Children) (n child : Nat) (greffonId : String)

/-- `compose_inflight`. -/
def composeInflight : Bool := decide (0 < (w.inflight greffonId).getD 0)

/-- The counter of an instance, 0 if it is missing. -/
def counter : Int := (w.inflight greffonId).getD 0

def count : Children := { w with
  inflight := Function.update w.inflight greffonId (some ((w.inflight greffonId).getD 0 + 1))
  live := Function.update w.live greffonId (insert n (w.live greffonId)) }

def startWaiter (proc : Proc) : Children :=
  { w with waiter := Function.update w.waiter n (some (greffonId, proc)) }

def endWait : Children := { w with waited := Function.update w.waited child (some n) }

/-- `remaining`, in `_release_compose_child`. -/
def remaining : Int := (w.inflight greffonId).getD 1 - 1

def release : Children := { w with
  inflight := Function.update w.inflight greffonId
    (if 0 < w.remaining greffonId then some (w.remaining greffonId) else none)
  live := Function.update w.live greffonId ((w.live greffonId).erase child) }

end Children

/-- **The environment**: a waiter may fail to start, a wait ends only when the process has exited, and
processes exit by themselves. -/
def children : Shared (fun _ : ChildThread => Raises ChildCall.Answer ChildError) Children where
  serve n k w
    | .count greffonId, r, w' => r = .ok () ∧ w' = w.count n greffonId
    | .startWaiter greffonId proc, r, w' =>
      (r = .ok () ∧ w' = w.startWaiter n greffonId proc) ∨ (r = .error .exception ∧ w' = w)
    | .wait proc, _, w' => ∃ child greffonId, k = .waiter child greffonId ∧
        w.waiter child = some (greffonId, proc) ∧ w.waited child = none ∧ w.exited proc ∧
        w' = w.endWait n child
    | .release greffonId, r, w' => r = .ok () ∧ w' = w.release (k.child n) greffonId
    | .warn _ _, r, w' => r = .ok () ∧ w' = w
  drift w w' := ∃ exited : Proc → Prop, (∀ proc, w.exited proc → exited proc) ∧
    w' = { w with exited := exited }

/-- The threads that may start.  A waiter that nobody started never gets past its wait. -/
inductive RunsChild : Thread (fun _ : ChildThread => Raises ChildCall.Answer ChildError)
    (fun _ => Except ChildError Unit) → Prop
  | track (greffonId : String) (proc : Option Proc) :
    RunsChild ⟨.tracker, trackComposeChild greffonId proc⟩
  | wait (child : Nat) (greffonId : String) (proc : Proc) :
    RunsChild ⟨.waiter child greffonId, waitForChild greffonId proc⟩

/-! ## Whose turn it is to release -/

/-- Where a thread is. -/
inductive ChildPhase where
  /-- A call that has counted nothing. -/
  | fresh
  | counted (greffonId : String)
  /-- No waiter could be started. -/
  | failed (greffonId : String)
  /-- A waiter that waits. -/
  | waiting
  | reaping (child : Nat) (greffonId : String)
  /-- The child is released, or a waiter's. -/
  | settled
  /-- It was answered as it never is. -/
  | barred
  /-- It made a call out of turn. -/
  | astray
  deriving DecidableEq

/-- The phase, after a call. -/
def ChildPhase.after (k : ChildThread) :
    ChildPhase → (c : ChildCall) → Raises ChildCall.Answer ChildError c → ChildPhase
  | .fresh, .count i, .ok _ => if k = .tracker then .counted i else .astray
  | .fresh, .count _, .error _ => .barred
  | .counted i, .startWaiter j _, .ok _ => if j = i then .settled else .astray
  | .counted i, .startWaiter j _, .error _ => if j = i then .failed i else .astray
  | .failed i, .warn _ _, .ok _ => .failed i
  | .failed _, .warn _ _, .error _ => .barred
  | .failed i, .release j, _ => if j = i ∧ k = .tracker then .settled else .astray
  | .waiting, .wait _, _ => match k with
    | .waiter child i => .reaping child i
    | .tracker => .astray
  | .reaping child i, .warn _ _, _ => .reaping child i
  | .reaping child i, .release j, _ => if k = .waiter child i ∧ j = i then .settled else .astray
  | _, _, _ => .astray

/-- The threads, followed through their phases. -/
def childMonitor : Monitor (fun _ : ChildThread => Raises ChildCall.Answer ChildError) ChildPhase where
  after := ChildPhase.after

/-- No call out of turn was made. -/
def ChildPhase.InTurn (s : ChildPhase) : Prop := s ≠ .astray

/-- Where a thread may end: with no child to release. -/
inductive ChildPhase.Over : ChildPhase → Prop
  | fresh : Over .fresh
  | settled : Over .settled
  | barred : Over .barred

/-- **A call of `track_compose_child` keeps to its turns**, and ends when it has no more. -/
theorem track_inTurn (greffonId : String) (proc : Option Proc) :
    (trackComposeChild greffonId proc).Always (childMonitor.machine .tracker) ChildPhase.InTurn
      (fun _ s => s.Over) .fresh := by
  cases proc with
  | none => exact ⟨by simp [ChildPhase.InTurn], .fresh⟩
  | some proc =>
    have hcounted : ChildPhase.InTurn (.counted greffonId) := by simp [ChildPhase.InTurn]
    have hfailed : ChildPhase.InTurn (.failed greffonId) := by simp [ChildPhase.InTurn]
    have hbarred : ChildPhase.InTurn .barred := by simp [ChildPhase.InTurn]
    unfold trackComposeChild
    dsimp only
    rw [Action.always_bind]
    refine ⟨by simp [ChildPhase.InTurn], fun r s hs => ?_⟩
    cases r with
    | error e =>
      obtain rfl : s = .barred := hs
      exact ⟨hbarred, .barred⟩
    | ok u =>
      have hown : childMonitor.after .tracker .fresh (.count greffonId) (.ok u) =
          .counted greffonId := by simp [childMonitor, ChildPhase.after]
      obtain rfl : s = .counted greffonId := hs.trans hown
      refine ⟨hcounted, ?_⟩
      rw [onOk_ok, Action.always_tryExcept]
      refine ⟨hcounted, fun r s hs => ?_⟩
      cases r with
      | ok u =>
        obtain rfl : s = .settled := hs.trans (if_pos rfl)
        exact ⟨by simp [ChildPhase.InTurn], .settled⟩
      | error e =>
        obtain rfl : s = .failed greffonId := hs.trans (if_pos rfl)
        refine ⟨hfailed, ?_⟩
        dsimp only
        rw [Action.always_bind]
        refine ⟨hfailed, fun r s hs => ?_⟩
        cases r with
        | error e =>
          obtain rfl : s = .barred := hs
          exact ⟨hbarred, .barred⟩
        | ok u =>
          obtain rfl : s = .failed greffonId := hs
          refine ⟨hfailed, hfailed, fun r s hs => ?_⟩
          obtain rfl : s = .settled := hs.trans (if_pos ⟨rfl, rfl⟩)
          exact ⟨by simp [ChildPhase.InTurn], .settled⟩

/-- **A waiter keeps to its turns**, and ends when its child is released. -/
theorem wait_inTurn (child : Nat) (greffonId : String) (proc : Proc) :
    (waitForChild greffonId proc).Always (childMonitor.machine (.waiter child greffonId))
      ChildPhase.InTurn (fun _ s => s.Over) .waiting := by
  have hreaping : ChildPhase.InTurn (.reaping child greffonId) := by simp [ChildPhase.InTurn]
  have hrelease : ∀ waited : Except ChildError Unit,
      (releaseComposeChild greffonId >>= fun _ => Action.ofExcept waited).Always
        (childMonitor.machine (.waiter child greffonId)) ChildPhase.InTurn (fun _ s => s.Over)
        (.reaping child greffonId) := by
    intro waited
    rw [Action.always_bind]
    refine ⟨hreaping, fun r s hs => ?_⟩
    obtain rfl : s = .settled := hs.trans (if_pos ⟨rfl, rfl⟩)
    have hsettled : ChildPhase.InTurn .settled := by simp [ChildPhase.InTurn]
    cases r with
    | error e => exact ⟨hsettled, .settled⟩
    | ok u => exact ⟨hsettled, hsettled, .settled⟩
  unfold waitForChild
  rw [Action.always_bind, Action.always_outcome, Action.always_tryExcept]
  refine ⟨by simp [ChildPhase.InTurn], fun r s hs => ?_⟩
  obtain rfl : s = .reaping child greffonId := hs
  refine ⟨hreaping, ?_⟩
  cases r with
  | ok u => exact hrelease _
  | error e =>
    refine ⟨hreaping, fun r s hs => ?_⟩
    obtain rfl : s = .reaping child greffonId := hs
    exact ⟨hreaping, hrelease r⟩

/-! ## The turns -/

/-- What a step in turn does. -/
inductive ChildTurn (n : Nat) (w : Children) : ChildPhase → ChildPhase → Children → Prop
  | count (i : String) : ChildTurn n w .fresh (.counted i) (w.count n i)
  | handOver (i : String) (proc : Proc) : ChildTurn n w (.counted i) .settled (w.startWaiter n i proc)
  | fail (i : String) : ChildTurn n w (.counted i) (.failed i) w
  | release (i : String) : ChildTurn n w (.failed i) .settled (w.release n i)
  | endWait (child : Nat) (i : String) (proc : Proc) (started : w.waiter child = some (i, proc))
      (first : w.waited child = none) (ended : w.exited proc) :
    ChildTurn n w .waiting (.reaping child i) (w.endWait n child)
  | reap (child : Nat) (i : String) : ChildTurn n w (.reaping child i) .settled (w.release child i)
  | warn (s : ChildPhase) : ChildTurn n w s s w

variable {n n' N : Nat} {k : ChildThread} {w w' : Children} {s s' : ChildPhase} {c : ChildCall}
  {r : Raises ChildCall.Answer ChildError c}

/-- **A call in turn is one of the turns.** -/
theorem childTurn_of_serve (hserve : children.serve n k w c r w')
    (hturn : (ChildPhase.after k s c r).InTurn) : ChildTurn n w s (ChildPhase.after k s c r) w' := by
  cases s with
  | settled => exact absurd rfl hturn
  | barred => exact absurd rfl hturn
  | astray => exact absurd rfl hturn
  | fresh =>
    cases c with
    | count i =>
      obtain ⟨rfl, rfl⟩ := hserve
      by_cases hk : k = .tracker
      · have hafter : ChildPhase.after k .fresh (.count i) (.ok ()) = .counted i := if_pos hk
        rw [hafter]
        exact .count i
      · exact absurd (if_neg hk) hturn
    | _ => exact absurd rfl hturn
  | counted i =>
    cases c with
    | startWaiter j proc =>
      -- the waiter takes over the one that was counted, or its thread cannot be started
      by_cases hj : j = i
      · subst hj
        rcases hserve with ⟨rfl, rfl⟩ | ⟨rfl, rfl⟩
        · have hafter : ChildPhase.after k (.counted j) (.startWaiter j proc) (.ok ()) = .settled :=
            if_pos rfl
          rw [hafter]
          exact .handOver j proc
        · have hafter : ChildPhase.after k (.counted j) (.startWaiter j proc) (.error .exception) =
              .failed j := if_pos rfl
          rw [hafter]
          exact .fail j
      · cases r with
        | ok u => exact absurd (if_neg hj) hturn
        | error e => exact absurd (if_neg hj) hturn
    | _ => exact absurd rfl hturn
  | failed i =>
    cases c with
    | warn event j =>
      obtain ⟨rfl, rfl⟩ := hserve
      exact .warn _
    | release j =>
      obtain ⟨rfl, rfl⟩ := hserve
      -- the tracker gives back its own count
      by_cases hj : j = i ∧ k = .tracker
      · have hafter : ChildPhase.after k (.failed i) (.release j) (.ok ()) = .settled := if_pos hj
        rw [hafter]
        obtain ⟨rfl, rfl⟩ := hj
        exact .release j
      · exact absurd (if_neg hj) hturn
    | _ => exact absurd rfl hturn
  | waiting =>
    cases c with
    | wait proc =>
      obtain ⟨child, i, rfl, hstarted, hfirst, hended, rfl⟩ := hserve
      exact .endWait child i proc hstarted hfirst hended
    | _ => exact absurd rfl hturn
  | reaping child i =>
    cases c with
    | warn event j =>
      obtain ⟨rfl, rfl⟩ := hserve
      exact .warn _
    | release j =>
      obtain ⟨rfl, rfl⟩ := hserve
      -- the waiter gives back that of its child
      by_cases hk : k = .waiter child i ∧ j = i
      · have hafter : ChildPhase.after k (.reaping child i) (.release j) (.ok ()) = .settled := if_pos hk
        rw [hafter]
        obtain ⟨rfl, rfl⟩ := hk
        exact .reap child j
      · exact absurd (if_neg hk) hturn
    | _ => exact absurd rfl hturn

/-! ## The invariant -/

namespace Children

/-- The entry of a counter at `m`. -/
def entry (m : Nat) : Option Int := if m = 0 then none else some m

/-- **The invariant** of the counters. -/
structure Counts (w : Children) : Prop where
  counts : ∀ i, w.inflight i = entry (w.live i).card
  /-- A child that is a waiter's, and has not been waited for, is tracked; -/
  held : ∀ child i proc, w.waiter child = some (i, proc) → w.waited child = none → child ∈ w.live i
  /-- it has exited when it has been waited for. -/
  ended : ∀ child i proc, w.waiter child = some (i, proc) → w.waited child ≠ none → w.exited proc
  started : ∀ child, w.waited child ≠ none → w.waiter child ≠ none
  /-- A child is one instance's. -/
  single : ∀ child i j, child ∈ w.live i → child ∈ w.live j → i = j

/-- The thread in this phase, and what it may release: its own child, as long as that has no waiter, and
the child that it has waited for. -/
def Agrees (n : Nat) (s : ChildPhase) (w : Children) : Prop :=
  w.Counts ∧ match s with
    | .fresh | .waiting =>
      (∀ i, n ∉ w.live i) ∧ w.waiter n = none ∧ ∀ child, w.waited child ≠ some n
    | .counted i | .failed i =>
      n ∈ w.live i ∧ w.waiter n = none ∧ ∀ child, w.waited child ≠ some n
    | .reaping child i => child ∈ w.live i ∧ w.waited child = some n ∧
      (∀ i, n ∉ w.live i) ∧ ∀ m, w.waited m = some n → m = child
    | .settled => (w.waiter n = none → ∀ i, n ∉ w.live i) ∧
      ∀ child, w.waited child = some n → ∀ i, child ∉ w.live i
    | .barred | .astray => False

/-- The children are those of threads below `N`. -/
def Below (N : Nat) (w : Children) : Prop := ∀ n, N ≤ n → w.Agrees n .fresh

theorem entry_getD (m : Nat) : (entry m).getD 0 = m := by
  unfold entry
  by_cases hm : m = 0
  · rw [if_pos hm, hm]
    rfl
  · rw [if_neg hm]
    rfl

theorem entry_release (m : Nat) : (if 0 < (entry (m + 1)).getD 1 - 1 then
    some ((entry (m + 1)).getD 1 - 1) else none) = entry m := by
  have hvalue : (entry (m + 1)).getD 1 - 1 = m := by
    unfold entry
    rw [if_neg (Nat.succ_ne_zero m), Option.getD_some]
    omega
  rw [hvalue]
  unfold entry
  by_cases hm : m = 0
  · rw [if_pos hm, if_neg (by omega)]
  · rw [if_neg hm, if_pos (by omega)]

/-! ### What the steps do to the live children -/

theorem mem_live_count {m : Nat} {i j : String} :
    m ∈ (w.count n i).live j ↔ m ∈ w.live j ∨ (m = n ∧ j = i) := by
  unfold count
  by_cases hj : j = i
  · subst hj
    simp [or_comm]
  · simp [hj]

theorem mem_live_release {child m : Nat} {i j : String} :
    m ∈ (w.release child i).live j ↔ m ∈ w.live j ∧ ¬ (m = child ∧ j = i) := by
  unfold release
  by_cases hj : j = i
  · subst hj
    simp [and_comm]
  · simp [hj]

theorem waiter_startWaiter {m : Nat} (i : String) (proc : Proc) (h : m ≠ n) :
    (w.startWaiter n i proc).waiter m = w.waiter m := Function.update_of_ne h _ _

theorem waiter_startWaiter_self (i : String) (proc : Proc) :
    (w.startWaiter n i proc).waiter n = some (i, proc) := Function.update_self ..

theorem waited_endWait {m child : Nat} (h : m ≠ child) :
    (w.endWait n child).waited m = w.waited m := Function.update_of_ne h _ _

theorem waited_endWait_self (child : Nat) : (w.endWait n child).waited child = some n :=
  Function.update_self ..

/-! ### What they do to the invariant -/

namespace Counts

theorem count (h : w.Counts) (i : String) (hnew : ∀ i, n ∉ w.live i) : (w.count n i).Counts where
  counts j := by
    by_cases hj : j = i
    · subst hj
      unfold Children.count
      simp only [Function.update_self]
      rw [h.counts, entry_getD, Finset.card_insert_of_notMem (hnew j), entry, if_neg (Nat.succ_ne_zero _)]
      rfl
    · unfold Children.count
      simp only [Function.update_of_ne hj]
      exact h.counts j
  held child j proc hstarted hfirst := mem_live_count.mpr (.inl (h.held child j proc hstarted hfirst))
  ended := h.ended
  started := h.started
  single child j j' hj hj' := by
    rcases mem_live_count.mp hj with hold | ⟨rfl, rfl⟩ <;>
    rcases mem_live_count.mp hj' with hold' | ⟨hchild, rfl⟩
    · exact h.single child j j' hold hold'
    · exact absurd (hchild ▸ hold) (hnew j)
    · exact absurd hold' (hnew j')
    · rfl

theorem startWaiter (h : w.Counts) {i : String} (proc : Proc) (hlive : n ∈ w.live i)
    (hnone : w.waiter n = none) : (w.startWaiter n i proc).Counts where
  counts := h.counts
  held child j proc' hstarted hfirst := by
    by_cases hchild : child = n
    · subst hchild
      rw [waiter_startWaiter_self] at hstarted
      cases hstarted
      exact hlive
    · rw [waiter_startWaiter i proc hchild] at hstarted
      exact h.held child j proc' hstarted hfirst
  ended child j proc' hstarted hwaited := by
    by_cases hchild : child = n
    · subst hchild
      exact absurd hnone (h.started child hwaited)
    · rw [waiter_startWaiter i proc hchild] at hstarted
      exact h.ended child j proc' hstarted hwaited
  started child hwaited := by
    by_cases hchild : child = n
    · subst hchild
      exact absurd hnone (h.started child hwaited)
    · rw [waiter_startWaiter i proc hchild]
      exact h.started child hwaited
  single := h.single

theorem endWait (h : w.Counts) {child : Nat} {i : String} {proc : Proc} (n : Nat)
    (hstarted : w.waiter child = some (i, proc)) (hended : w.exited proc) :
    (w.endWait n child).Counts where
  counts := h.counts
  held m j proc' hm hfirst := by
    by_cases hchild : m = child
    · subst hchild
      rw [waited_endWait_self] at hfirst
      cases hfirst
    · rw [waited_endWait hchild] at hfirst
      exact h.held m j proc' hm hfirst
  ended m j proc' hm hwaited := by
    by_cases hchild : m = child
    · subst hchild
      cases hstarted.symm.trans hm
      exact hended
    · rw [waited_endWait hchild] at hwaited
      exact h.ended m j proc' hm hwaited
  started m hwaited := by
    by_cases hchild : m = child
    · subst hchild
      intro hnone
      cases hstarted.symm.trans hnone
    · rw [waited_endWait hchild] at hwaited
      exact h.started m hwaited
  single := h.single

/-- **A release takes one off**, of a child that is tracked. -/
theorem release (h : w.Counts) {child : Nat} {i : String} (hlive : child ∈ w.live i)
    (hown : w.waiter child ≠ none → w.waited child ≠ none) : (w.release child i).Counts where
  counts j := by
    by_cases hj : j = i
    · subst hj
      have hcard := Finset.card_erase_add_one hlive
      unfold Children.release remaining
      simp only [Function.update_self]
      rw [h.counts, ← hcard, entry_release]
    · unfold Children.release
      simp only [Function.update_of_ne hj]
      exact h.counts j
  held m j proc hstarted hfirst := by
    refine mem_live_release.mpr ⟨h.held m j proc hstarted hfirst, ?_⟩
    rintro ⟨rfl, rfl⟩
    refine hown (fun hnone => ?_) hfirst
    cases hstarted.symm.trans hnone
  ended := h.ended
  started := h.started
  single m j j' hj hj' :=
    h.single m j j' (mem_live_release.mp hj).1 (mem_live_release.mp hj').1

/-- **Once it is released it is nobody's.** -/
theorem released (h : w.Counts) {child : Nat} {i : String} (hlive : child ∈ w.live i) (j : String) :
    child ∉ (w.release child i).live j := by
  intro hj
  obtain ⟨hold, hother⟩ := mem_live_release.mp hj
  exact hother ⟨rfl, h.single child j i hold hlive⟩

end Counts

/-- **A turn keeps the invariant.** -/
theorem Counts.turn (hturn : ChildTurn n w s s' w') (h : w.Agrees n s) : w'.Counts := by
  obtain ⟨hcounts, hphase⟩ := h
  cases hturn with
  | count i => exact hcounts.count i hphase.1
  | handOver i proc => exact hcounts.startWaiter proc hphase.1 hphase.2.1
  | fail i => exact hcounts
  | release i => exact hcounts.release hphase.1 fun hne => absurd hphase.2.1 hne
  | endWait child i proc started first ended => exact hcounts.endWait n started ended
  | reap child i =>
    refine hcounts.release hphase.1 fun _ hnone => ?_
    cases hphase.2.1.symm.trans hnone
  | warn s => exact hcounts

/-- It keeps the agreement of whoever takes it, -/
theorem agrees_own (hturn : ChildTurn n w s s' w') (h : w.Agrees n s) : w'.Agrees n s' := by
  refine ⟨Counts.turn hturn h, ?_⟩
  obtain ⟨hcounts, hphase⟩ := h
  cases hturn with
  | count i => exact ⟨mem_live_count.mpr (.inr ⟨rfl, rfl⟩), hphase.2⟩
  | fail i => exact hphase
  | endWait child i proc started first ended =>
    refine ⟨hcounts.held child i proc started first, waited_endWait_self child, hphase.1,
      fun m hm => ?_⟩
    by_contra hother
    rw [waited_endWait hother] at hm
    exact hphase.2.2 m hm
  | handOver i proc =>
    refine ⟨fun hnone => ?_, fun child hwaited => absurd hwaited (hphase.2.2 child)⟩
    rw [waiter_startWaiter_self] at hnone
    cases hnone
  | release i =>
    exact ⟨fun _ => hcounts.released hphase.1,
      fun child hwaited => absurd hwaited (hphase.2.2 child)⟩
  | reap child i =>
    refine ⟨fun _ j hj => hphase.2.2.1 j (mem_live_release.mp hj).1, fun m hwaited j => ?_⟩
    obtain rfl := hphase.2.2.2 m hwaited
    exact hcounts.released hphase.1 j
  | warn s => exact hphase

/-- What the agreement of a thread rests on: what it tracks, its waiter, and what it has waited for. -/
theorem Agrees.frame (h : w.Agrees n s) (hcounts : w'.Counts)
    (hwaiter : w'.waiter n = w.waiter n)
    (hwaited : ∀ child, w'.waited child = some n ↔ w.waited child = some n)
    (hown : ∀ i, n ∈ w'.live i → n ∈ w.live i)
    (hkeeps : w.waiter n = none → ∀ i, n ∈ w.live i → n ∈ w'.live i)
    (hreaping : ∀ child, w.waited child = some n → ∀ i, child ∈ w'.live i ↔ child ∈ w.live i) :
    w'.Agrees n s := by
  refine ⟨hcounts, ?_⟩
  obtain ⟨-, hphase⟩ := h
  have hidle (hnone : ∀ child, w.waited child ≠ some n) (child : Nat) : w'.waited child ≠ some n :=
    fun hchild => hnone child ((hwaited child).mp hchild)
  cases s with
  | fresh => exact ⟨fun i hi => hphase.1 i (hown i hi), hwaiter.trans hphase.2.1, hidle hphase.2.2⟩
  | waiting => exact ⟨fun i hi => hphase.1 i (hown i hi), hwaiter.trans hphase.2.1, hidle hphase.2.2⟩
  | counted i =>
    exact ⟨hkeeps hphase.2.1 i hphase.1, hwaiter.trans hphase.2.1, hidle hphase.2.2⟩
  | failed i => exact ⟨hkeeps hphase.2.1 i hphase.1, hwaiter.trans hphase.2.1, hidle hphase.2.2⟩
  | reaping child i =>
    exact ⟨(hreaping child hphase.2.1 i).mpr hphase.1, (hwaited child).mpr hphase.2.1,
      fun j hj => hphase.2.2.1 j (hown j hj), fun m hm => hphase.2.2.2 m ((hwaited m).mp hm)⟩
  | settled =>
    refine ⟨fun hnone i hi => hphase.1 (hwaiter ▸ hnone) i (hown i hi), fun child hchild i hi => ?_⟩
    have hmine := (hwaited child).mp hchild
    exact hphase.2 child hmine i ((hreaping child hmine i).mp hi)
  | barred => exact hphase
  | astray => exact hphase

/-- A release of one child leaves every other. -/
theorem Agrees.frame_release {child : Nat} {i : String} (h : w.Agrees n s)
    (hcounts : (w.release child i).Counts) (hcalls : w.waiter n = none → n ≠ child)
    (hwaits : ∀ m, w.waited m = some n → m ≠ child) : (w.release child i).Agrees n s := by
  refine h.frame hcounts rfl (fun _ => Iff.rfl) (fun j hj => (mem_live_release.mp hj).1)
    (fun hnone j hj => ?_) fun m hwaited j => ?_
  · exact mem_live_release.mpr ⟨hj, fun heq => hcalls hnone heq.1⟩
  · rw [mem_live_release]
    exact and_iff_left fun heq => hwaits m hwaited heq.1

/-- and of every other thread. -/
theorem agrees_other (hturn : ChildTurn n w s s' w') (h : w.Agrees n s) (hne : n' ≠ n)
    {t : ChildPhase} (ht : w.Agrees n' t) : w'.Agrees n' t := by
  have hcounts := Counts.turn hturn h
  obtain ⟨hbefore, hphase⟩ := h
  -- A child that was waited for has been handed over.
  have hstarted (m : Nat) (hwaited : w.waited m = some n') : w.waiter m ≠ none := by
    refine hbefore.started m fun hnone => ?_
    cases hwaited.symm.trans hnone
  cases hturn with
  | count i =>
    have hlive (m : Nat) (hm : m ≠ n) (j : String) : m ∈ (w.count n i).live j ↔ m ∈ w.live j := by
      rw [mem_live_count]
      exact or_iff_left fun heq => hm heq.1
    refine ht.frame hcounts rfl (fun _ => Iff.rfl) (fun j => (hlive n' hne j).mp)
      (fun _ j => (hlive n' hne j).mpr) fun m hwaited j => hlive m ?_ j
    rintro rfl
    exact hstarted m hwaited hphase.2.1
  | handOver i proc =>
    exact ht.frame hcounts (waiter_startWaiter i proc hne) (fun _ => Iff.rfl) (fun _ h => h)
      (fun _ _ h => h) fun _ _ _ => Iff.rfl
  | fail i => exact ht
  | release i =>
    -- The caller has handed its child to nobody.
    refine ht.frame_release hcounts (fun _ => hne) fun m hwaited => ?_
    rintro rfl
    exact hstarted m hwaited hphase.2.1
  | endWait child i proc started first ended =>
    refine ht.frame hcounts rfl (fun m => ?_) (fun _ h => h) (fun _ _ h => h) fun _ _ _ => Iff.rfl
    by_cases hm : m = child
    · subst hm
      rw [waited_endWait_self, first]
      exact iff_of_false (fun heq => hne (Option.some.inj heq).symm) nofun
    · rw [waited_endWait hm]
  | reap child i =>
    -- The waiter is the only one that waited for its child.
    refine ht.frame_release hcounts (fun hnone heq => ?_) fun m hwaited heq => ?_
    · subst heq
      refine hbefore.started n' (fun hwaited => ?_) hnone
      cases hphase.2.1.symm.trans hwaited
    · subst heq
      exact hne (Option.some.inj (hwaited.symm.trans hphase.2.1))
  | warn s => exact ht

theorem Agrees.drift (h : w.Agrees n s) (hdrift : children.drift w w') : w'.Agrees n s := by
  obtain ⟨exited, hexited, rfl⟩ := hdrift
  obtain ⟨hcounts, hphase⟩ := h
  exact ⟨⟨hcounts.counts, hcounts.held,
    fun child i proc hstarted hwaited => hexited proc (hcounts.ended child i proc hstarted hwaited),
    hcounts.started, hcounts.single⟩, hphase⟩

end Children

open Children

theorem children_supervised : Supervised children RunsChild childMonitor ChildPhase.InTurn
    ChildPhase.Over Children.Agrees Children.Below where
  own hserve h hturn := agrees_own (childTurn_of_serve hserve hturn) h
  other hserve h hturn hne ht := agrees_other (childTurn_of_serve hserve hturn) h hne ht
  drift hdrift h := h.drift hdrift
  fresh := fun {t n w} ht hbelow => by
    cases ht with
    | track greffonId proc => exact ⟨.fresh, track_inTurn greffonId proc, hbelow n le_rfl⟩
    | wait child greffonId proc =>
      exact ⟨.waiting, wait_inTurn child greffonId proc, hbelow n le_rfl⟩
  bounded_serve hserve h hturn hn hbelow m hm :=
    agrees_other (childTurn_of_serve hserve hturn) h (by omega) (hbelow m hm)
  bounded_drift hdrift hbelow m hm := (hbelow m hm).drift hdrift
  bounded_succ hbelow m hm := hbelow m (by omega)

/-! ## In every interleaving -/

/-- The process has started: it counts nothing, and some processes may have exited. -/
def Children.atBoot (exited : Proc → Prop) : Children where
  inflight _ := none
  exited := exited
  live _ := ∅
  waiter _ := none
  waited _ := none

/-- The pools of threads. -/
abbrev ChildPool := Pool (fun _ : ChildThread => Raises ChildCall.Answer ChildError)
  (fun _ => Except ChildError Unit) Children

/-- The events of a run, each with the counters it found. -/
abbrev ChildEvents :=
  List (Children × Event fun _ : ChildThread => Raises ChildCall.Answer ChildError)

variable {exited : Proc → Prop} {es : ChildEvents} {p q : ChildPool}

theorem agrees_along (trace : children.Trace RunsChild ⟨atBoot exited, []⟩ es q) :
    Supervised.Agrees childMonitor ChildPhase.InTurn ChildPhase.Over Children.Agrees Children.Below
      q := by
  have hboot : (atBoot exited).Counts :=
    ⟨fun _ => rfl, nofun, nofun, fun _ h => absurd rfl h,
      fun child i _ hchild => absurd hchild (Finset.notMem_empty child)⟩
  exact children_supervised.along trace
    ⟨fun n _ => ⟨hboot, fun i => Finset.notMem_empty n, rfl, nofun⟩, nofun⟩

theorem counts_along (trace : children.Trace RunsChild ⟨atBoot exited, []⟩ es q) :
    q.world.Counts :=
  ((agrees_along trace).1 q.threads.length le_rfl).1

/-- **A thread that has returned** has left no child: not its own, unless that has a waiter, and not the
one that it has waited for. -/
theorem left_along (trace : children.Trace RunsChild ⟨atBoot exited, []⟩ es q) {n : Nat}
    (hgone : ∀ t, q.threads[n]? = some t → t.Returned) :
    (q.world.waiter n = none → ∀ i, n ∉ q.world.live i) ∧
      ∀ child, q.world.waited child = some n → ∀ i, child ∉ q.world.live i := by
  obtain ⟨hbelow, hthreads⟩ := agrees_along trace
  cases hn : q.threads[n]? with
  | none =>
    obtain ⟨-, hlive, -, hidle⟩ := hbelow n (List.getElem?_eq_none_iff.mp hn)
    exact ⟨fun _ => hlive, fun child hwaited => absurd hwaited (hidle child)⟩
  | some t =>
    obtain ⟨s, hsettles, -, hphase⟩ := hthreads n t hn
    cases hsettles.ended_of_returned (hgone t hn) with
    | fresh => exact ⟨fun _ => hphase.1, fun child hwaited => absurd hwaited (hphase.2.2 child)⟩
    | settled => exact hphase
    | barred => exact hphase.elim

theorem Children.Counts.counter (h : w.Counts) (i : String) : w.counter i = (w.live i).card := by
  unfold Children.counter
  rw [h.counts, entry_getD]

theorem Children.Counts.composeInflight (h : w.Counts) {child : Nat} {i : String}
    (hlive : child ∈ w.live i) : w.composeInflight i = true := by
  have hpos := Finset.card_pos.mpr ⟨child, hlive⟩
  have hcounter := h.counter i
  unfold Children.counter at hcounter
  unfold Children.composeInflight
  rw [decide_eq_true_iff, hcounter]
  omega

/-- **The counter of an instance**, in every state that any interleaving of calls, waiters and exits
reaches: it is the number of the children that are tracked and not yet released, a release hides no
other child, the instance is mid-compose while a child that has a waiter still runs, and each child that
is not yet released has a waiter that waits, or a call or a waiter that has not returned. -/
theorem compose_child_counter (trace : children.Trace RunsChild ⟨atBoot exited, []⟩ es q) :
    (∀ i, q.world.counter i = (q.world.live i).card ∧ 0 ≤ q.world.counter i) ∧
      (∀ n k i r q', children.Step RunsChild q (.called n k (.release i) r) q' →
        ∀ child ∈ q.world.live i, child ≠ k.child n → q'.world.composeInflight i = true) ∧
      (∀ child i proc, q.world.waiter child = some (i, proc) → ¬ q.world.exited proc →
        q.world.composeInflight i = true) ∧
      ∀ i, ∀ child ∈ q.world.live i,
        q.world.waiter child ≠ none ∧ q.world.waited child = none ∨
        ∃ n t, (q.world.waiter child = none ∧ n = child ∨ q.world.waited child = some n) ∧
          q.threads[n]? = some t ∧ ¬ t.Returned := by
  have hcounts := counts_along trace
  refine ⟨fun i => ?_, fun n k i r q' hstep child hlive hne => ?_,
    fun child i proc hstarted hruns => ?_, fun i child hlive => ?_⟩
  · rw [hcounts.counter]
    exact ⟨rfl, Int.natCast_nonneg _⟩
  · have hcounts' := counts_along (trace.append (.cons hstep (.nil _)))
    cases hstep with
    | call runs served =>
      obtain ⟨-, rfl⟩ := served
      exact hcounts'.composeInflight (mem_live_release.mpr ⟨hlive, fun heq => hne heq.1⟩)
  · have hfirst : q.world.waited child = none := by
      by_contra hwaited
      exact hruns (hcounts.ended child i proc hstarted hwaited)
    exact hcounts.composeInflight (hcounts.held child i proc hstarted hfirst)
  · cases hwaited : q.world.waited child with
    | some n =>
      by_contra hnone
      refine (left_along trace (n := n) fun t ht => ?_).2 child hwaited i hlive
      by_contra hreturned
      exact hnone (.inr ⟨n, t, .inr rfl, ht, hreturned⟩)
    | none =>
      by_cases hwaiter : q.world.waiter child = none
      · by_contra hnone
        refine (left_along trace (n := child) fun t ht => ?_).1 hwaiter i hlive
        by_contra hreturned
        exact hnone (.inr ⟨child, t, .inl ⟨hwaiter, rfl⟩, ht, hreturned⟩)
      · exact .inl ⟨hwaiter, rfl⟩

/-- Two children of one instance; the first one exits and is released. -/
theorem sibling_still_counted : ∃ es q,
    children.Trace RunsChild ⟨atBoot (· = ⟨7⟩), []⟩ es q ∧
      q.world.waiter 1 = some ("web", ⟨8⟩) ∧ q.world.waited 0 = some 2 ∧
      q.world.composeInflight "web" = true := by
  have hcount : ∀ n w, children.serve n .tracker w (.count "web") (.ok ()) (w.count n "web") :=
    fun _ _ => ⟨rfl, rfl⟩
  have hstart : ∀ n w proc, children.serve n .tracker w (.startWaiter "web" proc) (.ok ())
      (w.startWaiter n "web" proc) := fun _ _ _ => .inl ⟨rfl, rfl⟩
  have hwait : ∀ n w, w.waiter 0 = some ("web", ⟨7⟩) → w.waited 0 = none → w.exited ⟨7⟩ →
      children.serve n (.waiter 0 "web") w (.wait ⟨7⟩) (.ok ()) (w.endWait n 0) :=
    fun _ _ hstarted hfirst hended => ⟨0, "web", rfl, hstarted, hfirst, hended, rfl⟩
  have hrelease : ∀ n w, children.serve n (.waiter 0 "web") w (.release "web") (.ok ())
      (w.release 0 "web") := fun _ _ => ⟨rfl, rfl⟩
  have trace := Shared.Trace.cons (S := children) (p := ⟨atBoot (· = ⟨7⟩), []⟩)
    (.start (RunsChild.track "web" (some ⟨7⟩))) <|
    .cons (.call rfl (hcount 0 _)) <| .cons (.call rfl (hstart 0 _ ⟨7⟩)) <|
    .cons (.start (RunsChild.track "web" (some ⟨8⟩))) <|
    .cons (.call rfl (hcount 1 _)) <| .cons (.call rfl (hstart 1 _ ⟨8⟩)) <|
    .cons (.start (RunsChild.wait 0 "web" ⟨7⟩)) <|
    .cons (.call rfl (hwait 2 _ rfl rfl rfl)) <| .cons (.call rfl (hrelease 2 _)) (.nil _)
  exact ⟨_, _, trace, rfl, rfl,
    (compose_child_counter trace).2.2.1 1 "web" ⟨8⟩ rfl (by rintro ⟨⟩)⟩

end Greffer.Instance

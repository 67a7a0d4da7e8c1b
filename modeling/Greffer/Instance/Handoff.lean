import Mathlib.Tactic.NormNum
import Greffer.Backup.RestorePointer
import Greffer.CertRenewal.MintDebt
import Greffer.Instance.Discipline

/-! # The hand-off window

A restore that succeeded on the data path reserves the hand-off, for the start the
manager chains off its callback, and only then releases the instance's lock.  Until the
deadline no renewal is to take the lock before a control operation has; and a lost
callback is to delay renewal by one window and no more.

Between the two events of the law the pool is `Guarded`: either the deadline has passed,
or a reservation up to it stands **and no control operation holds the lock**.  At the
reservation the restore itself holds the lock, so any operation that could clear the
reservation has yet to acquire it; and a renewal that finds the reservation expired
finds the deadline passed.
-/
namespace Greffer.Instance
open Effects

variable {H : Type} {HAns : H → Type}

/-- The pool of the locks. -/
abbrev LockPool (HAns : H → Type) : Type := Pool (Party.Reply HAns) Party.Result Locks

/-- What happened at a step, with the table before it. -/
abbrev Entry (HAns : H → Type) : Type := Locks × Event (Party.Reply HAns)

/-- A process that has just started: no thread, no lock held. -/
def Fresh (p : LockPool HAns) : Prop := p.threads = [] ∧ ∀ i, p.world.holder i = none

/-- Every thread keeps to the locks, and agrees with the table. -/
abbrev Sound (p : LockPool HAns) : Prop :=
  Monitored.Agrees (phases HAns) Keeping Agree HeldBelow p

theorem Fresh.sound {p : LockPool HAns} (h : Fresh p) : Sound p := by
  refine ⟨fun i m hm => ?_, fun n t ht => ?_⟩
  · rw [h.2 i] at hm
    cases hm
  · rw [h.1] at ht
    cases ht

/-- The instance's lock is held by a control operation. -/
def HeldByControl (i : String) (p : LockPool HAns) : Prop :=
  ∃ n rest, p.world.holder i = some n ∧ p.threads[n]? = some ⟨.control, rest⟩

/-- **The window stands until `deadline`**. -/
def Guarded (deadline : Rat) (i : String) (p : LockPool HAns) : Prop :=
  deadline ≤ p.world.now ∨
    (∃ d, p.world.handoff i = some d ∧ deadline ≤ d) ∧ ¬ HeldByControl i p

/-- A restore reserves the hand-off. -/
def Reserves (i : String) (e : Event (Party.Reply HAns)) : Prop :=
  ∃ n r, e = .called n .job (.reserveHandoff i) r

/-- The instance's lock is asked for. -/
inductive Asks (i : String) : Event (Party.Reply HAns) → Prop
  | job (n : Nat) (r : Party.Reply HAns .job (.acquireLock i)) :
    Asks i (.called n .job (.acquireLock i) r)
  | renewal (n : Nat) (r : Party.Reply HAns .renewal (.acquireUnlessHandoff i)) :
    Asks i (.called n .renewal (.acquireUnlessHandoff i) r)
  | control (n : Nat) (r : Party.Reply HAns .control (.acquire i)) :
    Asks i (.called n .control (.acquire i) r)

/-- A thread of the kind acquires the instance's lock. -/
def Takes (k : Party) (i : String) (e : Event (Party.Reply HAns)) : Prop :=
  match k with
  | .job => ∃ n, e = .called n .job (.acquireLock i) (.ok true)
  | .renewal => ∃ n, e = .called n .renewal (.acquireUnlessHandoff i) (.ok none)
  | .control => ∃ n, e = .called n .control (.acquire i) (.ok true)

/-! ## One step -/

section Step
variable {p p' : LockPool HAns} {e : Event (Party.Reply HAns)} {i : String} {deadline : Rat}

theorem now_serve {n : Nat} {k : Party} {w w' : Locks} {c : k.Call H} {r : Party.Reply HAns k c}
    (hs : (shared HAns).serve n k w c r w') : w'.now = w.now := by
  have hacquire (i : String) : (w.acquire n i).2.now = w.now := by
    rcases w.acquire_cases n i with ⟨-, h⟩ | ⟨-, h⟩ <;> simp only [h, Locks.take]
  cases k with
  | job =>
    cases c <;> try first | exact congrArg Locks.now hs | exact (congrArg Locks.now hs.2 :)
    case acquireLock i => exact (congrArg Locks.now (Prod.mk.inj hs).2).trans (hacquire i)
  | renewal =>
    cases c <;> try first | exact congrArg Locks.now hs | exact (congrArg Locks.now hs.2 :)
    case acquireUnlessHandoff i =>
      refine (congrArg Locks.now (Prod.mk.inj hs).2).trans ?_
      rcases w.acquireUnlessHandoff_cases n i with ⟨-, h⟩ | ⟨w₁, hl, ⟨-, h⟩ | ⟨-, h⟩⟩
      · rw [h]
      · rw [h]
        exact hl.now
      · rw [h]
        exact hl.now
  | control =>
    cases c with
    | handler h => exact congrArg Locks.now hs
    | clearHandoff i => exact (congrArg Locks.now hs.2 :)
    | release i => exact (congrArg Locks.now hs.2 :)
    | acquire i => exact (congrArg Locks.now (Prod.mk.inj hs).2).trans (hacquire i)

theorem now_step (h : (shared HAns).Step Starts p e p') : p.world.now ≤ p'.world.now := by
  cases h with
  | call _ served => exact (now_serve served).ge
  | start _ => exact le_refl _
  | drift hdrift =>
    obtain ⟨now, hle, rfl⟩ := hdrift
    exact hle

/-- **What a call does to a reservation**, by a thread that keeps to the locks: nothing,
or it sets a full window, or it drops it past its deadline, or the thread is a control
operation that holds the lock. -/
theorem handoff_serve {n : Nat} {k : Party} {s : Phase} {w w' : Locks} {c : k.Call H}
    {r : Party.Reply HAns k c} (hs : (shared HAns).serve n k w c r w') (hagree : Agree n s w)
    (hok : Keeping ((phases HAns).after k s c r)) (i : String) :
    w'.handoff i = w.handoff i ∨ w'.handoff i = some (w.now + handoffWindowSeconds) ∨
      (∃ d, w.handoff i = some d ∧ d ≤ w.now) ∨ (k = .control ∧ w.holder i = some n) := by
  have hacquire (j : String) : (w.acquire n j).2.handoff = w.handoff := by
    rcases w.acquire_cases n j with ⟨-, h⟩ | ⟨-, h⟩ <;> simp only [h, Locks.take]
  have hsame (h : w'.handoff = w.handoff) : w'.handoff i = w.handoff i := congrFun h i
  -- Only a reservation, a deadline that is past and a control operation move the hand-off.
  cases k with
  | job =>
    cases c <;> try first
      | exact .inl (hsame (congrArg Locks.handoff hs))
      | exact .inl (hsame (congrArg Locks.handoff hs.2 :))
    case acquireLock j =>
      exact .inl (hsame ((congrArg Locks.handoff (Prod.mk.inj hs).2).trans (hacquire j)))
    case reserveHandoff j =>
      obtain ⟨-, rfl⟩ := (show r = .ok () ∧ w' = w.reserve j from hs)
      by_cases hj : i = j
      · subst hj
        exact .inr (.inl (Function.update_self i _ _))
      · exact .inl (Function.update_of_ne hj _ _)
  | renewal =>
    cases c <;> try first
      | exact .inl (hsame (congrArg Locks.handoff hs))
      | exact .inl (hsame (congrArg Locks.handoff hs.2 :))
    case acquireUnlessHandoff j =>
      have hw' : w' = (w.acquireUnlessHandoff n j).2 := (Prod.mk.inj hs).2
      have hlapsed {w₁ : Locks} (hl : w.Lapsed j w₁) :
          w₁.handoff i = w.handoff i ∨ ∃ d, w.handoff i = some d ∧ d ≤ w.now := by
        rcases hl with ⟨-, rfl⟩ | ⟨d, hd, hpast, rfl⟩
        · exact .inl rfl
        · by_cases hj : i = j
          · subst hj
            exact .inr ⟨d, hd, hpast⟩
          · exact .inl (Function.update_of_ne hj _ _)
      rcases w.acquireUnlessHandoff_cases n j with ⟨-, h⟩ | ⟨w₁, hl, ⟨-, h⟩ | ⟨-, h⟩⟩
      · exact .inl (by rw [hw', h])
      all_goals
        rw [hw', h]
        exact (hlapsed hl).imp_right fun hd => .inr (.inl hd)
  | control =>
    cases c with
    | handler h => exact .inl (hsame (congrArg Locks.handoff hs))
    | release j => exact .inl (hsame (congrArg Locks.handoff hs.2 :))
    | acquire j =>
      exact .inl (hsame ((congrArg Locks.handoff (Prod.mk.inj hs).2).trans (hacquire j)))
    | clearHandoff j =>
      obtain ⟨-, rfl⟩ := (show r = .ok () ∧ w' = w.clear j from hs)
      by_cases hj : i = j
      · subst hj
        refine .inr (.inr (.inr ⟨rfl, (hagree i).mpr ?_⟩))
        by_contra hs
        exact hok (if_neg hs)
      · exact .inl (Function.update_of_ne hj _ _)

/-- A control operation that newly holds the lock has acquired it. -/
theorem takes_serve {n : Nat} {w w' : Locks} {c : ControlCall H} {r : Party.Reply HAns .control c}
    (hs : (shared HAns).serve n .control w c r w') (hbefore : w.holder i ≠ some n)
    (hafter : w'.holder i = some n) : Takes .control i (.called n .control c r) := by
  cases c with
  | handler h =>
    obtain rfl : w' = w := hs
    exact absurd hafter hbefore
  | clearHandoff j =>
    obtain ⟨-, rfl⟩ := (show r = .ok () ∧ w' = w.clear j from hs)
    exact absurd hafter hbefore
  | release j =>
    obtain ⟨-, rfl⟩ := (show r = .ok () ∧ w' = w.release j from hs)
    by_cases hj : i = j
    · subst hj
      simp [Locks.release] at hafter
    · exact absurd ((Function.update_of_ne hj _ _).symm.trans hafter) hbefore
  | acquire j =>
    obtain ⟨rfl, rfl⟩ := Prod.mk.inj
      (show (r, w') = (.ok (w.acquire n j).1, (w.acquire n j).2) from hs)
    rcases w.acquire_cases n j with ⟨-, h⟩ | ⟨-, h⟩
    · by_cases hj : i = j
      · subst hj
        rw [h]
        exact ⟨n, rfl⟩
      · rw [h] at hafter
        exact absurd ((Function.update_of_ne hj _ _).symm.trans hafter) hbefore
    · rw [h] at hafter
      exact absurd hafter hbefore

/-- **The window stands over a step** in which no control operation takes the lock. -/
theorem guarded_step (hsound : Sound p) (hstep : (shared HAns).Step Starts p e p')
    (hwindow : deadline ≤ p.world.now + handoffWindowSeconds) (h : Guarded deadline i p) :
    Takes .control i e ∨ Guarded deadline i p' := by
  rcases h with hpast | ⟨⟨d, hd, hle⟩, hheld⟩
  · exact .inr (.inl (hpast.trans (now_step hstep)))
  cases hstep with
  | start ht =>
    refine .inr (.inr ⟨⟨d, hd, hle⟩, ?_⟩)
    rintro ⟨n, rest, hn, hrest⟩
    have hlt := hsound.1 i n hn
    rw [List.getElem?_append_left hlt] at hrest
    exact hheld ⟨n, rest, hn, hrest⟩
  | drift hdrift =>
    obtain ⟨now, -, rfl⟩ := hdrift
    exact .inr (.inr ⟨⟨d, hd, hle⟩, hheld⟩)
  | @call w w' ts n k c r next runs served =>
    obtain ⟨s, hobeys, hagree⟩ := hsound.2 n _ runs
    obtain ⟨hok, -⟩ := hobeys.next r
    have hn : n < ts.length := (List.getElem?_eq_some_iff.mp runs).1
    have hmoves := moves_of_serve served hagree hok
    -- the lock can only come to a control operation through this thread
    have hholder : Takes .control i (.called n k c r) ∨ ¬ HeldByControl i
        (⟨w', ts.set n ⟨k, next r⟩⟩ : LockPool HAns) := by
      by_cases hcontrol : HeldByControl i (⟨w', ts.set n ⟨k, next r⟩⟩ : LockPool HAns)
      · obtain ⟨m, rest, hm, hrest⟩ := hcontrol
        dsimp only at hm hrest
        by_cases hmn : m = n
        · subst hmn
          rw [List.getElem?_set_self hn] at hrest
          cases hrest
          refine .inl (takes_serve served (fun hbefore => ?_) hm)
          exact hheld ⟨m, _, hbefore, runs⟩
        · rw [List.getElem?_set_ne (Ne.symm hmn)] at hrest
          exact absurd ⟨m, rest, (hmoves.others hmn i).mp hm, hrest⟩ hheld
      · exact .inr hcontrol
    rcases hholder with htakes | hfree
    · exact .inl htakes
    refine .inr ?_
    rcases handoff_serve served hagree hok i with h | h | ⟨d', hd', hpast⟩ | ⟨rfl, hholds⟩
    · exact .inr ⟨⟨d, h.trans hd, hle⟩, hfree⟩
    · exact .inr ⟨⟨_, h, hwindow⟩, hfree⟩
    · left
      cases hd.symm.trans hd'
      exact (hle.trans hpast).trans (now_serve served).ge
    · exact absurd ⟨n, _, hholds, runs⟩ hheld

/-- **A reservation opens the window**: the restore still holds the lock. -/
theorem guarded_reserve (hsound : Sound p) (hstep : (shared HAns).Step Starts p e p')
    (he : Reserves i e) : Guarded (p.world.now + handoffWindowSeconds) i p' := by
  obtain ⟨n, r, rfl⟩ := he
  cases hstep with
  | @call w w' ts _ _ _ _ next runs served =>
    obtain ⟨s, hobeys, hagree⟩ := hsound.2 n _ runs
    obtain ⟨hok, -⟩ := hobeys.next r
    obtain ⟨-, rfl⟩ := (show r = .ok () ∧ w' = w.reserve i from served)
    have hholds : w.holder i = some n := by
      refine (hagree i).mpr ?_
      by_contra hs
      exact hok (if_neg hs)
    refine .inr ⟨⟨_, Function.update_self i _ _, le_refl _⟩, ?_⟩
    rintro ⟨m, rest, hm, hrest⟩
    obtain rfl : n = m := Option.some.inj (hholds.symm.trans hm)
    dsimp only at hrest
    rw [List.getElem?_set_self (List.getElem?_eq_some_iff.mp runs).1] at hrest
    cases hrest

/-- **A renewal that acquires the lock finds the window closed.** -/
theorem guarded_renewal (hstep : (shared HAns).Step Starts p e p') (h : Guarded deadline i p)
    (he : Takes .renewal i e) : deadline ≤ p.world.now := by
  obtain ⟨n, rfl⟩ := he
  rcases h with hpast | ⟨⟨d, hd, hle⟩, -⟩
  · exact hpast
  cases hstep with
  | @call w w' ts _ _ _ _ next runs served =>
    have hgranted : (w.acquireUnlessHandoff n i).1 = none :=
      (Except.ok.inj (Prod.mk.inj served).1).symm
    rcases w.acquireUnlessHandoff_cases n i with ⟨-, h⟩ | ⟨w₁, hl, -⟩
    · rw [h] at hgranted
      cases hgranted
    · rcases hl with ⟨hnone, -⟩ | ⟨d', hd', hpast, -⟩
      · cases hd.symm.trans hnone
      · cases hd.symm.trans hd'
        exact hle.trans hpast

/-- **An acquire of a free lock is granted**, once the reservation is past its deadline. -/
theorem granted_step (hstep : (shared HAns).Step Starts p e p') (he : Asks i e)
    (hfree : p.world.holder i = none) (hpast : ∀ d, p.world.handoff i = some d → d ≤ p.world.now) :
    ∃ k, Takes k i e := by
  have hacquire (n : Nat) : (p.world.acquire n i).1 = true := by
    rcases p.world.acquire_cases n i with ⟨-, h⟩ | ⟨hheld, -⟩
    · rw [h]
    · exact absurd hfree hheld
  cases hstep with
  | start _ => cases he
  | drift _ => cases he
  | @call w w' ts n k c r next runs served =>
    cases he with
    | job n r =>
      refine ⟨.job, n, ?_⟩
      rw [show r = .ok (w.acquire n i).1 from (Prod.mk.inj served).1, hacquire n]
    | control n r =>
      refine ⟨.control, n, ?_⟩
      rw [show r = .ok (w.acquire n i).1 from (Prod.mk.inj served).1, hacquire n]
    | renewal n r =>
      refine ⟨.renewal, n, ?_⟩
      rw [show r = .ok (w.acquireUnlessHandoff n i).1 from (Prod.mk.inj served).1]
      rcases w.acquireUnlessHandoff_cases n i with
        ⟨⟨d, hd, hlt⟩, -⟩ | ⟨w₁, -, ⟨-, h⟩ | ⟨hheld, -⟩⟩
      · exact absurd hlt (not_lt.mpr (hpast d hd))
      · rw [h]
      · exact absurd hfree hheld

end Step

/-! ## Runs -/

/-- **The window stands** until a control operation takes the lock. -/
theorem guarded_along {p q : LockPool HAns} {es : List (Entry HAns)} {deadline : Rat} {i : String}
    (trace : (shared HAns).Trace Starts p es q) (hsound : Sound p)
    (hwindow : deadline ≤ p.world.now + handoffWindowSeconds) (h : Guarded deadline i p) :
    (∃ e ∈ es, Takes .control i e.2) ∨ Guarded deadline i q := by
  induction trace with
  | nil => exact .inr h
  | cons step rest ih =>
    rcases guarded_step hsound step hwindow h with htakes | hguarded
    · exact .inl ⟨_, List.mem_cons_self, htakes⟩
    · have hlater := hwindow.trans (add_le_add_left (now_step step) handoffWindowSeconds)
      refine (ih (monitored.step hsound step) hlater hguarded).imp_left ?_
      rintro ⟨e, he, htakes⟩
      exact ⟨e, List.mem_cons_of_mem _ he, htakes⟩

/-- **The hand-off window.**  In every interleaving of jobs, renewals, control operations
and the clock: a renewal that acquires the lock after a reservation at `t` does so at
`t + 90s` or later, or a control operation has acquired it in between; and an acquire of
a free lock is granted whenever the instance's reservation is past its deadline. -/
theorem handoff_window {p q : LockPool HAns} {es : List (Entry HAns)} (hfresh : Fresh p)
    (trace : (shared HAns).Trace Starts p es q) (i : String) :
    (∀ before between after reserve renew,
      es = before ++ reserve :: (between ++ renew :: after) →
      Reserves i reserve.2 → Takes .renewal i renew.2 →
      reserve.1.now + handoffWindowSeconds ≤ renew.1.now ∨
        ∃ e ∈ between, Takes .control i e.2) ∧
    ∀ e ∈ es, Asks i e.2 → e.1.holder i = none →
      (∀ d, e.1.handoff i = some d → d ≤ e.1.now) → ∃ k, Takes k i e.2 := by
  constructor
  · rintro before between after ⟨w, e⟩ ⟨w', e'⟩ rfl hreserve htakes
    obtain ⟨p₁, hbefore, hrest⟩ := trace.of_append
    obtain ⟨rfl, p₂, hstep, hrest⟩ := hrest.of_cons
    obtain ⟨p₃, hbetween, hrest⟩ := hrest.of_append
    obtain ⟨rfl, p₄, hstep', -⟩ := hrest.of_cons
    have hsound := monitored.along hbefore hfresh.sound
    have hwindow := add_le_add_left (now_step hstep) handoffWindowSeconds
    rcases guarded_along hbetween (monitored.step hsound hstep) hwindow
      (guarded_reserve hsound hstep hreserve) with hcontrol | hguarded
    · exact .inr hcontrol
    · exact .inl (guarded_renewal hstep' hguarded htakes)
  · rintro ⟨w, e⟩ he hasks hfree hpast
    obtain ⟨before, after, rfl⟩ := List.append_of_mem he
    obtain ⟨p₁, -, hrest⟩ := trace.of_append
    obtain ⟨rfl, p₂, hstep, -⟩ := hrest.of_cons
    exact granted_step hstep hasks hfree hpast

/-! ### A callback that is lost -/

/-- A day on which the calls of a job succeed. -/
def calmJob (n : Nat) (w : Locks) :
    (c : Backup.BackupCall) → Raises Backup.Answer Backup.JobError c × Locks
  | .acquireLock i => (.ok (w.acquire n i).1, (w.acquire n i).2)
  | .releaseLock => (.ok (), w.releaseOnce n)
  | .reserveHandoff i => (.ok (), w.reserve i)
  | c => ((Backup.smooth (Backup.stateFileOf "a" "r") false { file := .absent } c).1, w)

theorem calmJob_serves (n : Nat) (w : Locks) (c : Backup.BackupCall) :
    (shared HAns).serve n .job w c (calmJob n w c).1 (calmJob n w c).2 := by
  cases c with
  | acquireLock i => exact rfl
  | releaseLock => exact ⟨rfl, rfl⟩
  | reserveHandoff i => exact ⟨rfl, rfl⟩
  | _ => rfl

/-- A renewal whose probe fails. -/
def calmRenewal (n : Nat) (w : Locks) :
    (c : CertRenewal.RenewalCall) → Raises CertRenewal.Answer CertRenewal.RenewalError c × Locks
  | .acquireUnlessHandoff i =>
    (.ok (w.acquireUnlessHandoff n i).1, (w.acquireUnlessHandoff n i).2)
  | .releaseLock i => (.ok (), w.release i)
  | c => ((CertRenewal.frailManager true CertRenewal.freshNode c).1, w)

theorem calmRenewal_serves (n : Nat) (w : Locks) (c : CertRenewal.RenewalCall) :
    (shared HAns).serve n .renewal w c (calmRenewal n w c).1 (calmRenewal n w c).2 := by
  cases c with
  | acquireUnlessHandoff i => exact rfl
  | releaseLock i => exact ⟨rfl, rfl⟩
  | _ => rfl

section LostCallback

/-- No control operation has a handler here. -/
abbrev NoHandler : Empty → Type := fun e => by cases e

/-- An accepted restore of the instance `a`, with its request. -/
def restoreOfA : Prog (Party.Reply NoHandler .job) (Party.Result .job) :=
  let j : Backup.AcceptedJob := .restore Backup.withRepository "a" "snap" "r" none none none
  (do Backup.spawn j.instanceId; j.thread : Backup.Job Unit)

/-- A pass over the node. -/
def passOverA : Prog (Party.Reply NoHandler .renewal) (Party.Result .renewal) :=
  (CertRenewal.renewAll {} none false).run {}

/-- Before anything starts. -/
def untouched : Locks where
  now := 0
  holder _ := none
  handoff _ := none

/-- When the restore has ended, -/
def afterRestore : Locks := (restoreOfA.evalFor (calmJob 0) 30 untouched).1

/-- and one window later. -/
def oneWindowLater : Locks := { afterRestore with now := 90 }

/-- A restore whose callback leads to nothing, -/
def restoreEvents : List (Entry NoHandler) := eventsFor (calmJob 0) 0 30 restoreOfA untouched

/-- the window, and a renewal. -/
def renewalEvents : List (Entry NoHandler) :=
  eventsFor (calmRenewal 1) 1 30 passOverA oneWindowLater

def lostCallback : List (Entry NoHandler) :=
  (untouched, .started 0) :: (restoreEvents ++
    (afterRestore, .drifted) :: (oneWindowLater, .started 1) :: renewalEvents)

theorem lostCallback_trace :
    ∃ q, (shared NoHandler).Trace Starts ⟨untouched, []⟩ lostCallback q := by
  have hrestore : (shared NoHandler).Trace Starts ⟨untouched, [⟨.job, restoreOfA⟩]⟩ restoreEvents
      ⟨afterRestore, [⟨.job, (restoreOfA.evalFor (calmJob 0) 30 untouched).2⟩]⟩ :=
    Shared.Trace.alone (calmJob_serves 0) 30 restoreOfA untouched _ rfl
  have hpass : (shared NoHandler).Trace Starts ⟨oneWindowLater,
      [⟨.job, (restoreOfA.evalFor (calmJob 0) 30 untouched).2⟩, ⟨.renewal, passOverA⟩]⟩
      renewalEvents _ :=
    Shared.Trace.alone (calmRenewal_serves 1) 30 passOverA oneWindowLater _ rfl
  have hdrift : (shared NoHandler).drift afterRestore oneWindowLater := by
    have hnow : afterRestore.now = 0 := by rfl
    refine ⟨90, ?_, rfl⟩
    rw [hnow]
    norm_num
  exact ⟨_, .cons (.start (.job (.restore Backup.withRepository "a" "snap" "r" none none none)))
    (hrestore.append (.cons (.drift hdrift) (.cons (.start (.renewal {} none false {})) hpass)))⟩

theorem oneWindowLater_granted : (oneWindowLater.acquireUnlessHandoff 1 "a").1 = none := by
  have hhandoff : oneWindowLater.handoff "a" = some (0 + handoffWindowSeconds) := by rfl
  have hholder : oneWindowLater.holder "a" = none := by rfl
  rcases oneWindowLater.acquireUnlessHandoff_cases 1 "a" with
    ⟨⟨d, hd, hlt⟩, -⟩ | ⟨w, -, ⟨-, h⟩ | ⟨hheld, -⟩⟩
  · cases hhandoff.symm.trans hd
    exact absurd (show (90 : Rat) < 0 + 90 from hlt) (by norm_num)
  · rw [h]
  · exact absurd hholder hheld

theorem handoff_window_lost_callback :
    (∃ e ∈ lostCallback, Reserves "a" e.2) ∧ (∃ e ∈ lostCallback, Takes .renewal "a" e.2) ∧
    (∀ before between after reserve renew,
      lostCallback = before ++ reserve :: (between ++ renew :: after) →
      Reserves "a" reserve.2 → Takes .renewal "a" renew.2 →
      reserve.1.now + handoffWindowSeconds ≤ renew.1.now ∨
        ∃ e ∈ between, Takes .control "a" e.2) ∧
    ∀ e ∈ lostCallback, Asks "a" e.2 → e.1.holder "a" = none →
      (∀ d, e.1.handoff "a" = some d → d ≤ e.1.now) → ∃ k, Takes k "a" e.2 := by
  obtain ⟨q, htrace⟩ := lostCallback_trace
  refine ⟨?_, ?_, handoff_window ⟨rfl, fun _ => rfl⟩ htrace "a"⟩
  · exact ⟨_, List.mem_of_getElem? (i := 18) rfl, 0, .ok (), rfl⟩
  · exact ⟨_, List.mem_of_getElem? (i := 32) rfl, 1,
      congrArg (Event.called 1 Party.renewal _) (congrArg Except.ok oneWindowLater_granted)⟩

end LostCallback

end Greffer.Instance

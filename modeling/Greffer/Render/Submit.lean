import Mathlib.Data.List.Basic
import Greffer.Effects.Routine
import Greffer.Render.Budget

/-! # Submitting a render

All renders of the process share one pool of one worker.  A render that times out, or whose child
dies, drops the pool, and with it the renders that wait behind it; those try again with the next
pool, **three times at most**.

The world of this module is the pool and what was submitted to it.  Between two calls of a render
the others do what they like: they get a pool for another memory cap, submit renders of their own,
and drop the pool that failed them.  `submit_settles_iff` says that a render ends with its own
child's value, or raises, unless its pool is taken away in all three attempts.
-/
namespace Greffer.Render
open Effects

/-! ## The code -/

/-- The calls of one render. -/
inductive PoolCall (Job : Type) where
  /-- `_get_pool`. -/
  | getPool (mem : Nat)
  /-- Under the lock: `_check_pool_current`, and the submission. -/
  | submit (pool : Nat) (job : Job)
  /-- `future.result(timeout=…)`. -/
  | result (future : Nat) (timeout : Rat)
  /-- `_pool is pool`. -/
  | isCurrent (pool : Nat)
  /-- Under the lock: `_drop_pool_locked`, if the pool is still the current one. -/
  | dropPool (pool : Nat)

/-- What each call answers when it raises nothing. -/
@[reducible] def PoolCall.Answer {J : Type} (V : Type) : PoolCall J → Type
  | .getPool _ | .submit _ _ => Nat
  | .result _ _ => V
  | .isCurrent _ => Bool
  | .dropPool _ => Unit

variable {Job V : Type}

/-- Code that shares the pool. -/
abbrev Rendering (Job V : Type) := Action (PoolCall.Answer (J := Job) V) RenderError

/-- Make one call. -/
abbrev ask (c : PoolCall Job) : Rendering Job V (PoolCall.Answer V c) := Action.perform c

/-- `_drop_pool_and_raise`. -/
def dropPoolAndRaise {α : Type} (pool : Nat) (code : String) (cap : Rat) : Rendering Job V α := do
  ask (.dropPool pool)
  Action.raise (.exceeded code cap)

/-- The `try` of one attempt. -/
def attempt (pool : Nat) (job : Job) (timeout : Rat) : Rendering Job V V := do
  let future ← ask (.submit pool job)
  ask (.result future timeout)

/-- The attempts that are left.  When there are none, the function ends without a `return`. -/
def attempts (job : Job) (mem : Nat) (timeout : Rat) : Nat → Rendering Job V (Option V)
  | 0 => return none
  | n + 1 => do
    let pool ← ask (.getPool mem)
    match ← (attempt pool job timeout).outcome with
    | .ok v => return some v
    | .error (.exceeded code cap) => Action.raise (.exceeded code cap)
    | .error (.raised e) =>
      match e.kind with
      | .brokenProcessPool => dropPoolAndRaise pool "child_died" mem
      | .cancelled =>
        if ← ask (.isCurrent pool) then Action.raise (.exceeded "cancelled" 0)
        else attempts job mem timeout n
      | .runtime =>
        if ← ask (.isCurrent pool) then Action.raise (.raised e)
        else attempts job mem timeout n
      | .timeout => dropPoolAndRaise pool "timeout" timeout
      | .memory => dropPoolAndRaise pool "memory_exceeded" mem
      | .other => Action.raise (.raised e)

/-- `_submit_budgeted`. -/
def submitBudgeted (job : Job) (mem : Nat) (timeout : Rat) : Rendering Job V (Option V) :=
  attempts job mem timeout 3

/-! ## The pool -/

/-- The pool, and what was submitted. -/
structure Pools (Job : Type) where
  /-- `_pool`. -/
  pool : Option Nat := none
  /-- `_pool_mem`, where there is a pool. -/
  poolMem : Option Nat := none
  /-- How many pools there were. -/
  created : Nat := 0
  /-- The futures, in the order of their submission: the pool, and the job. -/
  submitted : List (Nat × Job) := []
  /-- How often this render was told that its pool is not the current one. -/
  missed : Nat := 0

namespace Pools

/-- `_drop_pool_locked`. -/
def dropPoolLocked (w : Pools Job) : Pools Job := { w with pool := none, poolMem := none }

/-- A new pool. -/
def create (w : Pools Job) (mem : Nat) : Nat × Pools Job :=
  (w.created, { w with pool := some w.created, poolMem := some mem, created := w.created + 1 })

/-- `_get_pool`. -/
def getPool (w : Pools Job) (mem : Nat) : Nat × Pools Job :=
  match w.pool with
  | some p => if w.poolMem = some mem then (p, w) else w.dropPoolLocked.create mem
  | none => w.create mem

/-- `_drop_pool_locked`, of this pool. -/
def dropPool (w : Pools Job) (p : Nat) : Pools Job :=
  if w.pool = some p then w.dropPoolLocked else w

/-- A submission. -/
def enqueue (w : Pools Job) (p : Nat) (job : Job) : Pools Job :=
  { w with submitted := w.submitted ++ [(p, job)] }

/-- What the others do. -/
inductive Beside : Pools Job → Pools Job → Prop where
  | gets {w : Pools Job} (mem : Nat) : Beside w (w.getPool mem).2
  | submits {w : Pools Job} (p : Nat) (job : Job) (current : w.pool = some p) :
      Beside w (w.enqueue p job)
  | drops {w : Pools Job} (p : Nat) : Beside w (w.dropPool p)
  /-- `shutdown_render_pool`. -/
  | shutsDown {w : Pools Job} : Beside w w.dropPoolLocked

/-- What goes on between two calls. -/
abbrev Meanwhile : Pools Job → Pools Job → Prop := Relation.ReflTransGen Beside

/-- The exception of `_check_pool_current`. -/
def recycled : RenderError := .raised ⟨.runtime, "RuntimeError", "pool recycled"⟩

/-- What a call of the render does.  `compute` is what the child makes of a job. -/
def Effect (compute : Job → Except RenderError V) (w : Pools Job) (c : PoolCall Job)
    (r : Raises (PoolCall.Answer V) RenderError c) (w' : Pools Job) : Prop :=
  match c, r with
  | .getPool mem, .ok p => (p, w') = w.getPool mem
  | .getPool _, .error _ => w' = w
  | .submit p job, .ok future =>
    w.pool = some p ∧ future = w.submitted.length ∧ w' = w.enqueue p job
  | .submit p _, .error e => (w.pool ≠ some p → e = recycled) ∧ w' = w
  -- a value is the child's, and anything may go wrong instead
  | .result future _, .ok v =>
    (∃ p job, w.submitted[future]? = some (p, job) ∧ compute job = .ok v) ∧ w' = w
  | .result _ _, .error _ => w' = w
  | .isCurrent p, .ok current =>
    current = decide (w.pool = some p) ∧
      w' = { w with missed := w.missed + if current then 0 else 1 }
  | .isCurrent _, .error _ => False
  | .dropPool p, .ok _ => w' = w.dropPool p
  | .dropPool _, .error _ => False

/-- The others go on, and then the call is served. -/
def machine (compute : Job → Except RenderError V) :
    Machine (Raises (PoolCall.Answer (J := Job) V) RenderError) (Pools Job) where
  serve w c r w' := ∃ m, Meanwhile w m ∧ Effect compute m c r w'

/-! ## What the others leave alone -/

/-- Futures are only added, and this render is told nothing. -/
structure Grows (w w' : Pools Job) : Prop where
  submitted : w.submitted <+: w'.submitted
  missed : w'.missed = w.missed

theorem Grows.refl (w : Pools Job) : Grows w w := ⟨List.prefix_refl _, rfl⟩

theorem Grows.trans {w w' w'' : Pools Job} (h : Grows w w') (h' : Grows w' w'') : Grows w w'' :=
  ⟨h.submitted.trans h'.submitted, h'.missed.trans h.missed⟩

theorem Grows.getPool (w : Pools Job) (mem : Nat) : Grows w (w.getPool mem).2 := by
  unfold Pools.getPool
  split
  · split
    · exact .refl w
    · exact ⟨List.prefix_refl _, rfl⟩
  · exact ⟨List.prefix_refl _, rfl⟩

theorem Grows.dropPool (w : Pools Job) (p : Nat) : Grows w (w.dropPool p) := by
  unfold Pools.dropPool
  split
  · exact ⟨List.prefix_refl _, rfl⟩
  · exact .refl w

theorem Grows.enqueue (w : Pools Job) (p : Nat) (job : Job) : Grows w (w.enqueue p job) :=
  ⟨List.prefix_append _ _, rfl⟩

theorem Grows.beside {w w' : Pools Job} (h : Beside w w') : Grows w w' := by
  cases h with
  | gets mem => exact .getPool w mem
  | submits p job current => exact .enqueue w p job
  | drops p => exact .dropPool w p
  | shutsDown => exact ⟨List.prefix_refl _, rfl⟩

theorem Grows.meanwhile {w w' : Pools Job} (h : Meanwhile w w') : Grows w w' := by
  induction h with
  | refl => exact .refl w
  | tail _ hstep ih => exact ih.trans (.beside hstep)

/-! ## One attempt -/

section Attempt
variable {compute : Job → Except RenderError V} {job : Job} {w : Pools Job}

/-- **One call**: the others have gone on, and what they leave alone is as it was. -/
theorem ask_always (c : PoolCall Job)
    {Q : Except RenderError (PoolCall.Answer V c) → Pools Job → Prop}
    (h : ∀ m r w', Grows w m → Effect compute m c r w' → Q r w') :
    (ask c : Rendering Job V (PoolCall.Answer V c)).Always (machine compute) (fun _ => True) Q w := by
  refine (Action.always_perform _).mpr ⟨trivial, fun r w' hserve => ⟨trivial, ?_⟩⟩
  obtain ⟨m, hsteps, heffect⟩ := hserve
  exact h m r w' (.meanwhile hsteps) heffect

/-- **A value of an attempt is its own job's**, whatever the others submit. -/
theorem attempt_value (pool : Nat) (timeout : Rat) :
    (attempt pool job timeout).Always (machine compute) (fun _ => True)
      (fun r w' => w'.missed = w.missed ∧ ∀ v, r = .ok v → compute job = .ok v) w := by
  unfold attempt
  rw [Action.always_bind]
  refine ask_always _ fun m r w₁ hgrows heffect => ?_
  cases r with
  | error e =>
    obtain ⟨-, rfl⟩ : _ ∧ w₁ = m := heffect
    exact ⟨hgrows.missed, fun v h => by cases h⟩
  | ok future =>
    obtain ⟨-, rfl, rfl⟩ : _ ∧ future = m.submitted.length ∧ w₁ = m.enqueue pool job := heffect
    refine ask_always _ fun m' r w₂ hgrows' heffect' => ?_
    have hmissed : m'.missed = w.missed := hgrows'.missed.trans hgrows.missed
    cases r with
    | error e =>
      obtain rfl : w₂ = m' := heffect'
      exact ⟨hmissed, fun v h => by cases h⟩
    | ok v =>
      obtain ⟨⟨p, job', hfuture, hcompute⟩, rfl⟩ := heffect'
      refine ⟨hmissed, ?_⟩
      rintro v' hv
      obtain rfl := Except.ok.inj hv
      -- futures are only added, so that the one of this render is still where it was
      obtain ⟨later, hlater⟩ := hgrows'.submitted
      have hown : w₂.submitted[m.submitted.length]? = some (pool, job) := by
        rw [← hlater]
        simp [Pools.enqueue]
      obtain ⟨-, rfl⟩ := Prod.mk.inj (Option.some.inj (hown.symm.trans hfuture))
      exact hcompute

/-- What has become of the render, with so many attempts left at the start. -/
structure Ended (compute : Job → Except RenderError V) (job : Job) (n : Nat) (w : Pools Job)
    (r : Except RenderError (Option V)) (w' : Pools Job) : Prop where
  value : ∀ v, r = .ok (some v) → compute job = .ok v
  nothing : r = .ok none → w'.missed = w.missed + n
  something : r ≠ .ok none → w'.missed < w.missed + n

theorem Ended.raised {n : Nat} {w' : Pools Job} {e : RenderError}
    (h : w'.missed = w.missed) : Ended compute job (n + 1) w (.error e) w' where
  value v h := by cases h
  nothing h := by cases h
  something _ := by omega

theorem dropPoolAndRaise_ends {w₁ : Pools Job} (pool : Nat) (code : String) (cap : Rat) {n : Nat}
    (h : w₁.missed = w.missed) :
    (dropPoolAndRaise pool code cap).Always (machine compute) (fun _ => True)
      (Ended compute job (n + 1) w) w₁ := by
  unfold dropPoolAndRaise
  rw [Action.always_bind]
  refine ask_always _ fun m r w₂ hgrows heffect => ?_
  cases r with
  | error e => exact absurd heffect id
  | ok _ =>
    obtain rfl : w₂ = m.dropPool pool := heffect
    exact ⟨trivial, .raised ((Grows.dropPool m pool).missed.trans (hgrows.missed.trans h))⟩

/-- **Once more**: a render that is told that its pool is gone has missed one attempt. -/
theorem again_ends {w₁ : Pools Job} {mem : Nat} {timeout : Rat} {n : Nat} (pool : Nat)
    (e : RenderError) (h : w₁.missed = w.missed)
    (hrest : ∀ w : Pools Job, (attempts job mem timeout n).Always (machine compute) (fun _ => True)
      (Ended compute job n w) w) :
    (do if ← ask (.isCurrent pool) then Action.raise e else attempts job mem timeout n :
      Rendering Job V (Option V)).Always (machine compute) (fun _ => True)
        (Ended compute job (n + 1) w) w₁ := by
  rw [Action.always_bind]
  refine ask_always _ fun m r w₂ hgrows heffect => ?_
  cases r with
  | error e => exact absurd heffect id
  | ok current =>
    obtain ⟨-, rfl⟩ := heffect
    rw [onOk_ok, Action.always_ite]
    refine ⟨fun hcurrent => ⟨trivial, .raised ?_⟩, fun hgone => ?_⟩
    · rw [hcurrent]
      exact hgrows.missed.trans h
    · have hmissed : (m.missed + if current then 0 else 1) = w.missed + 1 := by
        rw [if_neg hgone, hgrows.missed, h]
      refine (hrest { m with missed := _ }).mono fun r w' _ hended => ?_
      refine ⟨hended.value, fun hnone => ?_, fun hsome => ?_⟩
      · have := hended.nothing hnone
        dsimp only at this
        omega
      · have := hended.something hsome
        dsimp only at this
        omega

/-- **The attempts**: each of those that is made again was told so. -/
theorem attempts_end (mem : Nat) (timeout : Rat) (n : Nat) :
    (attempts job mem timeout n).Always (machine compute) (fun _ => True)
      (Ended compute job n w) w := by
  induction n generalizing w with
  | zero => exact ⟨trivial, fun v h => (by cases h), fun _ => rfl, fun h => absurd rfl h⟩
  | succ n ih =>
    unfold attempts
    rw [Action.always_bind]
    refine ask_always _ fun m r w₁ hgrows heffect => ?_
    cases r with
    | error e =>
      obtain rfl : w₁ = m := heffect
      exact .raised hgrows.missed
    | ok pool =>
      have hmissed : w₁.missed = w.missed := by
        have hw₁ : w₁ = (m.getPool mem).2 := congrArg Prod.snd (heffect : (pool, w₁) = _)
        rw [hw₁]
        exact (Grows.getPool m mem).missed.trans hgrows.missed
      rw [onOk_ok, Action.always_bind, Action.always_outcome]
      refine (attempt_value pool timeout).mono fun r w₂ _ hr => ?_
      obtain ⟨hmissed₂, hvalue⟩ := hr
      have hsame : w₂.missed = w.missed := hmissed₂.trans hmissed
      rw [onOk_ok]
      match r with
      | .ok v =>
        refine ⟨trivial, ?_, fun h => (by cases h), fun _ => by omega⟩
        rintro v' hv
        obtain rfl := Option.some.inj (Except.ok.inj hv)
        exact hvalue v rfl
      | .error (.exceeded code cap) => exact ⟨trivial, .raised hsame⟩
      | .error (.raised ⟨.brokenProcessPool, type, text⟩) =>
        exact dropPoolAndRaise_ends pool "child_died" mem hsame
      | .error (.raised ⟨.cancelled, type, text⟩) => exact again_ends pool _ hsame fun w => ih
      | .error (.raised ⟨.runtime, type, text⟩) => exact again_ends pool _ hsame fun w => ih
      | .error (.raised ⟨.timeout, type, text⟩) =>
        exact dropPoolAndRaise_ends pool "timeout" timeout hsame
      | .error (.raised ⟨.memory, type, text⟩) =>
        exact dropPoolAndRaise_ends pool "memory_exceeded" mem hsame
      | .error (.raised ⟨.other, type, text⟩) => exact ⟨trivial, .raised hsame⟩

end Attempt

/-! ## The call -/

/-- The call returns the value that the child computed for this job, or raises. -/
def Settles (compute : Job → Except RenderError V) (job : Job)
    (r : Except RenderError (Option V)) : Prop :=
  r ≠ .ok none ∧ ∀ v, r = .ok (some v) → compute job = .ok v

/-- **A render settles** exactly where its pool is not taken away in all three attempts. -/
theorem submit_settles_iff {compute : Job → Except RenderError V} {job : Job} {mem : Nat}
    {timeout : Rat} {w w' : Pools Job} {r : Except RenderError (Option V)} (hfresh : w.missed = 0)
    (hrun : Run (machine compute) w (submitBudgeted job mem timeout) w' (.pure r)) :
    Settles compute job r ↔ w'.missed < 3 := by
  have hended : Ended compute job 3 w r w' := (attempts_end mem timeout 3).at_return hrun
  refine ⟨fun h => ?_, fun h => ⟨fun hnone => ?_, hended.value⟩⟩
  · have := hended.something h.1
    omega
  · have := hended.nothing hnone
    omega

/-! ## A pool that nobody else uses -/

/-- The pool answers, and the child's value with it. -/
def quiet (compute : Job → Except RenderError V) (w : Pools Job) :
    (c : PoolCall Job) → Raises (PoolCall.Answer V) RenderError c × Pools Job
  | .getPool mem => (.ok (w.getPool mem).1, (w.getPool mem).2)
  | .submit p job =>
    if w.pool = some p then (.ok w.submitted.length, w.enqueue p job) else (.error recycled, w)
  | .result future _ =>
    match w.submitted[future]? with
    | some (_, job) => (compute job, w)
    | none => (.error recycled, w)
  | .isCurrent p => (.ok (decide (w.pool = some p)),
      { w with missed := w.missed + if decide (w.pool = some p) = true then 0 else 1 })
  | .dropPool p => (.ok (), w.dropPool p)

theorem quiet_serves (compute : Job → Except RenderError V) (w : Pools Job) (c : PoolCall Job) :
    (machine compute).serve w c (quiet compute w c).1 (quiet compute w c).2 := by
  refine ⟨w, .refl, ?_⟩
  cases c with
  | getPool mem => rfl
  | submit p job =>
    by_cases hcurrent : w.pool = some p
    · have hquiet : quiet compute w (.submit p job) =
          (.ok w.submitted.length, w.enqueue p job) := by
        simp only [quiet, if_pos hcurrent]
      rw [hquiet]
      exact ⟨hcurrent, rfl, rfl⟩
    · have hquiet : quiet compute w (.submit p job) = (.error recycled, w) := by
        simp only [quiet, if_neg hcurrent]
      rw [hquiet]
      exact ⟨fun _ => rfl, rfl⟩
  | result future timeout =>
    cases hfuture : w.submitted[future]? with
    | none =>
      have hquiet : quiet compute w (.result future timeout) = (.error recycled, w) := by
        simp only [quiet, hfuture]
      rw [hquiet]
      exact rfl
    | some entry =>
      obtain ⟨p, job⟩ := entry
      have hquiet : quiet compute w (.result future timeout) = (compute job, w) := by
        simp only [quiet, hfuture]
      rw [hquiet]
      cases hcompute : compute job with
      | error e => exact rfl
      | ok v => exact ⟨⟨p, job, hfuture, hcompute⟩, rfl⟩
  | isCurrent p => exact ⟨rfl, rfl⟩
  | dropPool p => rfl

/-- A render that nobody disturbs. -/
theorem submit_settles_quiet : (∃ (w' : Pools Unit) (r : Except RenderError (Option Nat)),
    Run (machine fun _ => .ok 7) {} (submitBudgeted () 0 5) w' (.pure r) ∧
      Settles (fun _ => .ok 7) () r) := by
  have hrun := Prog.run_evalFor (h := quiet fun _ : Unit => .ok 7) (quiet_serves _) 3
    (submitBudgeted () 0 5) {}
  exact ⟨_, .ok (some 7), hrun, (submit_settles_iff rfl hrun).mpr (by decide)⟩

/-- In every attempt, another render drops the pool before this one is submitted. -/
def thrash (w : Pools Unit) :
    (c : PoolCall Unit) → Raises (PoolCall.Answer Nat) RenderError c × Pools Unit
  | .submit p _ => (.error recycled, w.dropPool p)
  | c => quiet (fun _ => .ok 7) w c

theorem thrash_serves (w : Pools Unit) (c : PoolCall Unit) :
    (machine fun _ => .ok 7).serve w c (thrash w c).1 (thrash w c).2 := by
  cases c with
  | submit p job => exact ⟨w.dropPool p, .single (.drops p), fun _ => rfl, rfl⟩
  | getPool mem => exact quiet_serves _ w _
  | result future timeout => exact quiet_serves _ w _
  | isCurrent p => exact quiet_serves _ w _
  | dropPool p => exact quiet_serves _ w _

/-- **Three pools are taken away**, and the render ends with neither a value nor an exception. -/
theorem submit_thrashed : (∃ (w' : Pools Unit) (r : Except RenderError (Option Nat)),
    Run (machine fun _ => .ok 7) {} (submitBudgeted () 0 5) w' (.pure r) ∧
      ¬ Settles (fun _ => .ok 7) () r) := by
  have hrun := Prog.run_evalFor (h := thrash) thrash_serves 9 (submitBudgeted () 0 5) {}
  exact ⟨_, .ok none, hrun, fun h => h.1 rfl⟩

end Pools

end Greffer.Render

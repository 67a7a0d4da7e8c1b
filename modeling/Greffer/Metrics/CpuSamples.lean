import Mathlib.Algebra.Order.Ring.Rat
import Greffer.Effects.Reliance
import Greffer.Python.Builtins
import Greffer.Python.Value

/-! # The processor load of a container

The daemon counts the processor time that a container has used, and that of its host.  The load is
what the one has grown by against the other from a poll to the next, so `_digest_container` keeps
the last counters of each container in a table without a lock.  The digests of a poll run at once in
a pool, and those of several polls beside each other; `_prune_cpu_prev` drops what has not been
refreshed for half a minute.

Python computes the load in floats.  Here it is the exact quotient, and `round`, which is any
function, stands for the rounding of the operations and of `round(…, 1)` together.
-/
namespace Greffer.Metrics.Cpu
open Effects

/-! ## The counters -/

/-- `cpu_stats`, as far as it is read. -/
structure CpuStats where
  totalUsage : Option Int
  systemUsage : Option Int
  onlineCpus : Option Int := none
  /-- The length of `percpu_usage`. -/
  percpu : Option Nat := none

/-- `cpu.get("online_cpus") or len(cpu["cpu_usage"].get("percpu_usage") or []) or 1`. -/
def CpuStats.online (cpu : CpuStats) : Int :=
  ((cpu.onlineCpus.filter (· ≠ 0)).or ((cpu.percpu.filter (· ≠ 0)).map Int.ofNat)).getD 1

/-- `(total_usage, system_cpu_usage, online_cpus)`. -/
structure Sample where
  total : Int
  system : Int
  online : Int
  deriving DecidableEq

/-- `_cpu_sample`. -/
def cpuSample (stats : Option CpuStats) : Option Sample := do
  let cpu ← stats
  let total ← cpu.totalUsage
  let system ← cpu.systemUsage
  return { total, system, online := cpu.online }

/-- `_cpu_percent_from_prev`, of two samples, in exact arithmetic until `round`. -/
def busyPercent (round : Rat → Rat) (prev cur : Sample) : Rat :=
  let cpuDelta := cur.total - prev.total
  let sysDelta := cur.system - prev.system
  let online := if cur.online = 0 then 1 else cur.online
  if 0 < sysDelta ∧ 0 < cpuDelta then round (cpuDelta / sysDelta * online * 100) else 0

/-- `_cpu_percent_from_prev`. -/
def cpuPercentFromPrev (round : Rat → Rat) : Option Sample → Option Sample → Option Rat
  | some prev, some cur => some (busyPercent round prev cur)
  | _, _ => none

/-! ## The calls -/

/-- What reading statistics may raise. -/
inductive StatsError where
  /-- One of `_DOCKER_ERRORS`. -/
  | docker
  | other (e : Exn)

inductive StatsCall where
  | monotonic
  /-- `_read_stats`. -/
  | readStats (container : String)
  /-- `_cpu_prev.get(container.id)`. -/
  | getPrev (container : String)
  /-- `_cpu_prev[container.id] = (*sample, at)`. -/
  | setPrev (container : String) (sample : Sample) (at' : Rat)
  /-- `list(_cpu_prev.items())`: the times. -/
  | listPrev
  /-- `_cpu_prev.pop(cid, None)`. -/
  | popPrev (container : String)
  /-- What the digest of a container comes to: its `cpu_percent`. -/
  | report (container : String) (cpuPercent : Except StatsError (Option Rat))

/-- What each call answers when it raises nothing. -/
@[reducible] def StatsCall.Answer : StatsCall → Type
  | .monotonic => Rat
  | .readStats _ => Option CpuStats
  | .getPrev _ => Option (Sample × Rat)
  | .listPrev => List (String × Rat)
  | .setPrev _ _ _ | .popPrev _ | .report _ _ => Unit

/-- Code that reads statistics. -/
abbrev Digesting := Action StatsCall.Answer StatsError

/-- Make one call. -/
abbrev ask (c : StatsCall) : Digesting c.Answer := Action.perform c

/-! ## The code -/

/-- `_CPU_PREV_TTL_SECONDS`. -/
def cpuPrevTtl : Rat := 30

/-- The two loops of `_prune_cpu_prev`. -/
def popStale (now : Rat) : List (String × Rat) → Digesting Unit
  | [] => return ()
  | (container, at') :: rest => do
    if cpuPrevTtl < now - at' then ask (.popPrev container)
    popStale now rest

/-- `_prune_cpu_prev(time.monotonic())`. -/
def pruneCpuPrev : Digesting Unit := do
  let now ← ask .monotonic
  let items ← ask .listPrev
  popStale now items

/-- The sample is kept for the next poll. -/
def keep (container : String) : Option Sample → Digesting Unit
  | none => return ()
  | some sample => do
    let now ← ask .monotonic
    ask (.setPrev container sample now)

/-- The digest of a container whose statistics have been read. -/
def digestRaw (round : Rat → Rat) (container : String) (stats : Option CpuStats) :
    Digesting (Option Rat) := do
  let cur := cpuSample stats
  let prev ← ask (.getPrev container)
  keep container cur
  return cpuPercentFromPrev round (prev.map Prod.fst) cur

/-- `_digest_container`. -/
def digestContainer (round : Rat → Rat) (container : String) (running : Bool) :
    Digesting (Option Rat) :=
  if running then do
    match ← (ask (.readStats container)).outcome with
    | .ok stats => digestRaw round container stats
    | .error .docker => return none
    | .error e => Action.raise e
  else return none

/-! ## The threads -/

/-- A poll that prunes the table, and the jobs of the pool. -/
inductive Task where
  | prune
  | digest (container : String) (running : Bool)

abbrev Replies (_ : Task) : StatsCall → Type := Raises StatsCall.Answer StatsError

/-- None of them goes round a loop. -/
abbrev Label (_ : Task) : Type := Unit

def blocks (round : Rat → Rat) : Blocks Replies Label
  | .prune, _ => Action.once pruneCpuPrev
  | .digest container running, _ => Action.once do
    let r ← (digestContainer round container running).outcome
    ask (.report container r)

/-- Polls come at any time, and the pool takes up its jobs in any order. -/
def Polls (t : Worker Replies Label) : Prop := t.rest = .pure (some ())

/-- An entry of the table, and which thread has put it there. -/
structure Entry where
  sample : Sample
  at' : Rat
  writer : Nat

/-- What the threads share: the clock and the table; and what the daemon has told to whom. -/
structure Table where
  clock : Rat
  prev : List (String × Entry) := []
  told : List (Nat × String × Sample) := []

/-- What each call of the thread `n` may be answered, and do. -/
def serve (n : Nat) (w : Table) :
    (c : StatsCall) → Raises StatsCall.Answer StatsError c → Table → Prop
  | .monotonic, r, w' => r = .ok w.clock ∧ w' = w
  | .readStats container, .ok stats, w' =>
    w' = { w with told := (cpuSample stats).toList.map (n, container, ·) ++ w.told }
  | .readStats _, .error _, w' => w' = w
  | .getPrev container, r, w' =>
    r = .ok ((w.prev.lookup container).map fun e => (e.sample, e.at')) ∧ w' = w
  | .setPrev container sample at', r, w' =>
    r = .ok () ∧ w' = { w with prev := upsert w.prev container ⟨sample, at', n⟩ }
  | .listPrev, r, w' => r = .ok (w.prev.map fun e => (e.1, e.2.at')) ∧ w' = w
  | .popPrev container, r, w' =>
    r = .ok () ∧ w' = { w with prev := w.prev.filter fun e => e.1 ≠ container }
  | .report _ _, r, w' => r = .ok () ∧ w' = w

/-- **The shared table**; by itself only the clock advances. -/
def table : Shared Replies Table where
  serve n _ w := serve n w
  drift w w' := w.clock ≤ w'.clock ∧ w' = { w with clock := w'.clock }

end Greffer.Metrics.Cpu

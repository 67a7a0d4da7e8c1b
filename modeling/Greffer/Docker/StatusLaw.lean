import Greffer.Compose.Info
import Greffer.Docker.Containers

/-! # What the status of an instance depends on

`scanStatus` is the loop of `get_status`, with its flags.  It computes the aggregation of
`getStatus` (`scanStatus_eq`), and it nearly obeys the law its documentation states: an
empty list and a mix are `unknow`, and everything else is `running` or `stopped`.  **The
exception is a list on which every container is ignored**: the flag that tells an empty
list from a resting one is only set past the check for ignored containers, so that such a
list counts as empty (`get_status_law`).

The list is not the instance's: the daemon is asked for every container whose name contains
the id.  **So the status of an instance depends on other tenants** as soon as one of their
containers is named so (`status_noninterference`).
-/
namespace Greffer.Docker

/-! ## The loop -/

/-- The variables of the loop. -/
structure StatusScan where
  containers : List Bool := []
  completed : List String := []
  exited : List (String × Option Int) := []
  isAllStopped : Bool := true
  isAllRunning : Bool := true
  sawAny : Bool := false

/-- One container. -/
def StatusScan.see (s : StatusScan) (c : Container) : StatusScan :=
  if c.ignoredForStatus then s
  else if c.isCompletedOneShot then
    { s with
      sawAny := true
      completed := s.completed ++ [c.serviceName]
      exited := s.exited ++ [(c.serviceName, c.endedCode)] }
  else if c.isRunning then
    { s with sawAny := true, isAllStopped := false, containers := s.containers ++ [true] }
  else
    { s with
      sawAny := true
      isAllRunning := false
      exited := s.exited ++ [(c.serviceName, c.endedCode)]
      containers := s.containers ++ [false] }

/-- The word the flags come to. -/
def StatusScan.word (s : StatusScan) : Aggregate :=
  if !s.sawAny then .unknow
  else if s.isAllRunning && !s.isAllStopped then .running
  else if s.isAllStopped then .stopped
  else .unknow

/-- `get_status`, of the containers the daemon lists. -/
def scanStatus (listed : List Container) : StatusReport :=
  let s := listed.foldl StatusScan.see {}
  { status := s.word, containers := s.containers, completed := s.completed, exited := s.exited }

section Scan
variable {s : StatusScan} {c : Container} {listed : List Container}

/-- The containers that are not ignored. -/
def seen (listed : List Container) : List Container := listed.filter fun c => !c.ignoredForStatus

/-- Those of them that count: all but the completed one-shots. -/
def counted (listed : List Container) : List Container :=
  (seen listed).filter fun c => !c.isCompletedOneShot

/-- What the flags and the lists say after some containers. -/
structure StatusScan.After (listed : List Container) (s : StatusScan) : Prop where
  sawAny : s.sawAny = !(seen listed).isEmpty
  isAllRunning : s.isAllRunning = (counted listed).all Container.isRunning
  isAllStopped : s.isAllStopped = (counted listed).all fun c => !c.isRunning
  containers : s.containers = (counted listed).map Container.isRunning
  completed : s.completed = ((seen listed).filter Container.isCompletedOneShot).map
    Container.serviceName
  exited : s.exited = ((seen listed).filter fun c => !c.isRunning).map fun c =>
    (c.serviceName, c.endedCode)

theorem StatusScan.after_nil : StatusScan.After [] {} := ⟨rfl, rfl, rfl, rfl, rfl, rfl⟩

theorem StatusScan.After.see (h : s.After listed) (c : Container) :
    (s.see c).After (listed ++ [c]) := by
  obtain ⟨hsaw, hrunning, hstopped, hcontainers, hcompleted, hexited⟩ := h
  cases hignored : c.ignoredForStatus with
  | true =>
    have hsame : s.see c = s := by simp [StatusScan.see, hignored]
    have hseen : seen (listed ++ [c]) = seen listed := by simp [seen, hignored]
    rw [hsame]
    constructor
    all_goals simp [counted, *]
  | false =>
    have hseen : seen (listed ++ [c]) = seen listed ++ [c] := by simp [seen, hignored]
    cases hone : c.isCompletedOneShot with
    | true =>
      have hrest : c.isRunning = false := c.not_running_of_completed hone
      constructor
      all_goals simp [StatusScan.see, counted, *]
    | false =>
      cases hrun : c.isRunning with
      | true =>
        constructor
        all_goals simp [StatusScan.see, counted, *]
      | false =>
        constructor
        all_goals simp [StatusScan.see, counted, *]

/-- **The loop sees every container once.** -/
theorem scan_after (listed : List Container) :
    (listed.foldl StatusScan.see {}).After listed := by
  induction listed using List.reverseRecOn with
  | nil => exact StatusScan.after_nil
  | append_singleton rest c ih =>
    rw [List.foldl_append]
    exact ih.see c

/-- **The loop computes the aggregation.** -/
theorem scanStatus_eq (listed : List Container) : scanStatus listed = getStatus listed := by
  have h := scan_after listed
  have hword : (listed.foldl StatusScan.see {}).word = aggregate (seen listed) := by
    unfold StatusScan.word aggregate
    rw [h.sawAny, h.isAllRunning, h.isAllStopped, Bool.not_not]
    rfl
  unfold scanStatus getStatus
  dsimp only
  rw [hword, h.containers, h.completed, h.exited]
  rfl

end Scan

/-! ## The law -/

/-- A container that counts: neither ignored nor a completed one-shot. -/
def Counts (c : Container) : Prop := c.ignoredForStatus = false ∧ c.isCompletedOneShot = false

/-- Something counts, and everything that counts runs. -/
def AllRun (listed : List Container) : Prop :=
  (∃ c ∈ listed, Counts c) ∧ ∀ c ∈ listed, Counts c → c.isRunning = true

/-- **The law of the status**, of any list of containers. -/
structure StatusLaw (listed : List Container) : Prop where
  unknow : (scanStatus listed).status = .unknow ↔ listed = [] ∨ Mixed listed
  running : (scanStatus listed).status = .running ↔ AllRun listed
  stopped : (scanStatus listed).status = .stopped ↔
    listed ≠ [] ∧ ¬ Mixed listed ∧ ¬ AllRun listed
  /-- Every completed container that is not ignored is told once, -/
  completed : (scanStatus listed).completed =
    (listed.filter fun c => !c.ignoredForStatus && c.isCompletedOneShot).map Container.serviceName
  /-- and so is every one that does not run. -/
  exited : (scanStatus listed).exited =
    (listed.filter fun c => !c.ignoredForStatus && !c.isRunning).map fun c =>
      (c.serviceName, c.endedCode)
  /-- The order of the list decides nothing but the order of what is told. -/
  unordered : ∀ listed' : List Container, listed'.Perm listed →
    (scanStatus listed').status = (scanStatus listed).status ∧
    (scanStatus listed').completed.Perm (scanStatus listed).completed ∧
    (scanStatus listed').exited.Perm (scanStatus listed).exited

section Law
variable {listed : List Container}

theorem allRun_iff : AllRun listed ↔ (getStatus listed).status = .running := by
  rw [running_iff]
  constructor
  · rintro ⟨⟨c, hc, hcounts⟩, hall⟩
    exact ⟨⟨c, hc, hcounts.1, hall c hc hcounts⟩, fun d hd hi hone => hall d hd ⟨hi, hone⟩⟩
  · rintro ⟨⟨c, hc, hi, hrun⟩, hall⟩
    have hone : c.isCompletedOneShot = false := by
      cases hone : c.isCompletedOneShot with
      | false => rfl
      | true =>
        rw [c.not_running_of_completed hone] at hrun
        cases hrun
    exact ⟨⟨c, hc, hi, hone⟩, fun d hd hcounts => hall d hd hcounts.1 hcounts.2⟩

theorem seen_eq_nil : seen listed = [] ↔ ∀ c ∈ listed, c.ignoredForStatus = true := by
  simp [seen, List.filter_eq_nil_iff]

/-- **`unknow`** is a list on which nothing is seen, or a mix. -/
theorem unknow_iff : (getStatus listed).status = .unknow ↔ seen listed = [] ∨ Mixed listed := by
  have hall : ∀ p : Container → Bool, (counted listed).all p = true ↔
      ∀ c ∈ listed, Counts c → p c = true := by
    intro p
    rw [List.all_eq_true]
    constructor
    · intro h c hc hcounts
      refine h c (List.mem_filter.mpr ⟨mem_seen.mpr ⟨hc, hcounts.1⟩, ?_⟩)
      rw [hcounts.2]
      rfl
    · intro h c hc
      obtain ⟨hc, hone⟩ := List.mem_filter.mp hc
      obtain ⟨hc, hi⟩ := mem_seen.mp hc
      exact h c hc ⟨hi, by simpa using hone⟩
  have hword : (getStatus listed).status = aggregate (seen listed) := rfl
  rw [hword]
  unfold aggregate
  by_cases hnone : seen listed = []
  · simp [hnone]
  · have hsome : (seen listed).isEmpty = false := List.isEmpty_eq_false_iff.mpr hnone
    -- Mixed is neither all running nor all at rest, among those that count.
    have hmixed : Mixed listed ↔ ¬ (counted listed).all Container.isRunning = true ∧
        ¬ ((counted listed).all fun c => !c.isRunning) = true := by
      rw [hall, hall]
      constructor
      · rintro ⟨⟨a, ha, hi, hrun⟩, d, hd, hi', hone', hrest⟩
        refine ⟨fun hx => ?_, fun hx => ?_⟩
        · rw [hx d hd ⟨hi', hone'⟩] at hrest
          cases hrest
        · have hone : a.isCompletedOneShot = false := by
            cases hone : a.isCompletedOneShot with
            | false => rfl
            | true =>
              rw [a.not_running_of_completed hone] at hrun
              cases hrun
          have hnot := hx a ha ⟨hi, hone⟩
          simp [hrun] at hnot
      · rintro ⟨hsomeRests, hsomeRuns⟩
        push Not at hsomeRests hsomeRuns
        obtain ⟨d, hd, hcounts, hrest⟩ := hsomeRests
        obtain ⟨a, ha, hcounts', hrun⟩ := hsomeRuns
        exact ⟨⟨a, ha, hcounts'.1, by simpa using hrun⟩, d, hd, hcounts.1, hcounts.2,
          by simpa using hrest⟩
    rw [hmixed]
    simp only [hsome, hnone, false_or, Bool.false_eq_true, if_false]
    change (if ((counted listed).all Container.isRunning &&
        !((counted listed).all fun c => !c.isRunning)) = true then Aggregate.running
      else if ((counted listed).all fun c => !c.isRunning) = true then .stopped
      else .unknow) = .unknow ↔ _
    cases (counted listed).all Container.isRunning <;>
      cases (counted listed).all fun c => !c.isRunning <;> simp

theorem seen_perm {listed' : List Container} (h : listed'.Perm listed) :
    (seen listed').Perm (seen listed) := h.filter _

theorem aggregate_perm {s t : List Container} (h : s.Perm t) : aggregate s = aggregate t := by
  have hcounted := h.filter fun c => !c.isCompletedOneShot
  have hall (p : Container → Bool) : (s.filter fun c => !c.isCompletedOneShot).all p =
      (t.filter fun c => !c.isCompletedOneShot).all p := hcounted.all_eq
  have hempty : s.isEmpty = t.isEmpty := by
    rw [Bool.eq_iff_iff, List.isEmpty_iff, List.isEmpty_iff]
    constructor
    · rintro rfl
      exact List.nil_perm.mp h
    · rintro rfl
      exact List.perm_nil.mp h
  unfold aggregate
  dsimp only
  rw [hall, hall, hempty]

/-- **The order decides nothing.** -/
theorem scanStatus_perm {listed' : List Container} (h : listed'.Perm listed) :
    (scanStatus listed').status = (scanStatus listed).status ∧
    (scanStatus listed').completed.Perm (scanStatus listed).completed ∧
    (scanStatus listed').exited.Perm (scanStatus listed).exited := by
  rw [scanStatus_eq, scanStatus_eq]
  have hseen := seen_perm h
  exact ⟨aggregate_perm hseen, (hseen.filter _).map _, (hseen.filter _).map _⟩

theorem filter_seen (p : Container → Bool) :
    (seen listed).filter p = listed.filter fun c => !c.ignoredForStatus && p c := by
  unfold seen
  rw [List.filter_filter]
  exact List.filter_congr fun c _ => Bool.and_comm _ _

/-- **The status law holds of a list exactly if** it is empty, or a container on it is not
ignored. -/
theorem get_status_law (listed : List Container) :
    StatusLaw listed ↔ (listed = [] ∨ ∃ c ∈ listed, c.ignoredForStatus = false) := by
  have hseen : (listed = [] ∨ ∃ c ∈ listed, c.ignoredForStatus = false) ↔
      (seen listed = [] → listed = []) := by
    rw [seen_eq_nil]
    constructor
    · rintro (hnil | ⟨c, hc, hi⟩) hall
      · exact hnil
      · rw [hall c hc] at hi
        cases hi
    · intro h
      by_cases hall : ∀ c ∈ listed, c.ignoredForStatus = true
      · exact .inl (h hall)
      · push Not at hall
        obtain ⟨c, hc, hi⟩ := hall
        exact .inr ⟨c, hc, by simpa using hi⟩
  have hnil : listed = [] → seen listed = [] := by
    rintro rfl
    rfl
  rw [hseen]
  constructor
  · intro h hnone
    have hunknow : (scanStatus listed).status = .unknow := by
      rw [scanStatus_eq]
      exact unknow_iff.mpr (.inl hnone)
    refine (h.unknow.mp hunknow).resolve_right ?_
    rintro ⟨⟨a, ha, hi, -⟩, -⟩
    rw [seen_eq_nil.mp hnone a ha] at hi
    cases hi
  · intro hsome
    have hunknow : (getStatus listed).status = .unknow ↔ listed = [] ∨ Mixed listed := by
      rw [unknow_iff]
      exact or_congr_left ⟨hsome, hnil⟩
    constructor
    · rw [scanStatus_eq, hunknow]
    · rw [scanStatus_eq, allRun_iff]
    · rw [scanStatus_eq, allRun_iff]
      have hwords : (getStatus listed).status = .stopped ↔
          ¬ (getStatus listed).status = .unknow ∧ ¬ (getStatus listed).status = .running := by
        cases (getStatus listed).status <;> simp
      rw [hwords, hunknow, not_or, and_assoc]
    · rw [scanStatus_eq]
      exact congrArg _ (filter_seen _)
    · rw [scanStatus_eq]
      exact congrArg _ (filter_seen _)
    · exact fun listed' h => scanStatus_perm h

end Law

/-- An init helper that its catalog entry declares to be ignored. -/
def ignoredHelper : Container :=
  { id := "c1", name := "i_createbuckets_1", labels := [("com.greffon.status", "ignore")],
    status := "exited", stateStatus := some "exited", exitCode := some 0,
    policyName := some "on-failure", health := none, volumeMounts := [] }

/-- **Ignored containers are taken for none**: the word is `unknow`, of a list that is
neither empty nor mixed. -/
theorem all_ignored_unknow : (scanStatus [ignoredHelper]).status = .unknow ∧
    ¬ Mixed [ignoredHelper] ∧ ¬ StatusLaw [ignoredHelper] := by
  have hmixed : ¬ Mixed [ignoredHelper] := by
    rintro ⟨⟨a, ha, hi, -⟩, -⟩
    obtain rfl := List.mem_singleton.mp ha
    revert hi
    decide
  have hword : (scanStatus [ignoredHelper]).status = .unknow := by decide
  refine ⟨hword, hmixed, fun h => ?_⟩
  rcases h.unknow.mp hword with hnil | hx
  · cases hnil
  · exact hmixed hx

/-! ## Other tenants -/

namespace Container
variable (c : Container)

/-- The compose project of the container. -/
def project : Option String := c.label "com.docker.compose.project"

end Container

/-- `client.containers.list(all=True, filters={'name': …})`: the daemon keeps every container
whose name contains the text. -/
def listByName (daemon : List Container) (text : String) : List Container :=
  daemon.filter fun c => c.nameContains text

/-- `get_status`, of what is on the daemon. -/
def getStatusOf (daemon : List Container) (greffonId : String) : StatusReport :=
  scanStatus (listByName daemon greffonId)

/-- The two daemons differ in containers of other projects only, and these are such as the
other projects can have. -/
structure DifferElsewhere (others : Container → Prop) (greffonId : String)
    (daemon daemon' : List Container) : Prop where
  own : (daemon.filter fun c => c.project == some greffonId) =
    daemon'.filter fun c => c.project == some greffonId
  foreign : ∀ c ∈ daemon ++ daemon', c.project ≠ some greffonId → others c

/-- **Noninterference**: the status of the instance does not depend on other projects. -/
def NonInterfering (others : Container → Prop) (greffonId : String) : Prop :=
  ∀ daemon daemon', DifferElsewhere others greffonId daemon daemon' →
    getStatusOf daemon greffonId = getStatusOf daemon' greffonId

section Tenants
variable {others : Container → Prop} {greffonId : String}

theorem scanStatus_congr {listed listed' : List Container} (h : seen listed = seen listed') :
    scanStatus listed = scanStatus listed' := by
  have hreport (l : List Container) : getStatus l =
      { status := aggregate (seen l)
        containers := ((seen l).filter fun c => !c.isCompletedOneShot).map Container.isRunning
        completed := ((seen l).filter Container.isCompletedOneShot).map Container.serviceName
        exited := ((seen l).filter fun c => !c.isRunning).map fun c =>
          (c.serviceName, c.endedCode) } := rfl
  rw [scanStatus_eq, scanStatus_eq, hreport, hreport, h]

/-- **If nothing foreign that counts is named after the instance**, only what is its own is
told. -/
theorem seen_listByName {daemon : List Container}
    (h : ∀ c ∈ daemon, c.project ≠ some greffonId → c.nameContains greffonId = true →
      c.ignoredForStatus = true) :
    seen (listByName daemon greffonId) =
      seen (listByName (daemon.filter fun c => c.project == some greffonId) greffonId) := by
  unfold seen listByName
  rw [List.filter_filter, List.filter_filter, List.filter_filter]
  refine List.filter_congr fun c hc => ?_
  by_cases hown : c.project = some greffonId
  · simp [hown]
  · cases hname : c.nameContains greffonId with
    | false => simp
    | true => simp [h c hc hown hname]

/-- **One foreign container that counts** and is named after the instance makes a
difference to a daemon that has nothing else. -/
theorem foreign_counts {c : Container} (hname : c.nameContains greffonId = true)
    (hcounts : c.ignoredForStatus = false) :
    getStatusOf [] greffonId ≠ getStatusOf [c] greffonId := by
  intro heq
  have hlist : listByName [c] greffonId = [c] := by simp [listByName, hname]
  have hnone : (getStatusOf [] greffonId).status = .unknow := rfl
  have hsome : ¬ (getStatusOf [c] greffonId).status = .unknow := by
    unfold getStatusOf
    rw [hlist, scanStatus_eq, unknow_iff]
    rintro (hnil | ⟨⟨a, ha, -, hrun⟩, d, hd, -, -, hrest⟩)
    · rw [seen_eq_nil.mp hnil c List.mem_cons_self] at hcounts
      cases hcounts
    · obtain rfl := List.mem_singleton.mp ha
      obtain rfl := List.mem_singleton.mp hd
      rw [hrun] at hrest
      cases hrest
  exact hsome (heq ▸ hnone)

/-- A foreign container that counts and is named after the instance interferes. -/
theorem interferes {c : Container} (hothers : others c) (hforeign : c.project ≠ some greffonId)
    (hname : c.nameContains greffonId = true) (hcounts : c.ignoredForStatus = false) :
    ¬ NonInterfering others greffonId := by
  intro h
  refine foreign_counts hname hcounts (h [] [c] ⟨?_, fun d hd _ => ?_⟩)
  · simp [hforeign]
  · obtain rfl := List.mem_singleton.mp hd
    exact hothers

/-- **The status of an instance does not depend on other tenants exactly if** no container
that they can have, and that is not ignored, has a name containing the instance's id. -/
theorem status_noninterference (others : Container → Prop) (greffonId : String) :
    NonInterfering others greffonId ↔ ∀ c, others c → c.project ≠ some greffonId →
      c.nameContains greffonId = true → c.ignoredForStatus = true := by
  constructor
  · intro h c hothers hforeign hname
    by_contra hcounts
    exact interferes hothers hforeign hname (by simpa using hcounts) h
  · intro h daemon daemon' hdiffer
    have hsame : ∀ d : List Container, (∀ c ∈ d, c.project ≠ some greffonId → others c) →
        seen (listByName d greffonId) =
          seen (listByName (d.filter fun c => c.project == some greffonId) greffonId) :=
      fun d hd => seen_listByName fun c hc hforeign => h c (hd c hc hforeign) hforeign
    refine scanStatus_congr ?_
    rw [hsame daemon fun c hc => hdiffer.foreign c (List.mem_append_left _ hc),
      hsame daemon' fun c hc => hdiffer.foreign c (List.mem_append_right _ hc), hdiffer.own]

/-- A container with a name that compose gives: the project, the service and a number. -/
def ComposeNamed (c : Container) : Prop :=
  ∃ project service number, c.project = some project ∧
    c.label "com.docker.compose.service" = some service ∧
    c.name = project ++ "_" ++ service ++ "_" ++ number

/-- The container of a tenant's service. -/
def tenantService (project service : String) : Container :=
  { id := "c1", name := project ++ "_" ++ service ++ "_" ++ "1",
    labels := [("com.docker.compose.project", project), ("com.docker.compose.service", service)],
    status := "running", stateStatus := some "running", exitCode := none,
    policyName := some "always", health := none, volumeMounts := [] }

/-- **A service named `db` of another tenant is told as the state of the instance `db`.** -/
theorem tenant_service_interferes : Compose.acceptedId "db" = true ∧
    ComposeNamed (tenantService "shop" "db") ∧
    DifferElsewhere ComposeNamed "db" [] [tenantService "shop" "db"] ∧
    (getStatusOf [] "db").status = .unknow ∧
    (getStatusOf [tenantService "shop" "db"] "db").status = .running := by
  have hnamed : ComposeNamed (tenantService "shop" "db") := ⟨"shop", "db", "1", rfl, rfl, rfl⟩
  refine ⟨by decide, hnamed, ⟨by decide, fun c hc _ => ?_⟩, by decide, by decide⟩
  obtain rfl := List.mem_singleton.mp hc
  exact hnamed

end Tenants

end Greffer.Docker

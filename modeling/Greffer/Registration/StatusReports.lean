import Greffer.Python.Builtins

/-! # Reports of status changes

At each tick the monitor compares the status of every instance with the one it remembers, and posts
each change to the manager.  A change that the manager did not take, because it could not be reached
or because it answered with an error, is not remembered and goes out again at the next tick.

One instance's report is not to bear on another's.  That holds for answers and for the two kinds of
exceptions that mean an unreachable manager; **any other exception of `requests` leaves the loop**, and
the changes behind it are not reported (`isolated_iff`).
-/
namespace Greffer.Monitor

/-! ## The callback -/

/-- The exceptions of `requests`, by their classes. -/
inductive RequestsError where
  | requestException | invalidJSONError | jsonDecodeError | httpError
  | connectionError | proxyError | sslError
  | timeout | connectTimeout | readTimeout
  | urlRequired | tooManyRedirects | missingSchema | invalidSchema | invalidURL | invalidHeader
  | invalidProxyURL | chunkedEncodingError | contentDecodingError | streamConsumedError | retryError
  | unrewindableBodyError
  deriving DecidableEq

namespace RequestsError

/-- `requests.ConnectionError` and its subclasses. -/
def isConnectionError : RequestsError → Bool
  | connectionError | proxyError | sslError | connectTimeout => true
  | _ => false

/-- `requests.Timeout` and its subclasses. -/
def isTimeout : RequestsError → Bool
  | timeout | connectTimeout | readTimeout => true
  | _ => false

end RequestsError

/-- The settings of a callback. -/
structure Settings where
  greffonBaseServer : String := "https://api.greffon.io"
  grefferSslVerify : Bool := true

/-- A request to the manager. -/
structure StatusCallback where
  url : String
  /-- The body, `{"status": status}`. -/
  status : String
  /-- The header `X-Greffer-Token`. -/
  token : String
  verify : Bool
  timeout : Rat
  deriving DecidableEq

/-- What became of a callback: its status code, or the exception that was raised. -/
abbrev Outcome := Except RequestsError Nat

/-- `_report_status_change`. -/
def reportStatusChange (post : StatusCallback → Outcome) (settings : Settings)
    (greffonId status token : String) : Outcome :=
  post { url := settings.greffonBaseServer ++ "/api/greffer/instances/" ++ greffonId ++ "/"
         status, token, verify := settings.grefferSslVerify, timeout := 10 }

/-! ## The tick -/

/-- What is logged of a callback. -/
inductive Diag where
  | unreachable (greffonId : String)
  | rejected (statusCode : Nat) (greffonId : String)
  deriving DecidableEq

/-- What `collect_status_map` returns: a dictionary. -/
structure StatusMap where
  entries : List (String × String)
  distinct : (entries.map Prod.fst).Nodup

/-- How far a tick has come. -/
structure Tick where
  prevStatus : List (String × String)
  /-- The callbacks that were made, and what became of them. -/
  callbacks : List ((String × String) × Outcome) := []
  diags : List Diag := []
  raised : Option RequestsError := none

/-- Whether the status of an instance is another than the one remembered. -/
def changed (prevStatus : List (String × String)) (e : String × String) : Bool :=
  prevStatus.lookup e.1 != some e.2

section
variable (report : String × String → Outcome)

/-- One instance of the loop of `_one_monitor_tick`. -/
def monitorOne (tick : Tick) (e : String × String) : Tick :=
  if changed tick.prevStatus e then
    let tick := { tick with callbacks := tick.callbacks ++ [(e, report e)] }
    match report e with
    | .error error =>
      if error.isConnectionError || error.isTimeout then
        { tick with diags := tick.diags ++ [.unreachable e.1] }
      else
        { tick with raised := some error }
    | .ok code =>
      if 400 ≤ code then
        { tick with diags := tick.diags ++ [.rejected code e.1] }
      else
        { tick with prevStatus := upsert tick.prevStatus e.1 e.2 }
  else
    { tick with prevStatus := upsert tick.prevStatus e.1 e.2 }

/-- The loop: an exception leaves it. -/
def monitorAll : Tick → List (String × String) → Tick
  | tick, [] => tick
  | tick, e :: rest =>
    let tick := monitorOne report tick e
    if tick.raised.isSome then tick else monitorAll tick rest

end

/-- `_one_monitor_tick`, once the statuses are collected. -/
def oneMonitorTick (post : StatusCallback → Outcome) (settings : Settings)
    (prevStatus : List (String × String)) (token : String) (statusMap : StatusMap) : Tick :=
  monitorAll (fun e => reportStatusChange post settings e.1 e.2 token) { prevStatus }
    statusMap.entries

/-! ## Which changes are reported -/

/-- The manager has taken the report. -/
def Outcome.delivered : Outcome → Bool
  | .ok code => decide (code < 400)
  | .error _ => false

/-- The exception is none of those that are caught. -/
def Outcome.escapes : Outcome → Bool
  | .ok _ => false
  | .error e => !(e.isConnectionError || e.isTimeout)

section Loop
variable {report : String × String → Outcome} {tick : Tick} {e : String × String}
  {entries : List (String × String)}

/-- The changes that are reported: all up to the first one of which the report escapes. -/
def reported (report : String × String → Outcome) (prevStatus : List (String × String)) :
    List (String × String) → List (String × String)
  | [] => []
  | e :: rest =>
    if changed prevStatus e then
      if (report e).escapes then [e] else e :: reported report prevStatus rest
    else reported report prevStatus rest

theorem changed_iff {prevStatus : List (String × String)} :
    changed prevStatus e = true ↔ prevStatus.lookup e.1 ≠ some e.2 := bne_iff_ne

/-- **One instance**: what its step does to the tick. -/
theorem monitorOne_spec (report : String × String → Outcome) (tick : Tick) (e : String × String) :
    (monitorOne report tick e).callbacks =
        tick.callbacks ++ (if changed tick.prevStatus e then [(e, report e)] else []) ∧
      ((monitorOne report tick e).raised.isSome =
        (tick.raised.isSome || (changed tick.prevStatus e && (report e).escapes))) ∧
      (monitorOne report tick e).prevStatus =
        (if changed tick.prevStatus e && !(report e).delivered then tick.prevStatus
          else upsert tick.prevStatus e.1 e.2) := by
  unfold monitorOne
  by_cases hchanged : changed tick.prevStatus e
  · rw [if_pos hchanged]
    cases hreport : report e with
    | error error =>
      by_cases hcaught : error.isConnectionError || error.isTimeout
      · simp [hchanged, hcaught, Outcome.escapes, Outcome.delivered]
      · simp [hchanged, hcaught, Outcome.escapes, Outcome.delivered]
    | ok code =>
      by_cases hcode : 400 ≤ code
      · simp [hchanged, hcode, Outcome.escapes, Outcome.delivered]
      · simp [hchanged, hcode, Outcome.escapes, Outcome.delivered, Nat.lt_of_not_le hcode]
  · simp [hchanged]

/-- A step leaves what is remembered of the other instances. -/
theorem lookup_monitorOne {key : String} (hkey : key ≠ e.1) :
    (monitorOne report tick e).prevStatus.lookup key = tick.prevStatus.lookup key := by
  rw [(monitorOne_spec report tick e).2.2]
  split
  · rfl
  · exact lookup_upsert_ne _ _ hkey

/-- It leaves all of it where there is nothing new, or the manager has not taken it. -/
theorem lookup_monitorOne_kept (h : changed tick.prevStatus e = true → (report e).delivered = false)
    (key : String) :
    (monitorOne report tick e).prevStatus.lookup key = tick.prevStatus.lookup key := by
  rw [(monitorOne_spec report tick e).2.2]
  by_cases hchanged : changed tick.prevStatus e = true
  · simp [hchanged, h hchanged]
  · by_cases hkey : key = e.1
    · have hsame := Decidable.not_not.mp fun hne => hchanged (changed_iff.mpr hne)
      simp [hchanged, hkey, lookup_upsert_self, hsame]
    · simp [hchanged, lookup_upsert_ne _ _ hkey]

theorem lookup_monitorOne_delivered (hchanged : changed tick.prevStatus e = true)
    (h : (report e).delivered = true) :
    (monitorOne report tick e).prevStatus.lookup e.1 = some e.2 := by
  rw [(monitorOne_spec report tick e).2.2]
  simp [hchanged, h, lookup_upsert_self]

/-- What is taken has not escaped. -/
theorem Outcome.not_escapes_of_delivered {o : Outcome} (h : o.delivered = true) :
    o.escapes = false := by
  cases o with
  | ok code => rfl
  | error e => cases h

theorem reported_sublist (prevStatus : List (String × String)) (entries : List (String × String)) :
    (reported report prevStatus entries).Sublist entries := by
  induction entries with
  | nil => exact List.Sublist.refl _
  | cons e rest ih =>
    unfold reported
    split
    · split
      · exact (List.nil_sublist rest).cons_cons e
      · exact ih.cons_cons e
    · exact ih.cons e

/-- What is reported depends on what is remembered of the instances themselves. -/
theorem reported_congr {prevStatus prevStatus' : List (String × String)}
    (h : ∀ e ∈ entries, prevStatus'.lookup e.1 = prevStatus.lookup e.1) :
    reported report prevStatus' entries = reported report prevStatus entries := by
  induction entries with
  | nil => rfl
  | cons e rest ih =>
    obtain ⟨hfirst, hrest⟩ := List.forall_mem_cons.mp h
    unfold reported changed
    rw [hfirst, ih hrest]

/-- The loop, at one instance: it stops there, or goes on with the rest as it would have. -/
theorem monitorAll_cons (hnone : tick.raised = none)
    (hnodup : ((e :: entries).map Prod.fst).Nodup) :
    (changed tick.prevStatus e = true ∧ (report e).escapes = true ∧
        monitorAll report tick (e :: entries) = monitorOne report tick e ∧
        reported report tick.prevStatus (e :: entries) = [e]) ∨
      (¬ (changed tick.prevStatus e = true ∧ (report e).escapes = true) ∧
        (monitorOne report tick e).raised = none ∧
        monitorAll report tick (e :: entries) = monitorAll report (monitorOne report tick e) entries ∧
        reported report tick.prevStatus (e :: entries) =
          (if changed tick.prevStatus e then [e] else []) ++
            reported report (monitorOne report tick e).prevStatus entries) := by
  have hraised := (monitorOne_spec report tick e).2.1
  rw [hnone, Option.isSome_none, Bool.false_or] at hraised
  by_cases hescapes : changed tick.prevStatus e = true ∧ (report e).escapes = true
  · refine .inl ⟨hescapes.1, hescapes.2, ?_, ?_⟩
    · rw [hescapes.1, hescapes.2, Bool.and_self] at hraised
      rw [monitorAll, if_pos hraised]
    · rw [reported, if_pos hescapes.1, if_pos hescapes.2]
  · have hgoes : (monitorOne report tick e).raised.isSome = false := by
      rw [hraised, ← Bool.not_eq_true, Bool.and_eq_true]
      exact hescapes
    have hcongr : reported report (monitorOne report tick e).prevStatus entries =
        reported report tick.prevStatus entries := by
      refine reported_congr fun e' he' => lookup_monitorOne fun heq => ?_
      exact (List.nodup_cons.mp hnodup).1 (heq ▸ List.mem_map_of_mem he')
    refine .inr ⟨hescapes, Option.isSome_eq_false_iff.mp hgoes |> Option.isNone_iff_eq_none.mp, ?_, ?_⟩
    · rw [monitorAll, hgoes, if_neg Bool.false_ne_true]
    · rw [reported, hcongr]
      by_cases hchanged : changed tick.prevStatus e = true
      · have hcaught : ¬ (report e).escapes = true := fun h => hescapes ⟨hchanged, h⟩
        rw [if_pos hchanged, if_neg hcaught, if_pos hchanged, List.singleton_append]
      · rw [if_neg hchanged, if_neg hchanged, List.nil_append]

/-- **The callbacks of a tick.** -/
theorem callbacks_monitorAll (hnone : tick.raised = none) (hnodup : (entries.map Prod.fst).Nodup) :
    (monitorAll report tick entries).callbacks = tick.callbacks ++
      (reported report tick.prevStatus entries).map fun e => (e, report e) := by
  induction entries generalizing tick with
  | nil => simp [monitorAll, reported]
  | cons e rest ih =>
    have hone := (monitorOne_spec report tick e).1
    rcases monitorAll_cons hnone hnodup with ⟨hchanged, -, hall, hreported⟩ | ⟨-, hgoes, hall, hreported⟩
    · rw [hall, hreported, hone, if_pos hchanged]
      rfl
    · rw [hall, ih hgoes (List.nodup_cons.mp hnodup).2, hone, hreported, List.map_append,
        List.append_assoc]
      split <;> rfl

/-- **What is remembered** of an instance that has no report that was taken. -/
theorem lookup_monitorAll_kept {key : String} (hnone : tick.raised = none)
    (hnodup : (entries.map Prod.fst).Nodup)
    (h : ∀ e ∈ reported report tick.prevStatus entries, e.1 = key → (report e).delivered = false) :
    (monitorAll report tick entries).prevStatus.lookup key = tick.prevStatus.lookup key := by
  induction entries generalizing tick with
  | nil => rfl
  | cons e rest ih =>
    have hfirst : changed tick.prevStatus e = true → e ∈ reported report tick.prevStatus (e :: rest) := by
      intro hchanged
      rw [reported, if_pos hchanged]
      split <;> exact List.mem_cons_self
    have hone : (monitorOne report tick e).prevStatus.lookup key = tick.prevStatus.lookup key := by
      by_cases hkey : key = e.1
      · exact lookup_monitorOne_kept (fun hchanged => h e (hfirst hchanged) hkey.symm) key
      · exact lookup_monitorOne hkey
    rcases monitorAll_cons hnone hnodup with ⟨-, -, hall, -⟩ | ⟨-, hgoes, hall, hreported⟩
    · rw [hall, hone]
    · rw [hall, ih hgoes (List.nodup_cons.mp hnodup).2 fun e' he' => ?_, hone]
      refine h e' ?_
      rw [hreported]
      exact List.mem_append_right _ he'

/-- What is remembered of one that has. -/
theorem lookup_monitorAll_delivered (hnone : tick.raised = none)
    (hnodup : (entries.map Prod.fst).Nodup) (he : e ∈ reported report tick.prevStatus entries)
    (hdelivered : (report e).delivered = true) :
    (monitorAll report tick entries).prevStatus.lookup e.1 = some e.2 := by
  induction entries generalizing tick with
  | nil => cases he
  | cons e' rest ih =>
    obtain ⟨hnot, hrest⟩ := List.nodup_cons.mp hnodup
    have hcaught := Outcome.not_escapes_of_delivered hdelivered
    rcases monitorAll_cons hnone hnodup with ⟨-, hescapes, -, hreported⟩ | ⟨-, hgoes, hall, hreported⟩
    · rw [hreported, List.mem_singleton] at he
      subst he
      rw [hcaught] at hescapes
      cases hescapes
    · rw [hall]
      rw [hreported, List.mem_append] at he
      rcases he with hfirst | hlater
      · by_cases hchanged : changed tick.prevStatus e' = true
        · rw [if_pos hchanged, List.mem_singleton] at hfirst
          subst hfirst
          -- No later instance has its name.
          rw [lookup_monitorAll_kept hgoes hrest fun e' he' heq => ?_]
          · exact lookup_monitorOne_delivered hchanged hdelivered
          · exact absurd (heq ▸ List.mem_map_of_mem ((reported_sublist _ _).subset he')) hnot
        · rw [if_neg hchanged] at hfirst
          cases hfirst
      · exact ih hgoes hrest hlater

end Loop

/-! ## One instance and another -/

/-- **The instances do not bear on each other**: every change is posted, it is remembered if and only
if the manager has taken it, and else what was remembered stays. -/
structure Isolated (prevStatus : List (String × String)) (statusMap : StatusMap) (tick : Tick) :
    Prop where
  attempted : ∀ e ∈ statusMap.entries, changed prevStatus e = true →
    ∃ outcome, (e, outcome) ∈ tick.callbacks
  advanced : ∀ e ∈ statusMap.entries, changed prevStatus e = true →
    (tick.prevStatus.lookup e.1 = some e.2 ↔ ∃ code < 400, (e, .ok code) ∈ tick.callbacks)
  kept : ∀ e ∈ statusMap.entries, (¬ ∃ code < 400, (e, .ok code) ∈ tick.callbacks) →
    tick.prevStatus.lookup e.1 = prevStatus.lookup e.1

variable {report : String × String → Outcome} {prevStatus entries : List (String × String)}

/-- **All changes are reported** if and only if none comes after one of which the report escapes. -/
theorem reported_all_iff (hnodup : (entries.map Prod.fst).Nodup) :
    (∀ e ∈ entries, changed prevStatus e = true → e ∈ reported report prevStatus entries) ↔
      entries.Pairwise fun e e' => changed prevStatus e = true → (report e).escapes = true →
        ¬ changed prevStatus e' = true := by
  induction entries with
  | nil => exact iff_of_true nofun .nil
  | cons e rest ih =>
    obtain ⟨hnot, hrest⟩ := List.nodup_cons.mp hnodup
    have hne : ∀ e' ∈ rest, e' ≠ e := fun e' he' heq => hnot (heq ▸ List.mem_map_of_mem he')
    rw [List.pairwise_cons, List.forall_mem_cons, ← ih hrest]
    by_cases hchanged : changed prevStatus e = true
    · by_cases hescapes : (report e).escapes = true
      · have hone : reported report prevStatus (e :: rest) = [e] := by
          rw [reported, if_pos hchanged, if_pos hescapes]
        simp only [hone, List.mem_singleton]
        refine ⟨fun h => ?_, fun h => ⟨fun _ => trivial, fun e' he' hc => ?_⟩⟩
        · have hunchanged : ∀ e' ∈ rest, ¬ changed prevStatus e' = true := fun e' he' hc =>
            hne e' he' (h.2 e' he' hc)
          exact ⟨fun e' he' _ _ => hunchanged e' he', fun e' he' hc => absurd hc (hunchanged e' he')⟩
        · exact absurd hc (h.1 e' he' hchanged hescapes)
      · have hcons : reported report prevStatus (e :: rest) =
            e :: reported report prevStatus rest := by
          rw [reported, if_pos hchanged, if_neg hescapes]
        simp only [hcons]
        refine ⟨fun h => ⟨fun e' _ _ hesc => absurd hesc hescapes, fun e' he' hc => ?_⟩,
          fun h => ⟨fun _ => List.mem_cons_self, fun e' he' hc => List.mem_cons_of_mem _ (h.2 e' he' hc)⟩⟩
        exact (List.mem_cons.mp (h.2 e' he' hc)).resolve_left (hne e' he')
    · have hskip : reported report prevStatus (e :: rest) = reported report prevStatus rest := by
        rw [reported, if_neg hchanged]
      simp only [hskip]
      exact ⟨fun h => ⟨fun e' _ hc => absurd hc hchanged, h.2⟩,
        fun h => ⟨fun hc => absurd hc hchanged, h.2⟩⟩

variable (post : StatusCallback → Outcome) (settings : Settings) (token : String)
  (statusMap : StatusMap)

/-- What becomes of the report of an instance. -/
abbrev answer (e : String × String) : Outcome := reportStatusChange post settings e.1 e.2 token

/-- The callbacks of a tick are the reports of its changes, with what became of them. -/
theorem mem_callbacks {e : String × String} {outcome : Outcome} :
    (e, outcome) ∈ (oneMonitorTick post settings prevStatus token statusMap).callbacks ↔
      e ∈ reported (answer post settings token) prevStatus statusMap.entries ∧
        outcome = answer post settings token e := by
  unfold oneMonitorTick
  rw [callbacks_monitorAll rfl statusMap.distinct, List.nil_append, List.mem_map]
  constructor
  · rintro ⟨e', he', ⟨⟩⟩
    exact ⟨he', rfl⟩
  · rintro ⟨he, rfl⟩
    exact ⟨e, he, rfl⟩

theorem taken_iff {e : String × String} :
    (∃ code < 400, (e, .ok code) ∈
        (oneMonitorTick post settings prevStatus token statusMap).callbacks) ↔
      e ∈ reported (answer post settings token) prevStatus statusMap.entries ∧
        (answer post settings token e).delivered = true := by
  simp only [mem_callbacks]
  constructor
  · rintro ⟨code, hcode, he, hanswer⟩
    refine ⟨he, ?_⟩
    rw [← hanswer]
    exact decide_eq_true hcode
  · rintro ⟨he, hdelivered⟩
    cases hanswer : answer post settings token e with
    | error error =>
      rw [hanswer] at hdelivered
      cases hdelivered
    | ok code =>
      rw [hanswer] at hdelivered
      exact ⟨code, of_decide_eq_true hdelivered, he, rfl⟩

/-- **The tick isolates the instances** if and only if no change comes after one of which the report
raised an exception other than those that are caught. -/
theorem isolated_iff :
    Isolated prevStatus statusMap (oneMonitorTick post settings prevStatus token statusMap) ↔
      statusMap.entries.Pairwise fun e e' => changed prevStatus e = true →
        (answer post settings token e).escapes = true → ¬ changed prevStatus e' = true := by
  rw [← reported_all_iff statusMap.distinct]
  constructor
  · intro h e he hchanged
    obtain ⟨outcome, hmem⟩ := h.attempted e he hchanged
    exact ((mem_callbacks post settings token statusMap).mp hmem).1
  · intro hall
    have hkept : ∀ e ∈ statusMap.entries,
        (¬ ∃ code < 400, (e, .ok code) ∈
          (oneMonitorTick post settings prevStatus token statusMap).callbacks) →
        (oneMonitorTick post settings prevStatus token statusMap).prevStatus.lookup e.1 =
          prevStatus.lookup e.1 := by
      intro e he hnot
      rw [taken_iff] at hnot
      refine lookup_monitorAll_kept rfl statusMap.distinct fun e' he' heq => ?_
      -- The names are distinct.
      have hvalue := lookup_entry statusMap.distinct ((reported_sublist _ _).subset he')
      rw [heq, lookup_entry statusMap.distinct he] at hvalue
      obtain rfl : e = e' := Prod.ext heq.symm (Option.some.inj hvalue)
      exact Bool.eq_false_iff.mpr fun hdelivered => hnot ⟨he', hdelivered⟩
    refine ⟨fun e he hchanged => ?_, fun e he hchanged => ?_, hkept⟩
    · exact ⟨_, (mem_callbacks post settings token statusMap).mpr ⟨hall e he hchanged, rfl⟩⟩
    · constructor
      · intro hlookup
        refine Classical.byContradiction fun hnot => ?_
        rw [hkept e he hnot] at hlookup
        exact changed_iff.mp hchanged hlookup
      · intro htaken
        obtain ⟨hreported, hdelivered⟩ := (taken_iff post settings token statusMap).mp htaken
        exact lookup_monitorAll_delivered rfl statusMap.distinct hreported hdelivered

/-- Two instances have stopped. -/
def stopped : StatusMap where
  entries := [("blog", "stopped"), ("wiki", "stopped")]
  distinct := by decide

/-- A manager that redirects the reports of one instance in a circle. -/
def redirects (request : StatusCallback) : Outcome :=
  if request.url = "https://api.greffon.io/api/greffer/instances/blog/" then .error .tooManyRedirects
  else .ok 200

/-- **The other instance** is never reported. -/
theorem redirect_starves : ¬ Isolated [] stopped (oneMonitorTick redirects {} [] "token" stopped) := by
  rw [isolated_iff]
  decide

end Greffer.Monitor

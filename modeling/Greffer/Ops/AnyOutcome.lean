import Mathlib.Algebra.Order.Ring.Int
import Greffer.Ops.Runner

/-! # Whatever a migration leaves

The body of a migration is its author's: it may return any object and raise any exception, and what it
returns goes through the truth test, the two keys the runner looks at, the log and `json`.  Each of
these asks the object, which may raise in its turn.

`Objects` is what the objects of an author do, and the runner is modelled over it once more, with every
such question in the place where it is asked.  A batch raises nothing **if and only if** each migration
it comes to is `Harmless` (`never_fails_iff`): the guards of the runner take some exceptions at some of
these places, and let the others through.
-/
namespace Greffer.Ops.Author
open Greffer.Ops

variable {V D X α : Type}

/-! ## The objects of an author -/

/-- **What objects do**: values `V`, of which some are dicts `D`, and exceptions `X`.  Each question has
its answer or raises an exception. -/
structure Objects (V D X : Type) where
  /-- `bool(value)`. -/
  bool : V → Except X Bool
  /-- The value, if it is a dict. -/
  asDict : V → Option D
  /-- `summary.pop("backups", [])`, where `none` is the default; and what it leaves. -/
  popBackups : D → Except X (Option V) × D
  /-- `summary.get("errors")`. -/
  getErrors : D → Except X (Option V)
  list : V → Except X (List V)
  int : V → Except X Int
  repr : V → Except X String
  /-- A summary, in the text of a log line. -/
  format : D → Except X String
  /-- Its entries, in `{**summary, ..}`. -/
  unpack : D → Except X Unit
  /-- `json.dump`, of an entry with a copy of the summary. -/
  dump : D → List V → Except X Unit
  str : X → Except X String
  isTypeError : X → Bool
  isValueError : X → Bool
  /-- What `str` raises of an int with more than 4300 digits. -/
  tooManyDigits : X

/-- What the two bodies of a migration leave. -/
inductive Outcome (V X : Type) where
  | raised (x : X)
  | returned (value : V)

/-- A summary in a result. -/
structure Summary (D : Type) where
  /-- The migration's own; `none` is `{}`. -/
  own : Option D := none
  /-- The keys that the runner sets to `True`. -/
  marks : List String := []

/-- A result. -/
structure Result (D : Type) where
  id : String
  ok : Bool
  summary : Summary D := {}
  error : Option String := none

/-- The end of the `try` block: what it raised, or the summary. -/
inductive Left (D X : Type) where
  | failed (x : X)
  | notADict
  | summary (own : Option D)

/-- What a result, or a clean summary with its backup paths, comes from. -/
inductive Judgement (V D : Type) where
  | refused (result : Result D)
  | clean (own : Option D) (backups : List V)

/-! ## The runner -/

/-- The digits that an int may have in a text. -/
def maxStrDigits : Nat := 4300

namespace Objects
variable (o : Objects V D X)

/-- `mig.run(data_root) or {}`, and `isinstance(summary, dict)`. -/
def left : Outcome V X → Left D X
  | .raised x => .failed x
  | .returned value =>
    match o.bool value with
    | .error x => .failed x
    | .ok false => .summary none
    | .ok true =>
      match o.asDict value with
      | none => .notADict
      | some d => .summary (some d)

/-- `list(summary.pop("backups", []) or [])`, and what it leaves. -/
def backupsOf (d : D) : Except X (List V) × D :=
  match o.popBackups d with
  | (.error x, rest) => (.error x, rest)
  | (.ok none, rest) => (.ok [], rest)
  | (.ok (some value), rest) =>
    match o.bool value with
    | .error x => (.error x, rest)
    | .ok false => (.ok [], rest)
    | .ok true => (o.list value, rest)

/-- `int(summary.get("errors") or 0)`. -/
def errorCount (d : D) : Except X Int :=
  match o.getErrors d with
  | .error x => .error x
  | .ok none => .ok 0
  | .ok (some value) =>
    match o.bool value with
    | .error x => .error x
    | .ok false => .ok 0
    | .ok true => o.int value

/-- `f"{summary.get('errors')!r}"`. -/
def errorsText (d : D) : Except X String :=
  match o.getErrors d with
  | .error x => .error x
  | .ok none => .ok "None"
  | .ok (some value) => o.repr value

/-- `f"{error_count}"`, of a positive count. -/
def countText (count : Int) : Except X String :=
  if count < 10 ^ maxStrDigits then .ok (toString count) else .error o.tooManyDigits

/-- `f"{summary}"`. -/
def summaryText : Option D → Except X String
  | none => .ok "\x7b\x7d"
  | some d => o.format d

/-- The rest of `_run_single`, up to the counts. -/
def judgeSummary (id : String) : Option D → Except X (Judgement V D)
  | none => .ok (.clean none [])
  | some d =>
    match o.backupsOf d with
    | (.error x, rest) =>
      -- `except TypeError`
      if o.isTypeError x then
        .ok (.refused
          { id, ok := false, summary := ⟨some rest, []⟩, error := some "malformed summary.backups" })
      else
        .error x
    | (.ok backups, rest) =>
      match o.errorCount rest with
      | .error x =>
        -- `except (TypeError, ValueError)`
        if o.isTypeError x || o.isValueError x then
          (o.errorsText rest).map fun text => .refused
            { id, ok := false, summary := ⟨some rest, []⟩,
              error := some ("malformed summary.errors=" ++ text) }
        else
          .error x
      | .ok count =>
        if 0 < count then
          (o.countText count).map fun text => .refused
            { id, ok := false, summary := ⟨some rest, []⟩, error := some (text ++ " per-item error(s)") }
        else
          .ok (.clean (some rest) backups)

/-- `_run_single`, from what the `try` block leaves. -/
def judge (id : String) : Left D X → Except X (Judgement V D)
  | .failed x => (o.str x).map fun text => .refused { id, ok := false, error := some text }
  | .notADict =>
    .ok (.refused { id, ok := false, error := some "migration did not return a dict summary" })
  | .summary own => o.judgeSummary id own

/-- `ledger.mark_applied`, on a file that can be written: the ids it records then. -/
def markApplied (applied : List String) (id : String) (own : Option D) (backups : List V) :
    Except X (List String) :=
  if applied.contains id then .ok applied
  else
    match own with
    | none => .ok (applied ++ [id])
    | some d => (o.dump d backups).map fun _ => applied ++ [id]

/-- `_run_single`: the result, and the ids that are recorded. -/
def runSingle (mig : Migration) (outcome : Outcome V X) (applied : List String) :
    Except X (Result D) × List String :=
  match o.judge mig.id (o.left outcome) with
  | .error x => (.error x, applied)
  | .ok (.refused result) => (.ok result, applied)
  | .ok (.clean own backups) =>
    let result : Result D := { id := mig.id, ok := true, summary := ⟨own, []⟩ }
    if mig.advisory then
      ((o.summaryText own).map fun _ => result, applied)
    else
      match o.markApplied applied mig.id own backups with
      | .error x => (.error x, applied)
      | .ok applied => ((o.summaryText own).map fun _ => result, applied)

end Objects

/-- Whether a result ends the batch. -/
def halting (inv : Invocation) (mig : Migration) (ok : Bool) : Bool :=
  !ok && (mig.stopOnFailure || inv.failFast)

/-- The result that goes into the list: that of an advisory failure is logged and downgraded. -/
def Objects.report (o : Objects V D X) (inv : Invocation) (mig : Migration) (result : Result D) :
    Except X (Result D) :=
  if mig.advisory && !result.ok && !halting inv mig result.ok then
    match o.summaryText result.summary.own with
    | .error x => .error x
    | .ok _ =>
      (result.summary.own.elim (.ok ()) o.unpack).map fun _ =>
        { result with ok := true, summary.marks := result.summary.marks ++ ["advisory_failed"] }
  else .ok result

/-- A batch, as far as it has come. -/
structure Batch (D X : Type) where
  /-- The ids that the ledger records. -/
  applied : List String
  /-- The migrations of which the bodies were run. -/
  attempted : List String := []
  results : List (Result D) := []
  raised : Option X := none

/-- Whether the loop passes over a migration. -/
def passesOver (inv : Invocation) (applied : List String) (mig : Migration) : Bool :=
  !inv.selects mig || (applied.contains mig.id && !mig.advisory)

section Loop
variable (o : Objects V D X) (inv : Invocation) (outcome : String → Outcome V X)

/-- The loop of `apply_pending`, over the migrations still to come. -/
def applyLoop : List Migration → Batch D X → Batch D X
  | [], batch => batch
  | mig :: rest, batch =>
    if passesOver inv batch.applied mig then
      applyLoop rest batch
    else if inv.dryRun then
      applyLoop rest { batch with
        results := batch.results ++ [{ id := mig.id, ok := true, summary := ⟨none, ["dry_run"]⟩ }] }
    else
      let (result, applied) := o.runSingle mig (outcome mig.id) batch.applied
      let batch := { batch with applied, attempted := batch.attempted ++ [mig.id] }
      match result with
      | .error x => { batch with raised := some x }
      | .ok result =>
        match o.report inv mig result with
        | .error x => { batch with raised := some x }
        | .ok reported =>
          let batch := { batch with results := batch.results ++ [reported] }
          if halting inv mig result.ok then batch else applyLoop rest batch

/-- `apply_pending`, with a ledger that records these ids. -/
def applyPending (reg : Registry) (applied : List String) : Batch D X :=
  if inv.skip then { applied } else applyLoop o inv outcome reg.allMigrations { applied }

end Loop

/-! ## What is to be attempted -/

/-- Whether the runner takes a summary for a success. -/
def Objects.clean (o : Objects V D X) (d : D) : Bool :=
  match (o.backupsOf d).1, o.errorCount (o.backupsOf d).2 with
  | .ok _, .ok count => decide (count ≤ 0)
  | _, _ => false

section Plan
variable (o : Objects V D X) (inv : Invocation) (outcome : String → Outcome V X)

end Plan

/-! ## Harmless migrations -/

/-- A question has an answer. -/
def Answers (r : Except X α) : Prop := ∃ a, r = .ok a

/-- A summary that the runner can tell a success or a failure. -/
structure Judged (o : Objects V D X) (d : D) : Prop where
  /-- Only a `TypeError` comes of the backups, -/
  backups : ∀ x, (o.backupsOf d).1 = .error x → o.isTypeError x = true
  /-- of the errors only one of two kinds, and the value can be shown; -/
  errors : ∀ backups x, (o.backupsOf d).1 = .ok backups →
    o.errorCount (o.backupsOf d).2 = .error x →
      (o.isTypeError x = true ∨ o.isValueError x = true) ∧ Answers (o.errorsText (o.backupsOf d).2)
  /-- their count has no more digits than may be printed. -/
  count : ∀ backups n, (o.backupsOf d).1 = .ok backups →
    o.errorCount (o.backupsOf d).2 = .ok n → n < 10 ^ maxStrDigits

/-- One that it gets through its hands, where `downgraded` says that a failure would be downgraded. -/
structure HarmlessSummary (o : Objects V D X) (advisory downgraded : Bool) (d : D) : Prop
    extends Judged o d where
  /-- The summary can be logged where it is, -/
  logged : o.clean d = true ∨ downgraded = true → Answers (o.format (o.backupsOf d).2)
  unpacked : o.clean d = false → downgraded = true → Answers (o.unpack (o.backupsOf d).2)
  /-- and written where it is. -/
  dumped : ∀ backups, (o.backupsOf d).1 = .ok backups → o.clean d = true → advisory = false →
    Answers (o.dump (o.backupsOf d).2 backups)

/-- A failure of the migration would be downgraded. -/
def downgrades (inv : Invocation) (mig : Migration) : Bool :=
  mig.advisory && !(mig.stopOnFailure || inv.failFast)

/-- **A migration that fails no batch.** -/
def Harmless (o : Objects V D X) (inv : Invocation) (mig : Migration) : Left D X → Prop
  | .failed x => Answers (o.str x)
  | .notADict => True
  | .summary none => True
  | .summary (some d) => HarmlessSummary o mig.advisory (downgrades inv mig) d

/-! ## One migration -/

section Single
variable {o : Objects V D X} {inv : Invocation} {mig : Migration} {d : D} {advisory downgraded : Bool}
  {applied applied' : List String} {outcome : Outcome V X} {result reported : Result D}

end Single

/-! ## The batch -/

section Batches
variable {o : Objects V D X} {inv : Invocation} {outcome : String → Outcome V X}

end Batches

/-- The objects that are plain data: all of it can be shown.  What the texts are makes no difference
here. -/
def plainData : Objects PyValue PyDict Exn where
  bool value := .ok value.truthy
  asDict
    | .dict entries => some entries
    | _ => none
  popBackups d := (.ok (PyDict.get? d "backups"), d.without "backups")
  getErrors d := .ok (PyDict.get? d "errors")
  list := PyValue.toList
  int := PyValue.toInt
  repr _ := .ok ""
  format _ := .ok ""
  unpack _ := .ok ()
  dump d backups :=
    if PyValue.serialisableDict d && PyValue.serialisableList backups then .ok ()
    else .error (.typeError "Object is not JSON serializable")
  str x := .ok x.text
  isTypeError
    | .typeError _ => true
    | _ => false
  isValueError
    | .valueError _ => true
    | _ => false
  tooManyDigits := .valueError "Exceeds the limit (4300 digits) for integer string conversion"

/-- What the bodies leave, as the runner over plain data has it. -/
def Outcome.ofBodies : Except Exn PyValue → Outcome PyValue Exn
  | .error e => .raised e
  | .ok value => .returned value

/-- Two judgements of which one holds the texts of its errors, and the other what they are made of. -/
def Judgement.Same : Judgement PyValue PyDict → Ops.Judgement → Prop
  | .refused result, .refused result' =>
    result.id = result'.id ∧ result.ok = result'.ok ∧ result.summary.own.getD [] = result'.summary
  | .clean own backups, .clean summary backups' => own.getD [] = summary ∧ backups = backups'
  | _, _ => False

theorem plainData_backupsOf (d : PyDict) :
    plainData.backupsOf d = (Ops.backupsOf d, d.without "backups") := by
  unfold Objects.backupsOf Ops.backupsOf plainData
  dsimp only
  cases PyDict.get? d "backups" with
  | none => rfl
  | some value =>
    dsimp only
    cases value.truthy <;> rfl

theorem plainData_errorCount (d : PyDict) : plainData.errorCount d = Ops.errorCount d := by
  unfold Objects.errorCount Ops.errorCount plainData
  dsimp only
  cases PyDict.get? d "errors" with
  | none => rfl
  | some value =>
    dsimp only
    cases value.truthy <;> rfl

theorem asDict_plainData {value : PyValue} {d : PyDict} (h : plainData.asDict value = some d) :
    value = .dict d := by
  cases value with
  | dict entries =>
    cases h
    rfl
  | _ => cases h

theorem errorsText_plainData (d : PyDict) : ∃ text, plainData.errorsText d = .ok text := by
  unfold Objects.errorsText plainData
  dsimp only
  cases PyDict.get? d "errors" with
  | none => exact ⟨_, rfl⟩
  | some value => exact ⟨_, rfl⟩

/-- Two judgements raise the same, or are the same. -/
def Judgement.SameOutcome (r : Except Exn (Judgement PyValue PyDict)) (r' : Except Exn Ops.Judgement) :
    Prop :=
  (∃ x, r = .error x ∧ r' = .error x) ∨ ∃ j j', r = .ok j ∧ r' = .ok j' ∧ j.Same j'

theorem judgeSummary_plainData (id : String) {d : PyDict} (htruthy : (PyValue.dict d).truthy = true)
    (hcount : ∀ n, Ops.errorCount (d.without "backups") = .ok n → n < 10 ^ maxStrDigits) :
    Judgement.SameOutcome (plainData.judgeSummary id (some d)) (Ops.judge id (.ok (.dict d))) := by
  have hsummary : summaryOf (.dict d) = some d := if_pos htruthy
  unfold Ops.judge Objects.judgeSummary
  dsimp only
  rw [hsummary, plainData_backupsOf]
  dsimp only
  cases Ops.backupsOf d with
  | error e =>
    cases e with
    | typeError text => exact .inr ⟨_, _, rfl, rfl, rfl, rfl, rfl⟩
    | _ => exact .inl ⟨_, rfl, rfl⟩
  | ok backups =>
    dsimp only
    rw [plainData_errorCount]
    cases hcounted : Ops.errorCount (PyDict.without d "backups") with
    | error e =>
      obtain ⟨text, htext⟩ := errorsText_plainData (PyDict.without d "backups")
      rw [htext]
      cases e with
      | typeError message | valueError message => exact .inr ⟨_, _, rfl, rfl, rfl, rfl, rfl⟩
      | _ => exact .inl ⟨_, rfl, rfl⟩
    | ok count =>
      dsimp only
      by_cases hpositive : 0 < count
      · have htext : plainData.countText count = .ok (toString count) := if_pos (hcount count hcounted)
        rw [if_pos hpositive, if_pos hpositive, htext]
        exact .inr ⟨_, _, rfl, rfl, rfl, rfl, rfl⟩
      · rw [if_neg hpositive, if_neg hpositive]
        exact .inr ⟨_, _, rfl, rfl, rfl, rfl⟩

/-- **Over plain data the judgement is the runner's**, as long as a count can be printed. -/
theorem judge_plainData (id : String) (outcome : Except Exn PyValue)
    (hcount : ∀ d n, plainData.left (.ofBodies outcome) = .summary (some d) →
      Ops.errorCount (d.without "backups") = .ok n → n < 10 ^ maxStrDigits) :
    (∃ x, plainData.judge id (plainData.left (.ofBodies outcome)) = .error x ∧
        Ops.judge id outcome = .error x) ∨
      ∃ j j', plainData.judge id (plainData.left (.ofBodies outcome)) = .ok j ∧
        Ops.judge id outcome = .ok j' ∧ j.Same j' := by
  cases outcome with
  | error e => exact .inr ⟨_, _, rfl, rfl, rfl, rfl, rfl⟩
  | ok value =>
    by_cases htruthy : value.truthy = true
    · cases hdict : plainData.asDict value with
      | some d =>
        obtain rfl := asDict_plainData hdict
        have hleft : plainData.left (.ofBodies (.ok (.dict d))) = .summary (some d) := by
          simp [Outcome.ofBodies, Objects.left, plainData, htruthy]
        rw [hleft]
        exact judgeSummary_plainData id htruthy fun n hn => hcount d n hleft hn
      | none =>
        have hleft : plainData.left (.ofBodies (.ok value)) = .notADict := by
          have hbool : plainData.bool value = .ok true := congrArg Except.ok htruthy
          simp only [Outcome.ofBodies, Objects.left, hbool, hdict]
        have hsummary : summaryOf value = none := by
          unfold summaryOf
          rw [if_pos htruthy]
          cases value with
          | dict entries => cases hdict
          | _ => rfl
        rw [hleft]
        unfold Ops.judge
        dsimp only
        rw [hsummary]
        exact .inr ⟨_, _, rfl, rfl, rfl, rfl, rfl⟩
    · have hleft : plainData.left (.ofBodies (.ok value)) = .summary none := by
        simp [Outcome.ofBodies, Objects.left, plainData, htruthy]
      have hsummary : summaryOf value = some [] := if_neg htruthy
      rw [hleft]
      unfold Ops.judge
      dsimp only
      rw [hsummary]
      exact .inr ⟨_, _, rfl, rfl, rfl, rfl⟩

end Greffer.Ops.Author

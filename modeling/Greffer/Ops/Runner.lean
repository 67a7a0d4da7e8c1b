import Greffer.Ops.Registry

/-! # The runner

`applyPending` applies the unapplied migrations in order.  `runSingle` runs one:
it judges what the body left (`judge`), and records the migration as its last
step, only if the judgement is clean and the migration is not advisory.
-/
namespace Greffer.Ops
open Effects

/-- Why a result is a failure. -/
inductive Failure where
  /-- A body raised; `str(e)`. -/
  | raised (text : String)
  /-- `migration did not return a dict summary`. -/
  | notASummary
  /-- `malformed summary.backups`. -/
  | malformedBackups
  /-- `malformed summary.errors=...`, with the value. -/
  | malformedErrors (value : Option PyValue)
  /-- `n per-item error(s)`. -/
  | perItem (count : Int)

/-- What the runner reports for one migration of a batch. -/
structure Result where
  id : String
  ok : Bool
  summary : PyDict
  error : Option Failure

/-- What a body's outcome is worth: a failure to report, or a clean summary with
its backup paths. -/
inductive Judgement where
  | refused (result : Result)
  | clean (summary : PyDict) (backups : List PyValue)

/-- `mig.run(data_root) or {}`, if it is a dict. -/
def summaryOf (value : PyValue) : Option PyDict :=
  if value.truthy then
    match value with
    | .dict entries => some entries
    | _ => none
  else some []

/-- `list(summary.pop("backups", []) or [])`. -/
def backupsOf (summary : PyDict) : Except Exn (List PyValue) :=
  match PyDict.get? summary "backups" with
  | some v => if v.truthy then v.toList else .ok []
  | none => .ok []

/-- `int(summary.get("errors") or 0)`. -/
def errorCount (summary : PyDict) : Except Exn Int :=
  match PyDict.get? summary "errors" with
  | some v => if v.truthy then v.toInt else .ok 0
  | none => .ok 0

/-- The middle of `_run_single`: from what the two bodies left to a judgement.
What it raises, `apply_pending` raises. -/
def judge (id : String) : Except Exn PyValue → Except Exn Judgement
  | .error e => .ok (.refused ⟨id, false, [], some (.raised e.text)⟩)
  | .ok value =>
    match summaryOf value with
    | none => .ok (.refused ⟨id, false, [], some .notASummary⟩)
    | some returned =>
      let summary := PyDict.without returned "backups"
      match backupsOf returned with
      | .error (.typeError _) => .ok (.refused ⟨id, false, summary, some .malformedBackups⟩)
      | .error e => .error e
      | .ok backups =>
        match errorCount summary with
        -- `except (TypeError, ValueError)`
        | .error (.typeError _) | .error (.valueError _) =>
          .ok (.refused ⟨id, false, summary,
            some (.malformedErrors (PyDict.get? summary "errors"))⟩)
        | .error e => .error e
        | .ok count =>
          if count > 0 then .ok (.refused ⟨id, false, summary, some (.perItem count)⟩)
          else .ok (.clean summary backups)

/-- The `try` block of `_run_single`. -/
def Migration.bodies (mig : Migration) : Script PyValue := do
  mig.checkPreconditions
  mig.run

theorem Migration.bodies_of_external {mig : Migration}
    (h : mig = .external mig.id mig.description mig.stopOnFailure mig.advisory) :
    mig.bodies = (do
      call (.checkPreconditions mig.id)
      call (.runMigration mig.id)) := by
  rw [h]
  rfl

/-- The end of `_run_single`: a clean migration that is not advisory is recorded,
as the last step. -/
def conclude (mig : Migration) (ledger : Ledger) : Judgement → Script (Result × Ledger)
  | .refused result => return (result, ledger)
  | .clean summary backups => do
    if mig.advisory then
      return (⟨mig.id, true, summary, none⟩, ledger)
    let ledger ← ledger.markApplied mig.id summary backups
    return (⟨mig.id, true, summary, none⟩, ledger)

/-- `_run_single`: the result, and the ledger with the migration recorded if it
was. -/
def runSingle (mig : Migration) (ledger : Ledger) : Script (Result × Ledger) := do
  let outcome ← mig.bodies.outcome
  let judgement ← Action.ofExcept (judge mig.id outcome)
  conclude mig ledger judgement

/-- The arguments of `apply_pending`, and the `GREFFER_SKIP_OPS_MIGRATIONS`
switch. -/
structure Invocation where
  only : Option String := none
  dryRun : Bool := false
  failFast : Bool := false
  skip : Bool := false

namespace Invocation
variable (inv : Invocation)

/-- Whether `only` leaves the migration in the batch. -/
def selects (mig : Migration) : Bool :=
  match inv.only with
  | some id => mig.id == id
  | none => true

/-- Whether the loop passes over the migration without looking at it further. -/
def passesOver (ledger : Ledger) (mig : Migration) : Bool :=
  !inv.selects mig || (ledger.isApplied mig.id && !mig.advisory)

/-- Whether a result ends the batch. -/
def halting (mig : Migration) (result : Result) : Bool :=
  !result.ok && (mig.stopOnFailure || inv.failFast)

/-- The result that goes into the list: an advisory failure that does not halt
the batch is downgraded to a non-gating one. -/
def reported (mig : Migration) (result : Result) : Result :=
  if mig.advisory && !result.ok && !inv.halting mig result then
    { result with ok := true, summary := PyDict.set result.summary "advisory_failed" (.bool true) }
  else result

theorem halting_iff {mig : Migration} {result : Result} : inv.halting mig result = true ↔
    result.ok = false ∧ (mig.stopOnFailure = true ∨ inv.failFast = true) := by
  simp [halting]

/-- A result that halts the batch is reported as it is. -/
theorem reported_of_halting {mig : Migration} {result : Result}
    (h : inv.halting mig result = true) : inv.reported mig result = result := by
  simp [reported, h]

theorem reported_of_not_advisory {mig : Migration} (h : mig.advisory = false) (result : Result) :
    inv.reported mig result = result := by
  simp [reported, h]

end Invocation

/-- The loop of `apply_pending` over the migrations still to come. -/
def applyLoop (inv : Invocation) : List Migration → Ledger → Script (List Result)
  | [], _ => return []
  | mig :: rest, ledger => do
    if inv.passesOver ledger mig then
      applyLoop inv rest ledger
    else if inv.dryRun then
      let results ← applyLoop inv rest ledger
      return ⟨mig.id, true, [("dry_run", .bool true)], none⟩ :: results
    else
      let (result, ledger) ← runSingle mig ledger
      if inv.halting mig result then
        return [inv.reported mig result]
      else
        let results ← applyLoop inv rest ledger
        return inv.reported mig result :: results

/-- `apply_pending`. -/
def applyPending (reg : Registry) (inv : Invocation) : Script (List Result) := do
  if inv.skip then
    return []
  let ledger ← Ledger.load
  applyLoop inv reg.allMigrations ledger

end Greffer.Ops

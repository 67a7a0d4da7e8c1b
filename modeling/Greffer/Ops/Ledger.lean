import Greffer.Effects.Routine
import Greffer.Python.Value

/-! # The ledger of applied migrations

`$GREFFON_PATH/.greffer-migrations.json` records which operational migrations
have been applied.  A `Ledger` is the in-memory view of it, loaded at the start
of a batch and written through on every `markApplied`.  `LedgerFile` is what may
be on disk: nothing, a JSON object, or a file the loader cannot turn into one.

Writes are atomic (a sibling temporary file, then `os.replace`), so a write is
one call that either lands or leaves the old file in place.
-/
namespace Greffer.Ops
open Effects

/-- One applied migration. -/
structure Entry where
  id : String
  summary : PyDict
  backups : List PyValue

/-- The ledger object: `version`, `applied`, and every other top-level key, which
is kept from load to write. -/
structure Ledger where
  version : Int
  applied : List Entry
  others : PyDict

/-- Why a ledger file that exists gives no ledger object. -/
inductive Damage where
  /-- `open` or `read` raised `OSError`. -/
  | unreadable (text : String)
  /-- `json.load` raised `JSONDecodeError`. -/
  | notJson (text : String)
  /-- The file parses, but not to an object. -/
  | notAnObject
  /-- The bytes are not UTF-8: `UnicodeDecodeError`, which is a `ValueError` but
  not a `JSONDecodeError`. -/
  | undecodable (text : String)
  deriving DecidableEq

/-- What is on disk at the ledger's path. -/
inductive LedgerFile where
  | absent
  | damaged (d : Damage)
  | object (data : Ledger)

/-- One top-level volume of a compose file: its key and its `name:` override, if
it has one.  Either may be something other than text, which is `none`. -/
structure VolumeDecl where
  key : Option String
  name : Option (Option String) := none

/-- What a rendered `docker-compose.yml` says about its top-level volumes. -/
inductive ComposeFile where
  /-- `open` raised `OSError`, or the text is not YAML. -/
  | unreadable
  /-- The YAML has no `.get`: reading it raises `AttributeError`. -/
  | malformed
  /-- No top-level `volumes` mapping. -/
  | noVolumes
  | volumes (declared : List VolumeDecl)

/-- The calls of the migration framework: the file system under the data root,
the bodies of migrations, and docker. -/
inductive OpsCall where
  | readLedger
  | replaceLedger (data : Ledger)
  | sentinelExists
  | unlinkSentinel
  /-- `mig.check_preconditions(data_root)`. -/
  | checkPreconditions (id : String)
  /-- `mig.run(data_root)`, of a migration taken as a whole. -/
  | runMigration (id : String)
  | isDataRoot
  | listDataRoot
  | isCompose (instanceId : String)
  | readCompose (instanceId : String)
  /-- `docker volume inspect`: whether the exit code is 0. -/
  | volumeInspect (name : String)
  /-- `docker volume create`, with `check=True`. -/
  | volumeCreate (name : String)
  /-- `docker run --rm -v src:/from:ro -v dst:/to alpine:3.20 sh -c 'cp -a /from/. /to/'`,
  with `check=True`. -/
  | runCopy (src dst : String)

/-- What each call answers when it raises nothing. -/
@[reducible] def Answer : OpsCall → Type
  | .readLedger => LedgerFile
  | .sentinelExists | .isDataRoot | .isCompose _ | .volumeInspect _ => Bool
  | .runMigration _ => PyValue
  | .listDataRoot => List String
  | .readCompose _ => ComposeFile
  | .replaceLedger _ | .unlinkSentinel | .checkPreconditions _ | .volumeCreate _
  | .runCopy _ _ => Unit

/-- Code of the migration framework. -/
abbrev Script := Action Answer Exn

/-- Make one call. -/
abbrev call (c : OpsCall) : Script (Answer c) := Action.perform c

namespace Ledger

/-- `CURRENT_VERSION`. -/
def currentVersion : Int := 1

/-- `LEGACY_SENTINEL_MIGRATES`. -/
def legacySentinelMigrates : String := "0001_namespace_catalog_volumes"

/-- The view of a ledger that records nothing. -/
def empty : Ledger := ⟨currentVersion, [], []⟩

/-- The empty view of a damaged ledger, with the reason kept in the data. -/
def withReadError (text : String) : Ledger := { empty with others := [("_read_error", .str text)] }

/-- `ledger.applied_ids`. -/
def appliedIds (l : Ledger) : List String := l.applied.map Entry.id

/-- `ledger.is_applied(id)`. -/
def isApplied (l : Ledger) (id : String) : Bool := l.appliedIds.contains id

/-- The ledger with one more entry. -/
def record (l : Ledger) (e : Entry) : Ledger := { l with applied := l.applied ++ [e] }

@[simp] theorem appliedIds_record (l : Ledger) (e : Entry) :
    (l.record e).appliedIds = l.appliedIds ++ [e.id] := by
  simp [appliedIds, record]

@[simp] theorem isApplied_iff (l : Ledger) (id : String) : l.isApplied id = true ↔ id ∈ l.appliedIds := by
  simp [isApplied]

/-- Whether `json.dump` accepts an entry. -/
def Serialisable (e : Entry) : Bool :=
  PyValue.serialisableDict e.summary && PyValue.serialisableList e.backups

/-- `_atomic_write`: `json.dump` raises on a value it cannot write; otherwise the
file is replaced, or the write raises and the old file stays. -/
def atomicWrite (l : Ledger) : Script Unit :=
  if l.applied.all Serialisable then call (.replaceLedger l)
  else .raise (.typeError "Object is not JSON serializable")

/-- `_read_or_empty`. -/
def readOrEmpty : Script Ledger := do
  match ← call .readLedger with
  | .absent => pure empty
  -- `except (OSError, json.JSONDecodeError)`
  | .damaged (.unreadable text) => pure (withReadError text)
  | .damaged (.notJson text) => pure (withReadError text)
  | .damaged .notAnObject => pure (withReadError "not-an-object")
  | .damaged (.undecodable text) => .raise (.valueError text)
  | .object data => pure data

/-- `except OSError: pass` around an unlink. -/
def unlinkIgnoringOSError : Script Unit :=
  (call .unlinkSentinel).tryExcept fun
    | .osError _ => pure ()
    | e => .raise e

/-- `_apply_legacy_sentinel_shim`: a sentinel file of the pre-framework release
stands for one applied migration; record it, persist, then drop the sentinel. -/
def applyLegacySentinelShim (data : Ledger) : Script Ledger := do
  if !(← call .sentinelExists) then
    return data
  if data.isApplied legacySentinelMigrates then
    unlinkIgnoringOSError
    return data
  let data := data.record
    ⟨legacySentinelMigrates, [("source", .str "legacy-sentinel-shim")], []⟩
  data.atomicWrite
  unlinkIgnoringOSError
  return data

/-- `Ledger.load`. -/
def load : Script Ledger := do
  let data ← readOrEmpty
  applyLegacySentinelShim data

/-- `ledger.mark_applied`: the ledger with the new entry, once it is written. -/
def markApplied (l : Ledger) (id : String) (summary : PyDict) (backups : List PyValue) :
    Script Ledger := do
  if l.isApplied id then
    return l
  let l := l.record ⟨id, summary, backups⟩
  l.atomicWrite
  return l

end Ledger

end Greffer.Ops

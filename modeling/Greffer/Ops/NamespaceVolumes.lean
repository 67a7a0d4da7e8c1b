import Greffer.Ops.Runner

/-! # The volume-namespacing migrations

Migrations 0001 and 0003 copy the docker volumes that instances still use under
a raw name into new ones named `<instance_id>_<name>`.  They share the scan over
the instances and the treatment of one volume (`moveVolume`); they differ in
which volumes of a compose file they take to be raw (`catalogPair`,
`undeclaredPair`).

Both are per-item: a docker failure on one volume counts as an error and the
scan goes on.  A volume whose target already exists is skipped.
-/
namespace Greffer.Ops
open Effects

/-- `s.startswith(pre)`. -/
def startsWith (s pre : String) : Bool := pre.toList.isPrefixOf s.toList

/-- The `summary` dict of both bodies. -/
structure Tally where
  migrated : Nat := 0
  skipped : Nat := 0
  errors : Nat := 0

namespace Tally

/-- The dict a body returns. -/
def summary (t : Tally) : PyValue :=
  .dict [("migrated", .int t.migrated), ("skipped", .int t.skipped), ("errors", .int t.errors)]

def skip (t : Tally) : Tally := { t with skipped := t.skipped + 1 }

def migrate (t : Tally) : Tally := { t with migrated := t.migrated + 1 }

def fail (t : Tally) : Tally := { t with errors := t.errors + 1 }

end Tally

/-- What a migration makes of one declared volume of an instance: a raw source and
its target, or nothing to do, or `AttributeError`. -/
abbrev PairRule := String → VolumeDecl → Except Exn (Option (String × String))

/-- `AttributeError` of `.startswith` on something other than text. -/
def noStartswith : Exn := .attributeError "object has no attribute 'startswith'"

/-- 0001: a declared volume under the name the compose gives it. -/
def catalogPair : PairRule := fun instanceId decl =>
  let pre := instanceId ++ "_"
  match decl.name.getD decl.key with
  | none => .error noStartswith
  | some effective =>
    if startsWith effective pre then .ok none
    else
      match decl.key with
      | none => .error noStartswith
      | some declared =>
        if startsWith declared pre then .ok none
        else if effective = instanceId ++ "_" ++ declared then .ok none
        else .ok (some (effective, instanceId ++ "_" ++ declared))

/-- 0003: every top-level key that is not namespaced. -/
def undeclaredPair : PairRule := fun instanceId decl =>
  match decl.key with
  | none => .error noStartswith
  | some effective =>
    if startsWith effective (instanceId ++ "_") then .ok none
    else .ok (some (effective, instanceId ++ "_" ++ effective))

/-- Copy one raw volume into its target, unless there is nothing to copy or the
target is already there. -/
def moveVolume (source target : String) (t : Tally) : Script Tally := do
  if !(← call (.volumeInspect source)) then
    return t.skip
  if ← call (.volumeInspect target) then
    return t.skip
  Action.tryExcept (do
      call (.volumeCreate target)
      call (.runCopy source target)
      return t.migrate)
    fun
    | .calledProcessError _ => return t.fail
    | e => .raise e

/-- The inner loop, over the volumes of one compose file. -/
def visitVolumes (rule : PairRule) (instanceId : String) :
    List VolumeDecl → Tally → Script Tally
  | [], t => return t
  | decl :: rest, t => do
    match ← Action.ofExcept (rule instanceId decl) with
    | none => visitVolumes rule instanceId rest t.skip
    | some (source, target) => do
      let t ← moveVolume source target t
      visitVolumes rule instanceId rest t

/-- One compose file. -/
def visitCompose (rule : PairRule) (instanceId : String) (compose : ComposeFile) (t : Tally) :
    Script Tally :=
  match compose with
  | .unreadable | .noVolumes => return t
  | .malformed => .raise (.attributeError "object has no attribute 'get'")
  | .volumes declared => visitVolumes rule instanceId declared t

/-- Whether an entry of the data root is passed over although it has a compose. -/
def hiddenEntry (instanceId : String) : Bool :=
  startsWith instanceId "." || instanceId.toList.contains '/'

/-- The outer loop, over the entries of the data root. -/
def scanInstances (rule : PairRule) : List String → Tally → Script Tally
  | [], t => return t
  | instanceId :: rest, t => do
    if !(← call (.isCompose instanceId)) then
      scanInstances rule rest t
    else if hiddenEntry instanceId then
      scanInstances rule rest t
    else
      let compose ← call (.readCompose instanceId)
      let t ← visitCompose rule instanceId compose t
      scanInstances rule rest t

/-- `run`, of both migrations. -/
def namespaceVolumes (rule : PairRule) : Script PyValue := do
  if !(← call .isDataRoot) then
    return Tally.summary {}
  let entries ← call .listDataRoot
  let t ← scanInstances rule (entries.insertionSort (· ≤ ·)) {}
  return t.summary

/-- 0001. -/
def namespaceCatalogVolumes : Migration where
  id := "0001_namespace_catalog_volumes"
  description := "Copy pre-fix shared docker volumes (db_data, nextcloud_data, …) into " ++
    "their new per-instance <uuid>_<name> counterparts so existing " ++
    "greffons survive the volume-namespacing change."
  run := namespaceVolumes catalogPair

/-- 0002, taken whole: it purges key material and touches no volume. -/
def purgeStagedKeyStrays : Migration :=
  .external "0002_purge_staged_key_strays"
    ("Delete uuid4-named PEM files left in the working directory by the " ++
      "pre-fix volume-staging code (unencrypted instance TLS private keys).")
    false true

/-- 0003. -/
def namespaceUndeclaredVolumeMounts : Migration where
  id := "0003_namespace_undeclared_volume_mounts"
  description := "Copy docker volumes for UNDECLARED mount sources (raw-name volumes " ++
    "0001's declared-name scan missed) into their new " ++
    "<instance_id>_<name> counterparts, so instances with undeclared " ++
    "mounts survive the Feature-3 namespacing change."
  run := namespaceVolumes undeclaredPair

/-- The migrations the package registers. -/
def grefferRegistry : Registry where
  migrations := [namespaceCatalogVolumes, purgeStagedKeyStrays, namespaceUndeclaredVolumeMounts]
  unique := by decide
  consistent := by simp [namespaceCatalogVolumes, purgeStagedKeyStrays, Migration.external,
    namespaceUndeclaredVolumeMounts]

end Greffer.Ops

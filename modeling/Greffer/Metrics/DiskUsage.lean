import Mathlib.Algebra.Order.Ring.Rat
import Mathlib.Logic.Function.Basic
import Greffer.Effects.Reliance
import Greffer.Python.Builtins
import Greffer.Python.Value

/-! # The disk usage of an instance

`instance_disk` sums up the files of an instance and its volumes.  The sizes of the volumes come
from one walk of the daemon over all volumes of the host, which is shared by all instances for a
minute: `_host_volumes_snapshot` looks at the cache, and looks again under a lock before it walks.
On top of that each instance's answer is cached for a minute, without a lock.
-/
namespace Greffer.Metrics
open Effects

/-! ## What a walk says -/

/-- A volume in the daemon's answer. -/
structure VolumeEntry where
  name : Option String
  /-- `UsageData.Size`, if it is there. -/
  size : Option PyValue

/-- The sizes of the volumes of the host, by name. -/
abbrev Snapshot := List (String × Option Int)

/-- `size if isinstance(size, int) and size >= 0 else None`. -/
def knownSize : Option PyValue → Option Int
  | some (.int n) => if 0 ≤ n then some n else none
  | some (.bool b) => some (if b then 1 else 0)
  | _ => none

/-- The loop over `df.get("Volumes") or []`. -/
def digest (entries : List VolumeEntry) : Snapshot :=
  entries.foldl (fun volumes entry =>
    match entry.name with
    | none | some "" => volumes
    | some name => upsert volumes name (knownSize entry.size)) []

/-! ## What an instance is told -/

/-- A volume in the answer for an instance. -/
structure VolumeUse where
  name : String
  bytes : Option Int
  deriving DecidableEq

/-- The answer for an instance. -/
structure DiskBody where
  instanceId : String
  capturedAt : String
  appDirBytes : Nat
  volumesBytes : Option Int
  totalBytes : Option Int
  volumes : List VolumeUse
  deriving DecidableEq

/-- The volumes of an instance, by name: those with the prefix `<id>_`. -/
def slice (instanceId : String) (snapshot : Snapshot) : List VolumeUse :=
  let names := (snapshot.map Prod.fst).mergeSort (fun a b => decide (a ≤ b))
  (names.filter fun name => name.startsWith (instanceId ++ "_")).map fun name =>
    ⟨name, (snapshot.lookup name).join⟩

/-- `any_unknown` and `vol_total`. -/
def tally (volumes : List VolumeUse) : Bool × Int :=
  volumes.foldl (fun (unknown, total) volume =>
    match volume.bytes with
    | none => (true, total)
    | some bytes => (unknown, total + bytes)) (false, 0)

/-- What `instance_disk` makes of it. -/
def diskBody (instanceId : String) (appBytes : Nat) (snapshot : Snapshot) (capturedAt : String) :
    DiskBody :=
  let volumes := slice instanceId snapshot
  let (unknown, total) := tally volumes
  let volumesBytes := if unknown then none else some total
  { instanceId, capturedAt, appDirBytes := appBytes, volumesBytes,
    totalBytes := volumesBytes.map fun bytes => appBytes + bytes, volumes }

/-! ## The calls -/

inductive DiskCall where
  | monotonic
  /-- `_df_cache["volumes"]`. -/
  | readVolumes
  /-- `_df_cache["at"]`. -/
  | readAt
  | writeVolumes (volumes : Snapshot)
  | writeAt (t : Rat)
  /-- `_df_lock`. -/
  | acquire
  | release
  /-- `client.df()`: the request, -/
  | dfRequest
  /-- and the answer. -/
  | dfReply
  | isDeployed (instanceId : String)
  | appDirBytes (instanceId : String)
  | nowIso
  /-- `_disk_cache.get(key)`. -/
  | cacheGet (key : String)
  /-- `_disk_cache[key] = (now, body)`. -/
  | cachePut (key : String) (now : Rat) (body : Option DiskBody)
  /-- What the caller gets. -/
  | respond (instanceId : String) (body : Except Exn (Option DiskBody))

/-- What each call answers when it raises nothing. -/
@[reducible] def DiskCall.Answer : DiskCall → Type
  | .monotonic | .readAt => Rat
  | .readVolumes => Option Snapshot
  | .dfReply => List VolumeEntry
  | .isDeployed _ => Bool
  | .appDirBytes _ => Nat
  | .nowIso => String
  | .cacheGet _ => Option (Rat × Option DiskBody)
  | .writeVolumes _ | .writeAt _ | .acquire | .release | .dfRequest | .cachePut _ _ _
  | .respond _ _ => Unit

/-- Code that reads disk usage. -/
abbrev Reading := Action DiskCall.Answer Exn

/-- Make one call. -/
abbrev ask (c : DiskCall) : Reading c.Answer := Action.perform c

/-! ## The readers -/

/-- `_DF_TTL_SECONDS`. -/
def dfTtl : Rat := 60

/-- `_DISK_TTL_SECONDS`. -/
def diskTtl : Rat := 60

/-- `cached is not None and (now - _df_cache["at"]) < _DF_TTL_SECONDS`, and what is cached then. -/
def cachedSnapshot : Reading (Option Snapshot) := do
  let now ← ask .monotonic
  match ← ask .readVolumes with
  | none => return none
  | some cached => do
    let takenAt ← ask .readAt
    return if now - takenAt < dfTtl then some cached else none

/-- `client.df()`, and what is remembered of it. -/
def walkHost : Reading Snapshot := do
  ask .dfRequest
  let entries ← ask .dfReply
  let volumes := digest entries
  ask (.writeVolumes volumes)
  let now ← ask .monotonic
  ask (.writeAt now)
  return volumes

/-- The body of `with _df_lock`. -/
def snapshotUnderLock : Reading Snapshot := do
  match ← cachedSnapshot with
  | some cached => return cached
  | none => walkHost

/-- `with _df_lock`. -/
def lockedSnapshot : Reading Snapshot := do
  ask .acquire
  let r ← snapshotUnderLock.outcome
  ask .release
  Action.ofExcept r

/-- `_host_volumes_snapshot`. -/
def hostVolumesSnapshot : Reading Snapshot := do
  match ← cachedSnapshot with
  | some cached => return cached
  | none => lockedSnapshot

/-- `instance_disk`. -/
def instanceDisk (instanceId : String) : Reading (Option DiskBody) := do
  if ← ask (.isDeployed instanceId) then
    let appBytes ← ask (.appDirBytes instanceId)
    let snapshot ← hostVolumesSnapshot
    let capturedAt ← ask .nowIso
    return some (diskBody instanceId appBytes snapshot capturedAt)
  else return none

theorem startsWith_of_mem_slice {instanceId : String} {snapshot : Snapshot} {volume : VolumeUse}
    (h : volume ∈ slice instanceId snapshot) :
    volume.name.startsWith (instanceId ++ "_") = true := by
  unfold slice at h
  obtain ⟨name, hname, rfl⟩ := List.mem_map.mp h
  exact (List.mem_filter.mp hname).2

/-- An instance is told of volumes with its prefix, whatever the daemon's walk has found. -/
theorem instanceDisk_returns (instanceId : String) :
    (instanceDisk instanceId).Returns fun r => ∀ body, r = .ok (some body) →
      ∀ volume ∈ body.volumes, volume.name.startsWith (instanceId ++ "_") = true := by
  have herror (e : Exn) : ∀ body, (.error e : Except Exn (Option DiskBody)) = .ok (some body) →
      ∀ volume ∈ body.volumes, volume.name.startsWith (instanceId ++ "_") = true := nofun
  unfold instanceDisk
  refine Action.Returns.thenAny herror fun deployed => ?_
  by_cases hdeployed : deployed = true
  · rw [if_pos hdeployed]
    refine Action.Returns.thenAny herror fun appBytes => ?_
    refine Action.Returns.thenAny herror fun snapshot => ?_
    refine Action.Returns.thenAny herror fun capturedAt => ?_
    rintro body ⟨rfl⟩ volume hvolume
    exact startsWith_of_mem_slice hvolume
  · rw [if_neg hdeployed]
    intro body hbody
    cases hbody

/-- `_ttl_get`, once the cache has nothing fresh. -/
def produceInto (key : String) (now : Rat) (produce : Reading (Option DiskBody)) :
    Reading (Option DiskBody) := do
  let body ← produce
  ask (.cachePut key now body)
  return body

/-- `_ttl_get`. -/
def ttlGet (key : String) (ttl : Rat) (produce : Reading (Option DiskBody)) :
    Reading (Option DiskBody) := do
  let hit ← ask (.cacheGet key)
  let now ← ask .monotonic
  match hit with
  | some (t, body) => if now - t < ttl then return body else produceInto key now produce
  | none => produceInto key now produce

/-- `cached_instance_disk`. -/
def cachedInstanceDisk (instanceId : String) : Reading (Option DiskBody) :=
  ttlGet instanceId diskTtl (instanceDisk instanceId)

/-! ## The threads -/

/-- The readers are known by the instance they ask for. -/
abbrev Replies (_ : String) : DiskCall → Type := Raises DiskCall.Answer Exn

/-- None of them goes round a loop. -/
abbrev Label (_ : String) : Type := Unit

/-- A request for the disk usage of an instance. -/
def blocks : Blocks Replies Label := fun instanceId _ => Action.once do
  let r ← (cachedInstanceDisk instanceId).outcome
  ask (.respond instanceId r)

/-- Requests come at any time. -/
def Asks (t : Worker Replies Label) : Prop := t.rest = .pure (some ())

/-- What the readers share.  `walking` are those whose walk is under way, `walks` what the walks
have found. -/
structure Host where
  clock : Rat
  volumes : Option Snapshot
  takenAt : Rat
  lock : Option Nat
  cache : String → Option (Rat × Option DiskBody)
  walking : List Nat
  walks : List Snapshot

/-- What each call of the reader `n` may be answered, and do. -/
def serve (n : Nat) (w : Host) : (c : DiskCall) → Raises DiskCall.Answer Exn c → Host → Prop
  | .monotonic, r, w' => r = .ok w.clock ∧ w' = w
  | .readVolumes, r, w' => r = .ok w.volumes ∧ w' = w
  | .readAt, r, w' => r = .ok w.takenAt ∧ w' = w
  | .writeVolumes volumes, r, w' => r = .ok () ∧ w' = { w with volumes := some volumes }
  | .writeAt t, r, w' => r = .ok () ∧ w' = { w with takenAt := t }
  | .acquire, r, w' => r = .ok () ∧ w.lock = none ∧ w' = { w with lock := some n }
  | .release, r, w' => r = .ok () ∧ w' = { w with lock := none }
  | .dfRequest, r, w' => r = .ok () ∧ w' = { w with walking := n :: w.walking }
  | .dfReply, .ok entries, w' =>
    w' = { w with walking := w.walking.erase n, walks := digest entries :: w.walks }
  | .dfReply, .error _, w' => w' = { w with walking := w.walking.erase n }
  | .isDeployed _, r, w' | .appDirBytes _, r, w' | .nowIso, r, w' => (∃ a, r = .ok a) ∧ w' = w
  | .cacheGet key, r, w' => r = .ok (w.cache key) ∧ w' = w
  | .cachePut key now body, r, w' =>
    r = .ok () ∧ w' = { w with cache := Function.update w.cache key (some (now, body)) }
  | .respond _ _, r, w' => r = .ok () ∧ w' = w

/-- **The shared table**; by itself only the clock advances. -/
def host : Shared Replies Host where
  serve n _ w := serve n w
  drift w w' := w.clock ≤ w'.clock ∧ w' = { w with clock := w'.clock }

end Greffer.Metrics

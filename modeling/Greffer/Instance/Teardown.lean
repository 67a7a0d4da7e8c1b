import Greffer.Instance.Lock

/-! # Decommission

The operations of an instance that reach the docker daemon, and `decommission_greffon`:
the compose project is taken down, the volumes whose names begin with `<id>_` are removed,
the instance's directory is dropped, and **what is left is looked for** before success is
reported — the volumes and the directory, not the containers and the networks.

`docker-compose up -d` and `stop` are only started by the operation that asks for them.
What becomes of them is left to `Instance.Finality`.
-/
namespace Greffer.Instance
open Effects
open Backup (startsWith)

/-- A rendered `docker-compose.yml`, as far as `docker-compose down` reads it: the networks
and the volumes it declares, by the names the daemon has for them. -/
structure ComposeFile where
  networks : List String
  volumes : List String
  deriving DecidableEq

/-- A child that has been waited for. -/
structure CompletedProcess where
  returncode : Int
  /-- `stdout.splitlines()`. -/
  stdout : List String := []
  stderr : String := ""

/-- The calls of an instance operation. -/
inductive OpCall where
  /-- `updater_spawn.update_in_progress`. -/
  | updateInProgress
  /-- `docker volume ls -q -f name=…`. -/
  | volumeLs (nameFilter : String)
  /-- `docker volume rm -f`. -/
  | volumeRm (name : String)
  /-- `docker volume create`. -/
  | volumeCreate (name : String)
  /-- `os.path.exists`, of the instance's `docker-compose.yml`. -/
  | composeFileExists (instanceId : String)
  /-- The rendered compose is written. -/
  | writeCompose (instanceId : String) (file : ComposeFile)
  /-- `remove_compose_file`. -/
  | removeCompose (instanceId : String)
  /-- `docker-compose … down -v --remove-orphans`, waited for. -/
  | composeDown (instanceId : String)
  /-- `docker-compose … up -d`, which is only started. -/
  | composeUp (instanceId : String)
  /-- `docker-compose … stop`, which is only started. -/
  | composeStop (instanceId : String)
  /-- `track_compose_child`. -/
  | trackComposeChild (instanceId : String)
  /-- `shutil.rmtree(…, ignore_errors=True)`, of the instance's directory. -/
  | rmtree (instanceId : String)
  /-- `os.path.exists`, of the instance's directory. -/
  | dirExists (instanceId : String)

/-- What each call answers when it raises nothing. -/
@[reducible] def OpCall.Answer : OpCall → Type
  | .updateInProgress | .composeFileExists _ | .dirExists _ => Bool
  | .volumeLs _ | .volumeRm _ | .composeDown _ => CompletedProcess
  | .volumeCreate _ | .writeCompose _ _ | .removeCompose _ | .composeUp _ | .composeStop _
  | .trackComposeChild _ | .rmtree _ => Unit

/-- The code of an instance operation. -/
abbrev Operation := Action (ControlCall.Answer OpCall.Answer) ControlError

/-- Make one call. -/
abbrev op (c : OpCall) : Operation c.Answer := Action.perform (ControlCall.handler c)

/-- `_refuse_if_updating`. -/
def refuseIfUpdating : Operation Unit := do
  if ← op .updateInProgress then
    Action.raise (.http 409 "update_in_progress")

/-! ## The volumes of an instance -/

/-- The prefix of an instance's volumes. -/
def volumePrefix (instanceId : String) : String := instanceId ++ "_"

/-- The lines of the daemon's listing that are kept. -/
def ownLines (instanceId : String) (lines : List String) : List String :=
  lines.filter fun line => startsWith (strip line) (volumePrefix instanceId)

/-- `list_instance_volumes`. -/
def listInstanceVolumes (instanceId : String) : Operation (List String) := do
  let res ← op (.volumeLs (volumePrefix instanceId))
  if res.returncode ≠ 0 then
    Action.raise (.raised (.exception
      ("docker volume ls failed (rc=" ++ toString res.returncode ++ "): " ++ strip res.stderr)))
  return ownLines instanceId res.stdout

/-- The loop of `remove_instance_volumes`; a removal that fails is only logged. -/
def removeVolumes : List String → Operation Unit
  | [] => return ()
  | name :: rest => do
    let _ ← op (.volumeRm name)
    removeVolumes rest

/-- `remove_instance_volumes`. -/
def removeInstanceVolumes (instanceId : String) : Operation (List String) := do
  let names ← listInstanceVolumes instanceId
  removeVolumes names
  return names

/-! ## The teardown -/

/-- `down`: nothing is run without a compose file. -/
def down (instanceId : String) : Operation (Option CompletedProcess) := do
  if ← op (.composeFileExists instanceId) then
    let result ← op (.composeDown instanceId)
    return some result
  return none

/-- `decommission_greffon`: the volumes it removed.  The exit code of `down` is only
logged. -/
def decommissionGreffon (instanceId : String) : Operation (List String) := do
  refuseIfUpdating
  let _ ← down instanceId
  let removed ← removeInstanceVolumes instanceId
  op (.rmtree instanceId)
  let residual ← listInstanceVolumes instanceId
  let dirRemains ← op (.dirExists instanceId)
  if !residual.isEmpty || dirRemains then
    Action.raise (.http 500 "decommission_incomplete")
  return removed

/-- The endpoint, with the lock it holds. -/
def decommission (instanceId : String) : Operation Unit :=
  serializeInstanceOp instanceId do
    let _ ← decommissionGreffon instanceId

/-! ## What is selected -/

theorem mem_ownLines {instanceId line : String} {lines : List String} :
    line ∈ ownLines instanceId lines ↔
      line ∈ lines ∧ startsWith (strip line) (volumePrefix instanceId) = true :=
  List.mem_filter

/-- **A volume is listed only under its prefix**, whatever the daemon answers. -/
theorem listInstanceVolumes_returns (instanceId : String) :
    (listInstanceVolumes instanceId).Returns fun r => ∀ names, r = .ok names →
      ∀ v ∈ names, startsWith (strip v) (volumePrefix instanceId) = true := by
  unfold listInstanceVolumes
  refine Action.Returns.thenAny (fun _ _ h => (by cases h)) fun res => ?_
  split
  · exact fun _ h => (by cases h)
  · rintro names hnames v hv
    cases hnames
    exact (mem_ownLines.mp hv).2

end Greffer.Instance

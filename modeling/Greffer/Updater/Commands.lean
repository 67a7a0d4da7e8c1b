import Greffer.Python.Builtins

/-! # The commands of the updater

The updater has no compose file: it reaches the node's containers and images with
the `docker` command line, and checks signatures with `cosign`.  A command is one
subprocess; it ends with a `CommandResult`, or raises.

What docker prints as JSON is taken as already read: the fields the updater looks
at, each with what the code puts in its place where it is missing.
-/
namespace Greffer.Updater

/-- How an image is named on a command line. -/
inductive ImageRef where
  | tagged (repo tag : String)
  | byDigest (repo digest : String)
  /-- A local image id, as `docker inspect` reports it. -/
  | id (imageId : String)
  deriving DecidableEq

namespace ImageRef

/-- The name as it is passed. -/
def text : ImageRef → String
  | tagged repo tag => repo ++ ":" ++ tag
  | byDigest repo digest => repo ++ "@" ++ digest
  | id imageId => imageId

/-- `f"{repo}:latest"`. -/
def latest (repo : String) : ImageRef := tagged repo "latest"

/-- `f"{repo}:previous"`. -/
def previous (repo : String) : ImageRef := tagged repo "previous"

end ImageRef

/-- A finished subprocess. -/
structure CommandResult (Out : Type) where
  returncode : Int
  stdout : Out
  stderr : String := ""

/-- `CommandResult.ok`. -/
def CommandResult.ok {Out : Type} (res : CommandResult Out) : Bool := res.returncode == 0

/-! ## What docker reports -/

/-- A healthcheck, durations in nanoseconds; a missing entry is zero or empty. -/
structure Healthcheck where
  test : List String := []
  interval : Nat := 0
  timeout : Nat := 0
  startPeriod : Nat := 0
  startInterval : Nat := 0
  retries : Nat := 0
  deriving DecidableEq

/-- The `.Config` of a container or of an image; a missing entry is empty. -/
structure Config where
  env : List String := []
  labels : List (String × String) := []
  healthcheck : Healthcheck := {}
  user : String := ""
  workingDir : String := ""
  stopSignal : String := ""
  entrypoint : List String := []
  cmd : List String := []
  deriving DecidableEq

/-- One host binding of a container port. -/
structure PortBinding where
  hostIp : String := ""
  hostPort : String := ""
  deriving DecidableEq

/-- The `.HostConfig` of a container. -/
structure HostConfig where
  networkMode : String := ""
  restartName : String := ""
  maximumRetryCount : Nat := 0
  logType : String := ""
  logConfig : List (String × String) := []
  extraHosts : List String := []
  portBindings : List (String × List PortBinding) := []
  deriving DecidableEq

/-- One of the `.Mounts` of a container. -/
structure Mount where
  destination : String := ""
  type : String := ""
  name : String := ""
  source : String := ""
  /-- `m.get("RW")`. -/
  rw : Option Bool := none
  deriving DecidableEq

/-- What `docker inspect` says of a container. -/
structure Inspected where
  name : Option String := none
  image : Option String := none
  config : Config := {}
  hostConfig : HostConfig := {}
  mounts : List Mount := []
  deriving DecidableEq

/-- `(inspected.get("Name") or "").lstrip("/")`. -/
def Inspected.bareName (inspected : Inspected) : String :=
  String.ofList ((inspected.name.getD "").toList.dropWhile (· == '/'))

/-- The body of `/readyz`. -/
structure ReadyzBody where
  id : Option String := none
  status : Option String := none
  reasons : List String := []

/-- What `docker create` is called with: its options, the image, and the command
that overrides the image's. -/
structure CreateArgs where
  name : String
  options : List String
  image : ImageRef
  command : List String
  deriving DecidableEq

/-- The `docker create` command line. -/
def CreateArgs.argv (args : CreateArgs) : List String :=
  ["create", "--name", args.name] ++ args.options ++ [args.image.text] ++ args.command

/-! ## The commands -/

/-- The commands of the updater, and its clock. -/
inductive Command where
  /-- The ids of the containers of the compose service `greffer`. -/
  | psGreffer
  /-- The compose project of a container. -/
  | inspectProject (container : String)
  /-- The ids and services of the containers of a project. -/
  | psProject (project : String)
  | inspect (container : String)
  /-- `docker image inspect --format {{.Id}}`. -/
  | imageInspectId (ref : ImageRef)
  | imageInspectConfig (imageId : String)
  /-- `docker buildx imagetools inspect`, which asks the registry. -/
  | imagetoolsInspect (ref : ImageRef)
  | cosignVerify (pubkey repo digest : String)
  | pull (ref : ImageRef)
  | tag (source target : ImageRef)
  | imagePrune
  | stop (timeout : Nat) (container : String)
  | rm (container : String)
  | create (args : CreateArgs)
  | start (container : String)
  | execReadyz (container : String)
  | execVersion (container : String)
  | inspectRunning (container : String)
  | inspectImage (container : String)
  | inspectRestartCount (container : String)
  | now
  | sleep (seconds : Rat)

/-- The command line, the clock apart; `probe` is the body of the `/readyz` probe. -/
def Command.argv (probe : String) : Command → Option (List String)
  | psGreffer => some ["docker", "ps", "--all", "--filter",
      "label=com.docker.compose.service=greffer", "--format", "\x7b\x7b.ID\x7d\x7d"]
  | inspectProject container => some ["docker", "inspect", "--format",
      "\x7b\x7bindex .Config.Labels \"com.docker.compose.project\"\x7d\x7d", container]
  | psProject project => some ["docker", "ps", "--all", "--filter",
      "label=com.docker.compose.project=" ++ project, "--format",
      "\x7b\x7b.ID\x7d\x7d\t\x7b\x7b.Label \"com.docker.compose.service\"\x7d\x7d"]
  | inspect container => some ["docker", "inspect", container]
  | imageInspectId ref => some ["docker", "image", "inspect", "--format", "\x7b\x7b.Id\x7d\x7d",
      ref.text]
  | imageInspectConfig imageId => some ["docker", "image", "inspect", imageId, "--format",
      "\x7b\x7bjson .Config\x7d\x7d"]
  | imagetoolsInspect ref => some ["docker", "buildx", "imagetools", "inspect", ref.text,
      "--format", "\x7b\x7bjson .Manifest\x7d\x7d"]
  | cosignVerify pubkey repo digest => some ["cosign", "verify", "--key", pubkey, "-a",
      "repo=" ++ repo, "--insecure-ignore-tlog=true", (ImageRef.byDigest repo digest).text]
  | pull ref => some ["docker", "pull", ref.text]
  | tag source target => some ["docker", "tag", source.text, target.text]
  | imagePrune => some ["docker", "image", "prune", "-f"]
  | stop timeout container => some ["docker", "stop", "-t", toString timeout, container]
  | rm container => some ["docker", "rm", "-f", container]
  | create args => some ("docker" :: args.argv)
  | start container => some ["docker", "start", container]
  | execReadyz container => some ["docker", "exec", container, "python", "-c", probe]
  | execVersion container => some ["docker", "exec", container, "python", "-c",
      "import app; print(app.__version__)"]
  | inspectRunning container => some ["docker", "inspect", "--format",
      "\x7b\x7b.State.Running\x7d\x7d", container]
  | inspectImage container => some ["docker", "inspect", "--format", "\x7b\x7b.Image\x7d\x7d",
      container]
  | inspectRestartCount container => some ["docker", "inspect", "--format",
      "\x7b\x7b.RestartCount\x7d\x7d", container]
  | now | sleep _ => none

/-- What each command answers when it raises nothing.  Of an answer that is read as
JSON, `none` stands for text that is not JSON, or not of the kind looked for. -/
@[reducible] def Command.Answer : Command → Type
  /- The elements that are non-empty objects. -/
  | .inspect _ => CommandResult (Option (List (Option Inspected)))
  | .imageInspectConfig _ => CommandResult (Option Config)
  /- The `digest` of the manifest, if it is a text. -/
  | .imagetoolsInspect _ => CommandResult (Option String)
  | .execReadyz _ => CommandResult (Option ReadyzBody)
  | .now => Rat
  | .sleep _ => Unit
  | _ => CommandResult String

end Greffer.Updater

import Greffer.Effects.Implement
import Greffer.Updater.CreateArgs
import Greffer.Updater.Version

/-! # The steps of an update

The stack is found by its compose labels; an image is resolved, verified and pulled
by digest before any tag is moved; a container is recreated in place, by stopping,
removing, creating and starting it.
-/
namespace Greffer.Updater
open Effects

/-- What a step may raise. -/
inductive UpdateError where
  /-- `VerifyError`. -/
  | verify (text : String)
  | raised (e : Exn)
  deriving DecidableEq

/-- Code that runs commands. -/
abbrev Step := Action Command.Answer UpdateError

/-- What a command answers that exits with 0 and prints nothing. -/
def Command.silent : (c : Command) → Raises Command.Answer UpdateError c
  | .inspect _ | .imageInspectConfig _ => .ok ⟨0, none, ""⟩
  | .imagetoolsInspect _ | .execReadyz _ => .ok ⟨0, none, ""⟩
  | .now => .ok 0
  | .sleep _ => .ok ()
  | .psGreffer | .inspectProject _ | .psProject _ | .imageInspectId _ | .cosignVerify _ _ _
  | .pull _ | .tag _ _ | .imagePrune | .stop _ _ | .rm _ | .create _ | .start _ | .execVersion _
  | .inspectRunning _ | .inspectImage _ | .inspectRestartCount _ => .ok ⟨0, "", ""⟩

/-- Run one command. -/
abbrev run (c : Command) : Step (Command.Answer c) := Action.perform c

/-! ## The stack -/

/-- `update.SERVICE_REPO`. -/
def serviceRepo : String → Option String
  | "greffer" => some "greffon/greffer"
  | "nginx" => some "greffon/greffer-nginx"
  | "tunnel-sidecar" => some "greffon/tunnel-sidecar"
  | _ => none

/-- Services of one repository are one service. -/
theorem serviceRepo_injective {s s' repo : String} (h : serviceRepo s = some repo)
    (h' : serviceRepo s' = some repo) : s = s' := by
  unfold serviceRepo at h h'
  split at h <;> split at h' <;> simp_all <;> subst h <;> simp at h'

/-- `RECREATE_ORDER`. -/
def recreateOrder : List String := ["nginx", "greffer", "tunnel-sidecar"]

/-- One container of the stack, whose repository follows from its service. -/
structure StackContainer where
  service : String
  containerId : String
  repo : String
  known : serviceRepo service = some repo
  deriving DecidableEq

/-- The update set: at most one container for each service. -/
structure Stack where
  containers : List StackContainer
  distinct : containers.Pairwise fun c c' => c.service ≠ c'.service

/-- Containers of different services have different repositories. -/
theorem StackContainer.repo_ne {c c' : StackContainer} (h : c.service ≠ c'.service) :
    c.repo ≠ c'.repo :=
  fun hrepo => h (serviceRepo_injective c.known (hrepo ▸ c'.known))

/-- `_greffer_container_id`. -/
def grefferContainerId : Step (Option String) := do
  let res ← run .psGreffer
  if !res.ok then
    return none
  return (lines res.stdout).head?

/-- `_project_of`. -/
def projectOf (containerId : String) : Step (Option String) := do
  let res ← run (.inspectProject containerId)
  if !res.ok then
    return none
  return nonEmpty (some (strip res.stdout))

/-- The container and the service a line of the listing names. -/
def listedLine (line : String) : Option (String × String) :=
  match splitOn '\t' line.toList with
  | [cid, service] => some (strip (String.ofList cid), strip (String.ofList service))
  | _ => none

/-- The container a line of the listing stands for, if it is one of the stack. -/
def stackLine (line : String) : Option StackContainer :=
  match listedLine line with
  | none => none
  | some (cid, service) =>
    if cid = "" then none
    else match h : serviceRepo service with
      | none => none
      | some repo => some ⟨service, cid, repo, h⟩

/-- The stack, in recreate order: the first container listed for each service. -/
def inRecreateOrder (found : List StackContainer) : Stack where
  containers := recreateOrder.filterMap fun service => found.find? fun c => c.service == service
  distinct := by
    refine List.Pairwise.filterMap _ (R := (· ≠ ·)) ?_ (by decide)
    intro a a' hne c hc c' hc' heq
    have ha : c.service = a := by simpa using List.find?_some hc
    have ha' : c'.service = a' := by simpa using List.find?_some hc'
    exact hne (ha.symm.trans (heq.trans ha'))

/-- The containers of the stack a listing names; a listing that failed names none. -/
def listedIn (res : CommandResult String) : List StackContainer :=
  if res.ok then (lines res.stdout).filterMap stackLine else []

/-- No stack. -/
def Stack.empty : Stack := ⟨[], .nil⟩

/-- `discover_stack`. -/
def discoverStack : Step Stack := do
  match ← grefferContainerId with
  | none => return .empty
  | some grefferId =>
    match ← projectOf grefferId with
    | none => return .empty
    | some project =>
      let res ← run (.psProject project)
      return inRecreateOrder (listedIn res)

/-! ## Images -/

/-- Whether a text is `sha256:` and 64 lower-case hexadecimal digits. -/
def isDigest (text : String) : Bool :=
  "sha256:".toList.isPrefixOf text.toList &&
    decide ((text.toList.drop 7).length = 64) &&
    (text.toList.drop 7).all fun c => "0123456789abcdef".toList.contains c

/-- The digest an answer of `imagetools inspect` names. -/
def resolvedDigest (res : CommandResult (Option String)) : Option String :=
  if res.ok then res.stdout.filter isDigest else none

/-- `resolve_digest`. -/
def resolveDigest (ref : ImageRef) : Step (Option String) := do
  let res ← run (.imagetoolsInspect ref)
  return resolvedDigest res

/-- `cosign_verify`. -/
def cosignVerify (repo digest pubkey : String) : Step Bool := do
  let res ← run (.cosignVerify pubkey repo digest)
  return res.ok

/-- The id an image inspection prints. -/
def printedId (res : CommandResult String) : Option String :=
  if res.ok then nonEmpty (some (strip res.stdout)) else none

/-- `current_image_id`. -/
def currentImageId (repo : String) : Step (Option String) := do
  let res ← run (.imageInspectId (.latest repo))
  return printedId res

/-- `compose.image_id`, of an image named by digest. -/
def imageId (ref : ImageRef) : Step (Option String) := do
  let res ← run (.imageInspectId ref)
  return printedId res

/-- `verify_and_pull`: only the digest that was verified is pulled. -/
def verifyAndPull (repo cosignPub tag : String) : Step String := do
  let ref := ImageRef.tagged repo tag
  match ← resolveDigest ref with
  | none => Action.raise (.verify ("cannot resolve digest for " ++ ref.text))
  | some digest =>
    let byDigest := ImageRef.byDigest repo digest
    if !(← cosignVerify repo digest cosignPub) then
      Action.raise (.verify ("signature/repo-binding failed for " ++ byDigest.text))
    else
      let res ← run (.pull byDigest)
      if !res.ok then
        Action.raise (.verify ("pull failed for " ++ byDigest.text))
      else
        return digest

/-- `docker tag`, as `retag_latest`, `restore_latest` and `tag_previous` call it. -/
def tag (source target : ImageRef) : Step Bool := do
  let res ← run (.tag source target)
  return res.ok

/-- `retag_latest`. -/
def retagLatest (repo digest : String) : Step Bool := tag (.byDigest repo digest) (.latest repo)

/-- `restore_latest`. -/
def restoreLatest (repo imageId : String) : Step Bool :=
  if imageId = "" then return false else tag (.id imageId) (.latest repo)

/-- `tag_previous`. -/
def tagPrevious (repo : String) (imageId : Option String) : Step Bool :=
  match nonEmpty imageId with
  | none => return false
  | some i => tag (.id i) (.previous repo)

/-- `dangling_prune`. -/
def danglingPrune : Step Unit := do
  let _ ← run .imagePrune

/-! ## Containers -/

/-- The container an answer of `docker inspect` describes. -/
def inspectedOf (res : CommandResult (Option (List (Option Inspected)))) : Option Inspected :=
  if res.ok then res.stdout.bind fun items => items.head?.join else none

/-- `inspect_container`. -/
def inspectContainer (containerId : String) : Step (Option Inspected) := do
  let res ← run (.inspect containerId)
  return inspectedOf res

/-- `image_config`. -/
def imageConfig (imageId : String) : Step Config := do
  let res ← run (.imageInspectConfig imageId)
  if !res.ok then
    return {}
  return res.stdout.getD {}

/-- The image config the container's own is compared with. -/
def baselineConfig (baselineImageId : Option String) : Step Config :=
  match nonEmpty baselineImageId with
  | none => return {}
  | some i => imageConfig i

/-- The commands of `_do_recreate` after the command line is built: stop, whose
outcome nothing looks at, then remove, create, start. -/
def replaceContainer (args : CreateArgs) (containerRef : String) : Step Bool := do
  let _ ← run (.stop 30 containerRef)
  let removed ← run (.rm containerRef)
  if !removed.ok then
    return false
  let created ← run (.create args)
  if !created.ok then
    return false
  let started ← run (.start args.name)
  return started.ok

/-- `_do_recreate`. -/
def doRecreate (inspected : Inspected) (imageRef : ImageRef) (baselineImageId : Option String)
    (service containerRef : String) : Step Bool := do
  let oldCfg ← baselineConfig baselineImageId
  if inspected.bareName = "" then
    return false
  replaceContainer (buildCreateArgv inspected oldCfg imageRef service) containerRef

/-- `recreate_one`, of a container that has been inspected. -/
def recreateOne (c : StackContainer) (imageRef : ImageRef) (oldImageId : Option String)
    (inspected : Inspected) : Step Bool :=
  doRecreate inspected imageRef oldImageId c.service c.containerId

/-- `rollback_one`, which finds the container by its name. -/
def rollbackOne (c : StackContainer) (inspected : Inspected) (oldImageId : String) : Step Bool :=
  doRecreate inspected (.id oldImageId) (some oldImageId) c.service inspected.bareName

/-! ## Probes -/

/-- `exec_version`. -/
def execVersion (container : String) : Step (Option String) := do
  let res ← run (.execVersion container)
  return printedId res

/-- `container_running`. -/
def containerRunning (container : String) : Step Bool := do
  let res ← run (.inspectRunning container)
  return res.ok && strip res.stdout == "true"

/-- `container_image_id_by_name`. -/
def containerImageIdByName (container : String) : Step (Option String) := do
  let res ← run (.inspectImage container)
  return printedId res

/-- `restart_count`. -/
def restartCount (container : String) : Step Int := do
  let res ← run (.inspectRestartCount container)
  if !res.ok then
    return 0
  return (PyValue.intOfStr res.stdout).getD 0

end Greffer.Updater

import Mathlib
import Greffer.Updater.Gate

/-! # The update

`runRemoteUpdate` orchestrates the steps: verify and pull every image, inspect
every container, then tag and recreate one container after the other, gate, and on
any failure roll the recreated ones back.

Its calls are the steps themselves, so that a step is one call with one outcome: a
value, or an exception.  `perform` implements each step by its commands, and
`remoteUpdate` is the whole updater, command by command.
-/
namespace Greffer.Updater
open Effects

/-- The steps the update calls. -/
inductive EngineCall where
  | discoverStack
  | execVersion (container : String)
  | verifyAndPull (repo cosignPub tag : String)
  | inspectContainer (containerId : String)
  | currentImageId (repo : String)
  | tagPrevious (repo : String) (imageId : Option String)
  | retagLatest (repo digest : String)
  | recreateOne (c : StackContainer) (imageRef : ImageRef) (oldImageId : Option String)
      (inspected : Inspected)
  | imageId (ref : ImageRef)
  | healthGate (req : GateRequest)
  | danglingPrune
  | rollbackOne (c : StackContainer) (inspected : Inspected) (oldImageId : String)
  | restoreLatest (repo imageId : String)

/-- What each step returns. -/
@[reducible] def EngineCall.Answer : EngineCall → Type
  | .discoverStack => Stack
  | .verifyAndPull _ _ _ => String
  | .inspectContainer _ => Option Inspected
  | .execVersion _ | .currentImageId _ | .imageId _ => Option String
  | .healthGate _ => GateOutcome
  | .danglingPrune => Unit
  | .tagPrevious _ _ | .retagLatest _ _ | .recreateOne _ _ _ _ | .rollbackOne _ _ _
  | .restoreLatest _ _ => Bool

/-- Each step, by its commands. -/
def EngineCall.perform : (c : EngineCall) → Step c.Answer
  | .discoverStack => Updater.discoverStack
  | .execVersion container => Updater.execVersion container
  | .verifyAndPull repo cosignPub tag => Updater.verifyAndPull repo cosignPub tag
  | .inspectContainer containerId => Updater.inspectContainer containerId
  | .currentImageId repo => Updater.currentImageId repo
  | .tagPrevious repo image => Updater.tagPrevious repo image
  | .retagLatest repo digest => Updater.retagLatest repo digest
  | .recreateOne c ref oldImage inspected => Updater.recreateOne c ref oldImage inspected
  | .imageId ref => Updater.imageId ref
  | .healthGate req => Updater.healthGate req
  | .danglingPrune => Updater.danglingPrune
  | .rollbackOne c inspected oldImage => Updater.rollbackOne c inspected oldImage
  | .restoreLatest repo image => Updater.restoreLatest repo image

/-- Code of the engine. -/
abbrev Engine := Action EngineCall.Answer UpdateError

/-- Take one step. -/
abbrev step (c : EngineCall) : Engine c.Answer := Action.perform c

/-- The exit codes. -/
inductive ExitCode where
  | ok | failedRolledBack | failedRollbackFailed | refused
  deriving DecidableEq

/-- The arguments of `run_remote_update`. -/
structure UpdateRequest where
  cosignPub : String
  grefferId : Option String
  targetTag : Option String := none
  timeout : Rat := 600

/-- `GREFFER_SERVICE`. -/
def grefferService : String := "greffer"

/-- The tag the images are taken from. -/
def UpdateRequest.tag (req : UpdateRequest) : String := (nonEmpty req.targetTag).getD "latest"

/-! ## Before anything is changed -/

/-- The comprehension of phase 1: each repository with the digest verified for it. -/
def verifyAll (req : UpdateRequest) : List StackContainer → List (String × String) →
    Engine (List (String × String))
  | [], verified => return verified
  | c :: rest, verified => do
    let digest ← step (.verifyAndPull c.repo req.cosignPub req.tag)
    verifyAll req rest (upsert verified c.repo digest)

/-- Phase 1: `none` where a `VerifyError` refuses the update. -/
def phaseOne (req : UpdateRequest) (stack : Stack) : Engine (Option (List (String × String))) :=
  Action.tryExcept (do
      let verified ← verifyAll req stack.containers []
      return some verified)
    fun
    | .verify _ => return none
    | e => Action.raise e

/-- A container as it was before the update. -/
structure Snap where
  container : StackContainer
  inspected : Inspected
  oldImageId : Option String

/-- The name of the container. -/
def Snap.name (s : Snap) : String := s.inspected.bareName

/-- Phase 2a: inspect every container; `none` where one cannot be inspected. -/
def snapshot : List StackContainer → Engine (Option (List Snap))
  | [] => return some []
  | c :: rest => do
    match ← step (.inspectContainer c.containerId) with
    | none => return none
    | some inspected =>
      let oldImageId ← match nonEmpty inspected.image with
        | some image => pure (some image)
        | none => step (.currentImageId c.repo)
      match ← snapshot rest with
      | none => return none
      | some snaps => return some (⟨c, inspected, oldImageId⟩ :: snaps)

/-- The rest of `snapshot`, once the old image of a container is known. -/
def snapshotRest (c : StackContainer) (inspected : Inspected) (oldImageId : Option String)
    (rest : List StackContainer) : Engine (Option (List Snap)) := do
  match ← snapshot rest with
  | none => return none
  | some snaps => return some (⟨c, inspected, oldImageId⟩ :: snaps)

/-! ## Rollback -/

/-- What the gate and the rollback are told of the stack. -/
structure Window where
  req : UpdateRequest
  snaps : List Snap
  verified : List (String × String)
  oldVersion : Option String

namespace Window
variable (w : Window)

def serviceNames : List String := w.snaps.map Snap.name

def grefferName : String :=
  ((w.snaps.find? fun s => s.container.service == grefferService).map Snap.name).getD ""

/-- The gate after the recreates, with the image each container has to be on. -/
def forwardGate (ids : List (String × Option String)) : GateRequest where
  grefferName := w.grefferName
  grefferId := w.req.grefferId
  appliedImageIds := ids
  checkVersion := true
  serviceNames := w.serviceNames
  timeout := w.req.timeout

/-- The gate after a rollback. -/
def rollbackGate : GateRequest where
  grefferName := w.grefferName
  grefferId := w.req.grefferId
  appliedImageIds := []
  checkVersion := false
  serviceNames := w.serviceNames
  timeout := min w.req.timeout 120

/-- The loop of `_rollback`: whether every container was rolled back. -/
def rollBackAll : Bool → List Snap → Engine Bool
  | allOk, [] => return allOk
  | allOk, s :: rest =>
    match nonEmpty s.oldImageId with
    -- no captured old image id: neither the container nor the tag is restored
    | none => rollBackAll false rest
    | some old => do
      let ok ← step (.rollbackOne s.container s.inspected old)
      let _ ← step (.restoreLatest s.container.repo old)
      rollBackAll (allOk && ok) rest

/-- `_rollback`, of the containers recreated so far. -/
def rollback (done : List Snap) : Engine ExitCode := do
  let allOk ← rollBackAll true done.reverse
  if allOk ∧ w.grefferName ≠ "" then
    let outcome ← step (.healthGate w.rollbackGate)
    if outcome = .ready then
      return .failedRolledBack
  return .failedRollbackFailed

/-! ## The mutating window -/

/-- Code of the window, whose variable is `done`. -/
abbrev Steps := Routine EngineCall.Answer UpdateError (List Snap)

/-- `_rb`. -/
def rb : Steps ExitCode := do
  let done ← Routine.locals
  w.rollback done

/-- `verified[repo]`. -/
def digestOf (repo : String) : Engine String :=
  match w.verified.lookup repo with
  | some digest => return digest
  | none => Action.raise (.raised (.exception ("KeyError: " ++ repo)))

/-- Phase 2b: whether every container was tagged and recreated. -/
def recreateAll : List Snap → Steps Bool
  | [] => return true
  | s :: rest => do
    let _ ← step (.tagPrevious s.container.repo s.oldImageId)
    let digest ← w.digestOf s.container.repo
    if !(← step (.retagLatest s.container.repo digest)) then
      return false
    let ok ← step (.recreateOne s.container (.latest s.container.repo) s.oldImageId s.inspected)
    Routine.assign (· ++ [s])
    if !ok then
      return false
    recreateAll rest

/-- The image ids the gate expects. -/
def appliedImageIds : List Snap → List (String × Option String) →
    Engine (List (String × Option String))
  | [], ids => return ids
  | s :: rest, ids => do
    let digest ← w.digestOf s.container.repo
    let i ← step (.imageId (.byDigest s.container.repo digest))
    appliedImageIds rest (upsert ids s.name i)

/-- Phase 3: whether the update stands. -/
def settles : Engine Bool := do
  let ids ← w.appliedImageIds w.snaps []
  let outcome ← step (.healthGate (w.forwardGate ids))
  if outcome ≠ .ready then
    return false
  let newVersion ← step (.execVersion w.grefferName)
  if isDowngrade newVersion w.oldVersion then
    return false
  step .danglingPrune
  return true

/-- The body of the `try`. -/
def body : Steps ExitCode := do
  if !(← w.recreateAll w.snaps) then
    w.rb
  else if ← w.settles then
    return .ok
  else
    w.rb

/-- The mutating window: any exception rolls back. -/
def mutate : Steps ExitCode := Routine.tryExcept w.body fun _ => w.rb

end Window

/-- `run_remote_update`. -/
def runRemoteUpdate (req : UpdateRequest) : Engine ExitCode := do
  let stack ← step .discoverStack
  match stack.containers.find? fun c => c.service == grefferService with
  | none => return .refused
  | some greffer =>
    let oldVersion ← step (.execVersion greffer.containerId)
    if (nonEmpty req.targetTag).isSome ∧ isDowngrade req.targetTag oldVersion then
      return .refused
    match ← phaseOne req stack with
    | none => return .refused
    | some verified =>
      match ← snapshot stack.containers with
      | none => return .refused
      | some snaps => (Window.mutate ⟨req, snaps, verified, oldVersion⟩).run []

/-! ## What the blocks call -/

section Uses
variable {ok : EngineCall → Prop}

theorem phaseOne_uses (req : UpdateRequest) (stack : Stack)
    (hverify : ∀ repo, ok (.verifyAndPull repo req.cosignPub req.tag)) :
    (phaseOne req stack).Uses ok := by
  have hall : ∀ cs verified, (verifyAll req cs verified).Uses ok := by
    intro cs
    induction cs with
    | nil => exact fun _ => Action.uses_pure _
    | cons c rest ih =>
      exact fun verified => (Action.uses_perform (hverify _)).bind fun digest => ih _
  refine Action.Uses.tryExcept ((hall _ _).bind fun _ => Action.uses_pure _) ?_
  rintro (text | e)
  · exact Action.uses_pure _
  · exact Action.uses_raise _

namespace Window
variable (w : Window)

theorem digestOf_uses (repo : String) : (w.digestOf repo).Uses ok := by
  unfold digestOf
  split
  · exact Action.uses_pure _
  · exact Action.uses_raise _

theorem settles_uses (hid : ∀ ref, ok (.imageId ref)) (hgate : ∀ req, ok (.healthGate req))
    (hversion : ∀ container, ok (.execVersion container)) (hprune : ok .danglingPrune) :
    w.settles.Uses ok := by
  have hids : ∀ snaps ids, (w.appliedImageIds snaps ids).Uses ok := by
    intro snaps
    induction snaps with
    | nil => exact fun _ => Action.uses_pure _
    | cons s rest ih =>
      refine fun ids => (w.digestOf_uses _).bind fun digest => ?_
      exact (Action.uses_perform (hid _)).bind fun i => ih _
  refine (hids _ _).bind fun ids => (Action.uses_perform (hgate _)).bind fun outcome => ?_
  split
  · exact Action.uses_pure _
  refine (Action.uses_perform (hversion _)).bind fun newVersion => ?_
  split
  · exact Action.uses_pure _
  exact (Action.uses_perform hprune).bind fun _ => Action.uses_pure _

/-- The end of `_rollback`, after its loop. -/
theorem regate_uses (hgate : ∀ req, ok (.healthGate req)) (allOk : Bool) : Action.Uses ok (do
    if allOk ∧ w.grefferName ≠ "" then
      let outcome ← step (.healthGate w.rollbackGate)
      if outcome = .ready then
        return .failedRolledBack
    return .failedRollbackFailed : Engine ExitCode) := by
  split
  · refine (Action.uses_perform (hgate _)).bind fun outcome => ?_
    split <;> exact Action.uses_pure _
  · exact Action.uses_pure _

theorem rb_uses (hroll : ∀ c inspected old, ok (.rollbackOne c inspected old))
    (hrestore : ∀ repo old, ok (.restoreLatest repo old)) (hgate : ∀ req, ok (.healthGate req)) :
    w.rb.Uses ok := by
  have hall : ∀ snaps allOk, (rollBackAll allOk snaps).Uses ok := by
    intro snaps
    induction snaps with
    | nil => exact fun _ => Action.uses_pure _
    | cons s rest ih =>
      intro allOk
      unfold rollBackAll
      split
      · exact ih _
      · refine (Action.uses_perform (hroll _ _ _)).bind fun rolled => ?_
        exact (Action.uses_perform (hrestore _ _)).bind fun _ => ih _
  refine Routine.uses_locals.bind fun done => Routine.uses_monadLift ?_
  exact (hall _ _).bind fun allOk => w.regate_uses hgate allOk

end Window

end Uses

/-- The updater, command by command. -/
def remoteUpdate (req : UpdateRequest) : Step ExitCode :=
  (runRemoteUpdate req).implement EngineCall.perform

end Greffer.Updater

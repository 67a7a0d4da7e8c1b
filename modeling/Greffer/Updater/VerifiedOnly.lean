import Greffer.Updater.Engine

/-! # Only verified images are run

The registry may answer anything at any time: a tag may name another digest at the
next question.  What is fixed is that a digest names its bytes, so the node keeps
for each local `:latest` the bytes it points at.

Before the first change the node is untouched, and the update goes on only with
every image of the stack resolved, verified and pulled.  From then on nothing is
resolved or verified any more, so what was verified stays so, and a container is
created on the forward path **right after its tag was moved to the verified digest**
(`recreateOne_vetted`); the rollback creates from captured image ids only.  To tell the two
apart every command is issued under the step it belongs to (`issuedUpdate`).
-/
namespace Greffer.Updater
open Effects

/-! ## Commands under their step -/

/-- A command, with the step of the update that it belongs to. -/
structure Issued where
  step : EngineCall
  command : Command

/-- It is answered as the command is. -/
@[reducible] def Issued.Answer (i : Issued) : Type := i.command.Answer

/-- Issue a command under a step. -/
def issueUnder (s : EngineCall) (c : Command) : Action Issued.Answer UpdateError c.Answer :=
  Action.perform (⟨s, c⟩ : Issued)

/-- Each step, by its commands, which are issued under it. -/
def EngineCall.issue (s : EngineCall) : Action Issued.Answer UpdateError s.Answer :=
  s.perform.implement (issueUnder s)

/-- The updater, command by command, each under its step. -/
def issuedUpdate (req : UpdateRequest) : Action Issued.Answer UpdateError ExitCode :=
  (runRemoteUpdate req).implement EngineCall.issue

/-- **Without the steps it is the updater.** -/
theorem issuedUpdate_commands (req : UpdateRequest) :
    (issuedUpdate req).implement (fun i : Issued => run i.command) = remoteUpdate req := by
  refine (Prog.implement_implement _).trans ?_
  refine congrArg (fun impl => Prog.implement impl (runRemoteUpdate req)) (funext fun s => ?_)
  exact (Prog.implement_implement _).trans (Prog.implement_self _)

/-! ## The node -/

/-- A container that was created: under which step, with which arguments, and the image it
runs. -/
structure Creation (Image : Type) where
  step : EngineCall
  args : CreateArgs
  image : Image

/-- A node, its local images identified by their bytes, with what the run has learnt
and done there. -/
structure Node (Image : Type) where
  /-- What the local `:latest` of a repository points at. -/
  latest : String → Option Image
  /-- The containers of the stack the project listing named. -/
  listing : List StackContainer := []
  inspections : List (String × Inspected) := []
  /-- What a name was resolved to. -/
  resolved : List (ImageRef × String) := []
  /-- Key, repository and digest of each signature that was accepted. -/
  verified : List (String × String × String) := []
  /-- A verification has failed. -/
  refused : Bool := false
  /-- The commands that change a container or a tag, in order. -/
  changes : List Command := []
  created : List (Creation Image) := []

/-- Whether a command returned with exit code 0. -/
def worked {Out : Type} : Except UpdateError (CommandResult Out) → Bool
  | .ok res => res.ok
  | .error _ => false

/-- What is read off the answer of a command; nothing, if it raised. -/
def readOff {Out β : Type} (f : CommandResult Out → Option β) :
    Except UpdateError (CommandResult Out) → Option β
  | .ok res => f res
  | .error _ => none

namespace Node
variable {Image : Type} (content byId : String → Image) (n n' : Node Image)

/-- What an image name stands for locally.  A name that is not local is fetched, and may
be anything. -/
def Denotes : ImageRef → Image → Prop
  | .byDigest _ digest, image => image = content digest
  | .id i, image => image = byId i
  | .tagged repo tag, image => tag = "latest" → ∀ here, n.latest repo = some here → image = here

/-- A command that changes a container or a tag has been issued. -/
def change (c : Command) : Node Image := { n with changes := n.changes ++ [c] }

/-- The tag `target` now points at `image`. -/
def setTag (target : ImageRef) (image : Image) : Node Image :=
  match target with
  | .tagged repo "latest" =>
    { n with latest := fun r => if r = repo then some image else n.latest r }
  | _ => n

/-- The effect of each command of a step.  One that failed or raised may have taken effect or
not. -/
def Serve (s : EngineCall) : (c : Command) → Raises Command.Answer UpdateError c → Prop
  | .psProject _, r =>
    n' = { n with listing := (readOff (fun res => some (listedIn res)) r).getD [] }
  | .inspect i, r => n' = match readOff inspectedOf r with
    | some inspected => { n with inspections := n.inspections ++ [(i, inspected)] }
    | none => n
  | .imagetoolsInspect ref, r => n' = match readOff resolvedDigest r with
    | some digest => { n with resolved := n.resolved ++ [(ref, digest)] }
    | none => { n with refused := true }
  | .cosignVerify pubkey repo digest, r =>
    n' = if worked r then { n with verified := n.verified ++ [(pubkey, repo, digest)] }
      else { n with refused := true }
  | .pull _, r => n' = if worked r then n else { n with refused := true }
  | .tag source target, r =>
    (∃ image, n.Denotes content byId source image ∧
      n' = (n.change (.tag source target)).setTag target image) ∨
    (worked r = false ∧ n' = n.change (.tag source target))
  | .stop timeout container, _ => n' = n.change (.stop timeout container)
  | .rm container, _ => n' = n.change (.rm container)
  | .start container, _ => n' = n.change (.start container)
  | .create args, r =>
    (∃ image, n.Denotes content byId args.image image ∧
      n' = { n.change (.create args) with created := n.created ++ [⟨s, args, image⟩] }) ∨
    (worked r = false ∧ n' = n.change (.create args))
  | _, _ => n' = n

end Node

/-- The node as a machine: `content` are the bytes a digest names, `byId` those of a
local image id. -/
def nodeMachine {Image : Type} (content byId : String → Image) :
    Machine (Raises Issued.Answer UpdateError) (Node Image) where
  serve n i r n' := n.Serve content byId n' i.step i.command r

/-- The same, for the commands of one step. -/
def stepMachine {Image : Type} (content byId : String → Image) (s : EngineCall) :
    Machine (Raises Command.Answer UpdateError) (Node Image) where
  serve n c r n' := n.Serve content byId n' s c r

/-- **A step is judged by its commands.** -/
theorem issue_always {Image : Type} {content byId : String → Image} {s : EngineCall}
    {I : Node Image → Prop} {Q : Except UpdateError s.Answer → Node Image → Prop} {n : Node Image} :
    s.issue.Always (nodeMachine content byId) I Q n ↔
      s.perform.Always (stepMachine content byId s) I Q n :=
  Prog.always_embed (f := fun c => (⟨s, c⟩ : Issued)) (M := nodeMachine content byId)

namespace Node
variable {Image : Type} (content : String → Image) (req : UpdateRequest)

/-- The stack of the last listing. -/
def stack (n : Node Image) : List StackContainer := (inRecreateOrder n.listing).containers

/-- The digest was resolved by this run for the repository, and verified bound to it. -/
def Vouched (n : Node Image) (repo digest : String) : Prop :=
  (ImageRef.tagged repo req.tag, digest) ∈ n.resolved ∧
    (req.cosignPub, repo, digest) ∈ n.verified

/-- A container created from the bytes of the digest vouched for its own repository. -/
def Vouches (n : Node Image) (e : Creation Image) : Prop :=
  ∃ c ∈ n.stack, ∃ inspected digest,
    (c.containerId, inspected) ∈ n.inspections ∧ e.args.name = inspected.bareName ∧
    e.args.image = .latest c.repo ∧ n.Vouched req c.repo digest ∧ e.image = content digest

/-- Where a container comes from: a rollback puts the captured image back, **and every other
step needs a digest vouched for**. -/
def Accounts (n : Node Image) (e : Creation Image) : Prop :=
  match e.step with
  | .rollbackOne _ _ old => e.args.image = .id old
  | _ => n.Vouches content req e

/-- **Only verified images**: a container created on the forward path, which is all but the
steps of the rollback, comes from the digest vouched for its repository; before the first
change every image of the stack is vouched for; after a failed verification nothing changes. -/
structure Safe (latest₀ : String → Option Image) (n : Node Image) : Prop where
  provenance : ∀ e ∈ n.created, n.Accounts content req e
  before : n.changes ≠ [] → ∀ c ∈ n.stack, ∃ digest, n.Vouched req c.repo digest
  refused : n.refused = true → n.changes = [] ∧ n.created = [] ∧ n.latest = latest₀

/-- Nothing has been changed. -/
structure Untouched (latest₀ : String → Option Image) (n : Node Image) : Prop where
  changes : n.changes = []
  created : n.created = []
  latest : n.latest = latest₀

theorem Untouched.safe {latest₀ : String → Option Image} {n : Node Image}
    (h : n.Untouched latest₀) : n.Safe content req latest₀ where
  provenance e he := by rw [h.created] at he; exact absurd he List.not_mem_nil
  before hne := absurd h.changes hne
  refused _ := ⟨h.changes, h.created, h.latest⟩

/-- The verification is over, and all of the stack is vouched for. -/
structure Vetted (n : Node Image) : Prop where
  provenance : ∀ e ∈ n.created, n.Accounts content req e
  before : ∀ c ∈ n.stack, ∃ digest, n.Vouched req c.repo digest
  refused : n.refused = false

theorem Vetted.safe {latest₀ : String → Option Image} {n : Node Image}
    (h : n.Vetted content req) : n.Safe content req latest₀ where
  provenance := h.provenance
  before _ := h.before
  refused hr := by rw [h.refused] at hr; cases hr

/-- What the run has learnt only grows, and the listing stands. -/
structure Extends (n n' : Node Image) : Prop where
  listing : n'.listing = n.listing
  inspections : n.inspections ⊆ n'.inspections
  resolved : n.resolved ⊆ n'.resolved
  verified : n.verified ⊆ n'.verified

namespace Extends
variable {n n' n'' : Node Image}

theorem refl (n : Node Image) : n.Extends n :=
  ⟨rfl, List.Subset.refl _, List.Subset.refl _, List.Subset.refl _⟩

theorem trans (h : n.Extends n') (h' : n'.Extends n'') : n.Extends n'' :=
  ⟨h'.listing.trans h.listing, List.Subset.trans h.inspections h'.inspections,
    List.Subset.trans h.resolved h'.resolved, List.Subset.trans h.verified h'.verified⟩

theorem stack (h : n.Extends n') : n'.stack = n.stack := by
  unfold Node.stack
  rw [h.listing]

theorem vouched {repo digest : String} (h : n.Extends n') (hv : n.Vouched req repo digest) :
    n'.Vouched req repo digest := ⟨h.resolved hv.1, h.verified hv.2⟩

theorem vouches {e : Creation Image} (h : n.Extends n') (hv : n.Vouches content req e) :
    n'.Vouches content req e := by
  obtain ⟨c, hc, inspected, digest, hin, hname, himage, hvouched, hbytes⟩ := hv
  exact ⟨c, h.stack ▸ hc, inspected, digest, h.inspections hin, hname, himage,
    h.vouched req hvouched, hbytes⟩

theorem accounts {e : Creation Image} (h : n.Extends n') (hv : n.Accounts content req e) :
    n'.Accounts content req e := by
  obtain ⟨s, args, image⟩ := e
  cases s with
  | rollbackOne c inspected old => exact hv
  | _ => exact h.vouches content req hv

/-- What extends a vetted node, and has created nothing unaccounted for, is vetted. -/
theorem vetted (h : n.Extends n') (hv : n.Vetted content req) (hrefused : n'.refused = n.refused)
    (hcreated : ∀ e ∈ n'.created, e ∈ n.created ∨ n'.Accounts content req e) :
    n'.Vetted content req where
  provenance e he := by
    rcases hcreated e he with he | he
    · exact h.accounts content req (hv.provenance e he)
    · exact he
  before c hc := by
    rw [h.stack] at hc
    obtain ⟨digest, hd⟩ := hv.before c hc
    exact ⟨digest, h.vouched req hd⟩
  refused := hrefused.trans hv.refused

end Extends

end Node

/-! ## What the commands do to the node -/

section Commands
variable {Image : Type} {content byId : String → Image} {req : UpdateRequest} {s : EngineCall}
  {latest₀ : String → Option Image} {n n' n₀ : Node Image}

/-- Whether a command leaves the node as it is, and the run no wiser about its stack. -/
def Command.looks : Command → Bool
  | .psProject _ | .inspect _ | .imagetoolsInspect _ | .cosignVerify _ _ _ | .pull _
  | .tag _ _ | .stop _ _ | .rm _ | .create _ | .start _ => false
  | _ => true

theorem Node.looks_serve {c : Command} {r : Raises Command.Answer UpdateError c}
    (hs : n.Serve content byId n' s c r) (hc : c.looks = true) : n' = n := by
  cases c <;> first | exact hs | cases hc

namespace Node

theorem extends_resolved (answer : Option String) (ref : ImageRef) :
    n.Extends (match answer with
      | some digest => { n with resolved := n.resolved ++ [(ref, digest)] }
      | none => { n with refused := true }) := by
  cases answer with
  | none => exact ⟨rfl, List.Subset.refl _, List.Subset.refl _, List.Subset.refl _⟩
  | some digest =>
    exact ⟨rfl, List.Subset.refl _, List.subset_append_left _ _, List.Subset.refl _⟩

theorem extends_verified (ok : Bool) (e : String × String × String) :
    n.Extends (if ok then { n with verified := n.verified ++ [e] }
      else { n with refused := true }) := by
  cases ok with
  | false => exact ⟨rfl, List.Subset.refl _, List.Subset.refl _, List.Subset.refl _⟩
  | true => exact ⟨rfl, List.Subset.refl _, List.Subset.refl _, List.subset_append_left _ _⟩

theorem extends_inspected (answer : Option Inspected) (i : String) :
    n.Extends (match answer with
      | some inspected => { n with inspections := n.inspections ++ [(i, inspected)] }
      | none => n) := by
  cases answer with
  | none => exact .refl n
  | some inspected =>
    exact ⟨rfl, List.subset_append_left _ _, List.Subset.refl _, List.Subset.refl _⟩

theorem setTag_extends (target : ImageRef) (image : Image) : n.Extends (n.setTag target image) := by
  unfold setTag
  split <;> exact ⟨rfl, List.Subset.refl _, List.Subset.refl _, List.Subset.refl _⟩

theorem change_extends (c : Command) : n.Extends (n.change c) :=
  ⟨rfl, List.Subset.refl _, List.Subset.refl _, List.Subset.refl _⟩

end Node

/-- Commands that look keep everything. -/
theorem looks_always {α : Type} {m : Step α} {I : Node Image → Prop}
    (hm : m.Uses (fun c => c.looks = true)) (h : I n) :
    m.Always (stepMachine content byId s) I (fun _ => I) n := by
  refine hm.always ?_ h
  intro n c r n' hc hn hs
  rw [Node.looks_serve hs hc]
  exact hn

theorem issue_looks {I : Node Image → Prop} (hs : s.perform.Uses (fun c => c.looks = true))
    (h : I n) : s.issue.Always (nodeMachine content byId) I (fun _ => I) n :=
  issue_always.mpr (looks_always hs h)

theorem run_looks {c : Command} (hc : c.looks = true) :
    (run c).Uses fun c => c.looks = true := Action.uses_perform hc

end Commands

/-! ## Steps that only look -/

section Looking

theorem grefferContainerId_looks : grefferContainerId.Uses (fun c => c.looks = true) := by
  refine (run_looks rfl).bind fun res => ?_
  split <;> exact Action.uses_pure _

theorem projectOf_looks (i : String) : (projectOf i).Uses (fun c => c.looks = true) := by
  refine (run_looks rfl).bind fun res => ?_
  split <;> exact Action.uses_pure _

theorem execVersion_looks (i : String) : (execVersion i).Uses (fun c => c.looks = true) :=
  (run_looks rfl).bind fun _ => Action.uses_pure _

theorem imageId_looks (ref : ImageRef) : (imageId ref).Uses (fun c => c.looks = true) :=
  (run_looks rfl).bind fun _ => Action.uses_pure _

theorem currentImageId_looks (repo : String) :
    (currentImageId repo).Uses (fun c => c.looks = true) :=
  (run_looks rfl).bind fun _ => Action.uses_pure _

theorem danglingPrune_looks : danglingPrune.Uses (fun c => c.looks = true) :=
  (run_looks rfl).bind fun _ => Action.uses_pure _

theorem baselineConfig_looks (i : Option String) :
    (baselineConfig i).Uses (fun c => c.looks = true) := by
  unfold baselineConfig
  split
  · exact Action.uses_pure _
  · refine (run_looks rfl).bind fun res => ?_
    split <;> exact Action.uses_pure _

theorem applied_looks (ids : List (String × Option String)) (names : List String) :
    (applied ids names).Uses (fun c => c.looks = true) := by
  induction names with
  | nil => exact Action.uses_pure _
  | cons name rest ih =>
    unfold applied
    split
    · exact ih
    · have himage : (containerImageIdByName name).Uses (fun c => c.looks = true) :=
        (run_looks rfl).bind fun _ => Action.uses_pure _
      refine himage.bind fun actual => ?_
      split
      · exact Action.uses_pure _
      · exact ih

theorem allRunning_looks (names : List String) :
    (allRunning names).Uses (fun c => c.looks = true) := by
  induction names with
  | nil => exact Action.uses_pure _
  | cons name rest ih =>
    have hrunning : (containerRunning name).Uses (fun c => c.looks = true) :=
      (run_looks rfl).bind fun _ => Action.uses_pure _
    refine hrunning.bind fun running => ?_
    split
    · exact Action.uses_pure _
    · exact ih

theorem judgeProbe_looks (req : GateRequest) (probe : CommandResult (Option ReadyzBody)) :
    (judgeProbe req probe).Uses fun c => c.looks = true := by
  have hready : (judgeReady req).Uses fun c => c.looks = true := by
    have hnew : (onNewImages req).Uses fun c => c.looks = true := by
      unfold onNewImages
      split
      · exact applied_looks _ _
      · exact Action.uses_pure _
    refine hnew.bind fun isNew => ?_
    split
    · exact Action.uses_pure _
    · refine (allRunning_looks _).bind fun all => ?_
      split <;> exact Action.uses_pure _
  unfold judgeProbe
  split
  · unfold judge
    split
    · exact Action.uses_pure _
    split
    · exact Action.uses_pure _
    split
    · exact Action.uses_pure _
    split
    · exact hready
    · exact Action.uses_pure _
  · exact Action.uses_pure _

theorem restartCount_looks (name : String) :
    (restartCount name).Uses (fun c => c.looks = true) := by
  refine (run_looks rfl).bind fun res => ?_
  split <;> exact Action.uses_pure _

theorem pollGate_looks (req : GateRequest) (deadline : Rat) (base : Int) (polls : Nat) :
    (pollGate req deadline base polls).Uses (fun c => c.looks = true) := by
  induction polls with
  | zero => exact Action.uses_pure _
  | succ polls ih =>
    unfold pollGate
    refine (run_looks rfl).bind fun now => ?_
    split
    · exact Action.uses_pure _
    refine (run_looks rfl).bind fun probe => ?_
    refine (judgeProbe_looks req probe).bind fun decided => ?_
    split
    · exact Action.uses_pure _
    · refine (restartCount_looks req.grefferName).bind fun count => ?_
      split
      · exact Action.uses_pure _
      · exact (run_looks rfl).bind fun _ => ih

theorem healthGate_looks (req : GateRequest) :
    (healthGate req).Uses (fun c => c.looks = true) :=
  (run_looks rfl).bind fun _ => (restartCount_looks req.grefferName).bind fun _ =>
    pollGate_looks req _ _ _

end Looking

/-! ## Before the first change -/

section Before
variable {Image : Type} {content byId : String → Image} {req : UpdateRequest} {s : EngineCall}
  {latest₀ : String → Option Image} {n n' : Node Image}

theorem Node.Untouched.learn (h : n.Untouched latest₀) (hchanges : n'.changes = n.changes)
    (hcreated : n'.created = n.created) (hlatest : n'.latest = n.latest) :
    n'.Untouched latest₀ :=
  ⟨hchanges.trans h.changes, hcreated.trans h.created, hlatest.trans h.latest⟩

/-- What discovery returns is the stack of the listing. -/
theorem discoverStack_listed (h : n.Untouched latest₀) (hr : n.refused = false) :
    discoverStack.Always (stepMachine content byId s) (Node.Untouched latest₀)
      (fun r n' => n'.refused = false ∧
        ∀ stack, r = .ok stack → stack.containers = [] ∨ stack.containers = n'.stack) n := by
  have hlook : ∀ {α : Type} {m : Step α} {n : Node Image}, m.Uses (fun c => c.looks = true) →
      n.Untouched latest₀ → n.refused = false →
      m.Always (stepMachine content byId s) (Node.Untouched latest₀)
        (fun _ n' => n'.Untouched latest₀ ∧ n'.refused = false) n := by
    intro α m n hm h hr
    exact (looks_always (I := fun n => n.Untouched latest₀ ∧ n.refused = false) hm ⟨h, hr⟩).imp
      (fun _ h => h.1) fun _ _ _ h => h
  unfold discoverStack
  rw [Action.always_bind]
  refine (hlook grefferContainerId_looks h hr).mono ?_
  rintro (e | _ | grefferId) n₁ - ⟨h₁, hr₁⟩
  · exact ⟨hr₁, fun _ hx => by cases hx⟩
  · refine ⟨h₁, hr₁, ?_⟩
    rintro _ ⟨⟩
    exact .inl rfl
  rw [onOk_ok]
  dsimp only
  rw [Action.always_bind]
  refine (hlook (projectOf_looks grefferId) h₁ hr₁).mono ?_
  rintro (e | _ | project) n₂ - ⟨h₂, hr₂⟩
  · exact ⟨hr₂, fun _ hx => by cases hx⟩
  · refine ⟨h₂, hr₂, ?_⟩
    rintro _ ⟨⟩
    exact .inl rfl
  rw [onOk_ok]
  dsimp only
  rw [Action.always_bind]
  refine ⟨h₂, ?_⟩
  rintro (e | res) n₃ hs
  · have hn₃ : n₃ = { n₂ with listing := [] } := hs
    subst hn₃
    exact ⟨h₂.learn rfl rfl rfl, hr₂, fun _ hx => by cases hx⟩
  · have hn₃ : n₃ = { n₂ with listing := listedIn res } := hs
    subst hn₃
    refine ⟨h₂.learn rfl rfl rfl, h₂.learn rfl rfl rfl, hr₂, ?_⟩
    rintro _ ⟨⟩
    exact .inr rfl

/-- **A digest that is returned was resolved and verified** for that repository. -/
theorem verifyAndPull_vouched (repo : String) (h : n.Untouched latest₀) (hr : n.refused = false) :
    (verifyAndPull repo req.cosignPub req.tag).Always (stepMachine content byId s)
      (Node.Untouched latest₀)
      (fun r n' => n.Extends n' ∧ ∀ digest, r = .ok digest →
        n'.refused = false ∧ n'.Vouched req repo digest) n := by
  unfold verifyAndPull resolveDigest
  rw [Action.always_bind, Action.always_bind]
  refine ⟨h, ?_⟩
  -- the tag is resolved: a failure refuses, and an answer is remembered if it names a digest
  rintro (e | res) n₁ hs
  · have hn₁ : n₁ = { n with refused := true } := hs
    subst hn₁
    exact ⟨h.learn rfl rfl rfl, Node.extends_resolved none (.tagged repo req.tag), fun _ hx => by cases hx⟩
  have hn₁ : n₁ = match resolvedDigest res with
      | some digest =>
        { n with resolved := n.resolved ++ [(ImageRef.tagged repo req.tag, digest)] }
      | none => { n with refused := true } := hs
  have hext₁ : n.Extends n₁ := hn₁ ▸ Node.extends_resolved _ _
  refine ⟨?_, ?_⟩
  · rw [hn₁]
    split <;> exact h.learn rfl rfl rfl
  rw [onOk_ok, Action.always_pure, onOk_ok]
  cases hdigest : resolvedDigest res with
  | none =>
    rw [hdigest] at hn₁
    subst hn₁
    exact ⟨h.learn rfl rfl rfl, h.learn rfl rfl rfl, hext₁, fun _ hx => by cases hx⟩
  | some digest =>
    rw [hdigest] at hn₁
    have h₁ : n₁.Untouched latest₀ := hn₁ ▸ (h.learn rfl rfl rfl)
    have hr₁ : n₁.refused = false := hn₁ ▸ hr
    have hresolved : (ImageRef.tagged repo req.tag, digest) ∈ n₁.resolved := by
      rw [hn₁]
      exact List.mem_append_right _ List.mem_cons_self
    clear hn₁
    refine ⟨h₁, ?_⟩
    -- the signature: only one that was checked with this key is remembered
    unfold cosignVerify
    dsimp only
    rw [Action.always_bind, Action.always_bind]
    refine ⟨h₁, fun r n₂ hs₂ => ?_⟩
    have hn₂ : n₂ = if worked r then
        { n₁ with verified := n₁.verified ++ [(req.cosignPub, repo, digest)] }
        else { n₁ with refused := true } := hs₂
    have hext₂ : n₁.Extends n₂ := hn₂ ▸ Node.extends_verified _ _
    have h₂ : n₂.Untouched latest₀ := by
      rw [hn₂]
      split <;> exact h₁.learn rfl rfl rfl
    refine ⟨h₂, ?_⟩
    cases r with
    | error e => exact ⟨hext₁.trans hext₂, fun _ hx => by cases hx⟩
    | ok signature =>
      rw [onOk_ok, Action.always_pure, onOk_ok, Action.always_ite]
      refine ⟨h₂, fun _ => ⟨h₂, hext₁.trans hext₂, fun _ hx => by cases hx⟩, fun hok => ?_⟩
      have hworked : worked (Except.ok signature) = true :=
        show signature.ok = true by simpa using hok
      rw [hworked] at hn₂
      have hr₂ : n₂.refused = false := hn₂ ▸ hr₁
      have hverified : (req.cosignPub, repo, digest) ∈ n₂.verified := by
        rw [hn₂]
        exact List.mem_append_right _ List.mem_cons_self
      have hvouched : n₂.Vouched req repo digest := ⟨hext₂.resolved hresolved, hverified⟩
      clear hn₂
      -- the pull adds nothing to what is known
      rw [Action.always_bind]
      refine ⟨h₂, fun r n₃ hs₃ => ?_⟩
      have hn₃ : n₃ = if worked r then n₂ else { n₂ with refused := true } := hs₃
      have h₃ : n₃.Untouched latest₀ := by
        rw [hn₃]
        split
        · exact h₂
        · exact h₂.learn rfl rfl rfl
      have hext₃ : n₂.Extends n₃ := by
        rw [hn₃]
        split
        · exact .refl _
        · exact ⟨rfl, List.Subset.refl _, List.Subset.refl _, List.Subset.refl _⟩
      have hext := (hext₁.trans hext₂).trans hext₃
      refine ⟨h₃, ?_⟩
      cases r with
      | error e => exact ⟨hext, fun _ hx => by cases hx⟩
      | ok pulled =>
        rw [onOk_ok, Action.always_ite]
        refine ⟨fun _ => ⟨h₃, hext, fun _ hx => by cases hx⟩, fun hok => ⟨h₃, hext, ?_⟩⟩
        rintro _ ⟨⟩
        have hworked : worked (Except.ok pulled) = true :=
          show pulled.ok = true by simpa using hok
        rw [hworked] at hn₃
        exact ⟨hn₃ ▸ hr₂, hext₃.vouched req hvouched⟩

/-- A dictionary of vouched digests, for every repository of the containers. -/
structure Node.Digests (req : UpdateRequest) (cs : List StackContainer)
    (verified : List (String × String)) (n : Node Image) : Prop where
  vouched : ∀ repo digest, verified.lookup repo = some digest → n.Vouched req repo digest
  complete : ∀ c ∈ cs, (verified.lookup c.repo).isSome

/-- The loop of the first phase: what is verified so far (`done`), and what the rest adds. -/
theorem verifyAll_digests (cs done : List StackContainer) (verified : List (String × String))
    (h : n.Untouched latest₀) (hr : n.refused = false) (hd : n.Digests req done verified) :
    ((verifyAll req cs verified).implement EngineCall.issue).Always (nodeMachine content byId)
      (Node.Untouched latest₀)
      (fun r n' => n.Extends n' ∧ ∀ all, r = .ok all →
        n'.refused = false ∧ n'.Digests req (done ++ cs) all) n := by
  induction cs generalizing done verified n with
  | nil =>
    refine ⟨h, .refl n, ?_⟩
    rintro _ ⟨⟩
    exact ⟨hr, by rwa [List.append_nil]⟩
  | cons c rest ih =>
    unfold verifyAll
    rw [Action.implement_bind, Action.implement_perform, Action.always_bind, issue_always]
    refine (verifyAndPull_vouched c.repo h hr).mono ?_
    rintro (e | digest) n₁ h₁ ⟨hext, hv⟩
    · exact ⟨hext, fun _ hx => by cases hx⟩
    obtain ⟨hr₁, hvouched⟩ := hv digest rfl
    have hd₁ : n₁.Digests req (done ++ [c]) (upsert verified c.repo digest) := by
      refine ⟨fun repo d hlookup => ?_, fun c' hc' => ?_⟩
      · by_cases hrepo : repo = c.repo
        · subst hrepo
          rw [lookup_upsert_self] at hlookup
          obtain rfl := Option.some.inj hlookup
          exact hvouched
        · rw [lookup_upsert_ne _ _ hrepo] at hlookup
          exact hext.vouched req (hd.vouched repo d hlookup)
      · by_cases hrepo : c'.repo = c.repo
        · rw [hrepo, lookup_upsert_self]
          rfl
        · rw [lookup_upsert_ne _ _ hrepo]
          rcases List.mem_append.mp hc' with hc' | hc'
          · exact hd.complete c' hc'
          · exact absurd (congrArg StackContainer.repo (List.mem_singleton.mp hc')) hrepo
    rw [onOk_ok]
    refine (ih (done ++ [c]) _ h₁ hr₁ hd₁).mono ?_
    rintro r n₂ - ⟨hext₂, hall⟩
    refine ⟨hext.trans hext₂, fun all hr => ?_⟩
    obtain ⟨hr₂, hd₂⟩ := hall all hr
    exact ⟨hr₂, by rwa [List.append_assoc] at hd₂⟩

/-- Phase 1 goes on only with every image of the stack vouched for. -/
theorem phaseOne_digests (stack : Stack) (h : n.Untouched latest₀) (hr : n.refused = false) :
    ((phaseOne req stack).implement EngineCall.issue).Always (nodeMachine content byId)
      (Node.Untouched latest₀)
      (fun r n' => n.Extends n' ∧ ∀ verified, r = .ok (some verified) →
        n'.refused = false ∧ n'.Digests req stack.containers verified) n := by
  unfold phaseOne
  rw [Action.implement_tryExcept, Action.always_tryExcept, Action.implement_bind,
    Action.always_bind]
  refine (verifyAll_digests stack.containers [] [] h hr ⟨fun _ _ hx => (by cases hx), fun _ hx =>
    absurd hx List.not_mem_nil⟩).mono ?_
  rintro (e | all) n₁ h₁ ⟨hext, hd⟩
  · cases e with
    | verify text => exact ⟨h₁, hext, fun _ hx => by cases hx⟩
    | raised e => exact ⟨h₁, hext, fun _ hx => by cases hx⟩
  · refine ⟨h₁, hext, ?_⟩
    rintro _ ⟨⟩
    exact hd all rfl

/-- The snapshots of a stack, all of them inspected in this run. -/
structure Node.Snapped (cs : List StackContainer) (snaps : List Snap) (n : Node Image) : Prop where
  containers : ∀ s ∈ snaps, s.container ∈ cs
  inspected : ∀ s ∈ snaps, (s.container.containerId, s.inspected) ∈ n.inspections

theorem snapshot_inspected (cs : List StackContainer) (h : n.Untouched latest₀)
    (hr : n.refused = false) :
    ((snapshot cs).implement EngineCall.issue).Always (nodeMachine content byId)
      (Node.Untouched latest₀)
      (fun r n' => n.Extends n' ∧ n'.refused = false ∧
        ∀ snaps, r = .ok (some snaps) → n'.Snapped cs snaps) n := by
  induction cs generalizing n with
  | nil =>
    refine ⟨h, .refl n, hr, ?_⟩
    rintro _ ⟨⟩
    exact ⟨fun _ hs => absurd hs List.not_mem_nil, fun _ hs => absurd hs List.not_mem_nil⟩
  | cons c rest ih =>
    unfold snapshot
    rw [Action.implement_bind, Action.implement_perform, Action.always_bind, issue_always]
    unfold EngineCall.perform inspectContainer
    rw [Action.always_bind]
    refine ⟨h, fun r n₁ hs => ?_⟩
    have hn₁ : n₁ = match readOff inspectedOf r with
        | some inspected => { n with inspections := n.inspections ++ [(c.containerId, inspected)] }
        | none => n := hs
    have hext₁ : n.Extends n₁ := hn₁ ▸ Node.extends_inspected _ _
    have h₁ : n₁.Untouched latest₀ := by
      rw [hn₁]
      split
      · exact h.learn rfl rfl rfl
      · exact h
    have hr₁ : n₁.refused = false := by
      rw [hn₁]
      split <;> exact hr
    refine ⟨h₁, ?_⟩
    cases r with
    | error e => exact ⟨hext₁, hr₁, fun _ hx => by cases hx⟩
    | ok res =>
      rw [onOk_ok, Action.always_pure]
      refine ⟨h₁, ?_⟩
      rw [onOk_ok]
      cases hins : inspectedOf res with
      | none => exact ⟨h₁, hext₁, hr₁, fun _ hx => by cases hx⟩
      | some inspected =>
        have hin : (c.containerId, inspected) ∈ n₁.inspections := by
          rw [hn₁, show readOff inspectedOf (Except.ok res) = some inspected from hins]
          exact List.mem_append_right _ List.mem_cons_self
        clear hn₁
        -- The rest of the stack, whether or not the old image had to be looked up.
        have hrest : ∀ (old : Option String) (n₂ : Node Image), n₂ = n₁ → Action.Always
            (nodeMachine content byId) (Node.Untouched latest₀)
            (fun r n' => n.Extends n' ∧ n'.refused = false ∧
              ∀ snaps, r = .ok (some snaps) → n'.Snapped (c :: rest) snaps)
            (Action.implement EngineCall.issue (snapshotRest c inspected old rest)) n₂ := by
          rintro old _ rfl
          unfold snapshotRest
          rw [Action.implement_bind, Action.always_bind]
          refine (ih h₁ hr₁).mono ?_
          rintro (e | _ | snaps) n₃ h₃ ⟨hext₃, hr₃, hsnapped⟩
          · exact ⟨hext₁.trans hext₃, hr₃, fun _ hx => by cases hx⟩
          · exact ⟨h₃, hext₁.trans hext₃, hr₃, fun _ hx => by cases hx⟩
          · refine ⟨h₃, hext₁.trans hext₃, hr₃, ?_⟩
            rintro _ ⟨⟩
            obtain ⟨hcontainers, hinspected⟩ := hsnapped snaps rfl
            refine ⟨fun s hs => ?_, fun s hs => ?_⟩
            · rcases List.mem_cons.mp hs with rfl | hs
              · exact List.mem_cons_self
              · exact List.mem_cons_of_mem _ (hcontainers s hs)
            · rcases List.mem_cons.mp hs with rfl | hs
              · exact hext₃.inspections hin
              · exact hinspected s hs
        dsimp only
        split
        · exact hrest _ n₁ rfl
        · rw [Action.implement_bind, Action.implement_perform, Action.always_bind]
          refine (issue_looks (s := .currentImageId c.repo) (I := fun n₂ => n₂ = n₁)
            (currentImageId_looks c.repo) rfl).imp (fun n₂ hn₂ => hn₂ ▸ h₁) ?_
          rintro (e | old) n₂ - hn₂
          · subst hn₂
            exact ⟨hext₁, hr₁, fun _ hx => by cases hx⟩
          · exact hrest old n₂ hn₂

end Before

/-! ## The window -/

section During
variable {Image : Type} {content byId : String → Image} {req : UpdateRequest} {s : EngineCall}
  {latest₀ : String → Option Image} {n n' n₀ : Node Image}

/-- A vetted node, later than `n₀`. -/
structure Node.Going (content : String → Image) (req : UpdateRequest) (n₀ n : Node Image) :
    Prop where
  later : n₀.Extends n
  vetted : n.Vetted content req

theorem Node.Going.of_extends (h : n₀.Going content req n) (hext : n.Extends n')
    (hrefused : n'.refused = n.refused) (hcreated : n'.created = n.created) :
    n₀.Going content req n' where
  later := h.later.trans hext
  vetted := hext.vetted content req h.vetted hrefused fun _ he => .inl (hcreated ▸ he)

theorem Node.Going.change (h : n₀.Going content req n) (c : Command) :
    n₀.Going content req (n.change c) := h.of_extends (Node.change_extends c) rfl rfl

theorem Node.Going.setTag (h : n₀.Going content req n) (target : ImageRef) (image : Image) :
    n₀.Going content req (n.setTag target image) := by
  refine h.of_extends (Node.setTag_extends target image) ?_ ?_
  all_goals unfold Node.setTag
  all_goals split <;> rfl

/-- `docker tag` keeps what has been vetted; if it worked, the tag has moved. -/
theorem tag_going (source target : ImageRef) (h : n₀.Going content req n) :
    (tag source target).Always (stepMachine content byId s) (Node.Going content req n₀)
      (fun r n' => r = .ok true → ∃ image, n.Denotes content byId source image ∧
        n' = (n.change (.tag source target)).setTag target image) n := by
  unfold tag
  rw [Action.always_bind]
  refine ⟨h, fun r n₁ hs => ?_⟩
  have h₁ : n₀.Going content req n₁ := by
    rcases hs with ⟨image, -, rfl⟩ | ⟨-, rfl⟩
    · exact (h.change _).setTag target image
    · exact h.change _
  refine ⟨h₁, ?_⟩
  cases r with
  | error e => exact fun hx => by cases hx
  | ok res =>
    refine ⟨h₁, fun hr => ?_⟩
    rcases hs with hmoved | ⟨hfailed, -⟩
    · exact hmoved
    · have hok : res.ok = true := Except.ok.inj hr
      rw [show worked (Except.ok res) = true from hok] at hfailed
      cases hfailed

/-- A vetted node, its tags where they were when the recreate began. -/
structure Node.Tagged (content : String → Image) (req : UpdateRequest) (n₀ : Node Image)
    (latest : String → Option Image) (n : Node Image) : Prop where
  going : n₀.Going content req n
  latest : n.latest = latest

theorem Node.Tagged.change {latest : String → Option Image} (c : Command)
    (h : n₀.Tagged content req latest n) : n₀.Tagged content req latest (n.change c) :=
  ⟨h.going.change c, h.latest⟩

/-- **Replacing a container** creates one, which is to be accounted for. -/
theorem replaceContainer_tagged {args : CreateArgs} {latest : String → Option Image} (ref : String)
    (h : n₀.Tagged content req latest n)
    (hfrom : ∀ (n : Node Image) image, n₀.Tagged content req latest n →
      n.Denotes content byId args.image image → n.Accounts content req ⟨s, args, image⟩) :
    (replaceContainer args ref).Always (stepMachine content byId s)
      (Node.Tagged content req n₀ latest) (fun _ _ => True) n := by
  unfold replaceContainer
  rw [Action.always_bind]
  refine ⟨h, fun r n₁ hs => ?_⟩
  have h₁ : n₀.Tagged content req latest n₁ := by
    rw [show n₁ = n.change (.stop 30 ref) from hs]
    exact Node.Tagged.change _ h
  refine ⟨h₁, ?_⟩
  cases r with
  | error e => trivial
  | ok stopped =>
    rw [onOk_ok, Action.always_bind]
    refine ⟨h₁, fun r n₂ hs => ?_⟩
    have h₂ : n₀.Tagged content req latest n₂ := by
      rw [show n₂ = n₁.change (.rm ref) from hs]
      exact Node.Tagged.change _ h₁
    refine ⟨h₂, ?_⟩
    cases r with
    | error e => trivial
    | ok removed =>
      rw [onOk_ok, Action.always_ite]
      refine ⟨fun _ => ⟨h₂, trivial⟩, fun _ => ?_⟩
      rw [Action.always_bind]
      refine ⟨h₂, fun r n₃ hs => ?_⟩
      -- the create is the only step that makes a container, of whatever the name stands for now
      have h₃ : n₀.Tagged content req latest n₃ := by
        rcases hs with ⟨image, hdenotes, rfl⟩ | ⟨-, rfl⟩
        · have hext : n₂.Extends { n₂.change (.create args) with
              created := n₂.created ++ [⟨s, args, image⟩] } :=
            ⟨rfl, List.Subset.refl _, List.Subset.refl _, List.Subset.refl _⟩
          refine ⟨⟨h₂.going.later.trans hext, ?_⟩, h₂.latest⟩
          refine hext.vetted content req h₂.going.vetted rfl fun e he => ?_
          rcases List.mem_append.mp he with he | he
          · exact .inl he
          · obtain rfl := List.mem_singleton.mp he
            exact .inr (hfrom n₂ image h₂ hdenotes)
        · exact Node.Tagged.change _ h₂
      refine ⟨h₃, ?_⟩
      cases r with
      | error e => trivial
      | ok created =>
        rw [onOk_ok, Action.always_ite]
        refine ⟨fun _ => ⟨h₃, trivial⟩, fun _ => ?_⟩
        rw [Action.always_bind]
        refine ⟨h₃, fun r n₄ hs => ?_⟩
        have h₄ : n₀.Tagged content req latest n₄ := by
          rw [show n₄ = n₃.change (.start args.name) from hs]
          exact Node.Tagged.change _ h₃
        refine ⟨h₄, ?_⟩
        cases r with
        | error e => trivial
        | ok started => exact ⟨h₄, trivial⟩

/-- **Recreating** keeps what has been vetted, if the container is accounted for whatever its
image name stands for. -/
theorem doRecreate_going {inspected : Inspected} {imageRef : ImageRef}
    {latest : String → Option Image} (baseline : Option String) (service ref : String)
    (h : n₀.Tagged content req latest n)
    (hfrom : ∀ (n : Node Image) args image, n₀.Tagged content req latest n →
      args.image = imageRef → args.name = inspected.bareName →
      n.Denotes content byId imageRef image → n.Accounts content req ⟨s, args, image⟩) :
    (doRecreate inspected imageRef baseline service ref).Always (stepMachine content byId s)
      (Node.Going content req n₀) (fun _ _ => True) n := by
  unfold doRecreate
  rw [Action.always_bind]
  refine (looks_always (I := Node.Tagged content req n₀ latest) (baselineConfig_looks baseline)
    h).imp (fun _ hn => hn.going) ?_
  rintro (e | oldCfg) n₁ h₁ -
  · trivial
  rw [onOk_ok, Action.always_ite]
  refine ⟨fun _ => ⟨h₁.going, trivial⟩, fun _ => ?_⟩
  refine (replaceContainer_tagged ref h₁ fun n image hn hdenotes => ?_).imp (fun _ hn => hn.going)
    fun _ _ _ _ => trivial
  exact hfrom n _ image hn rfl rfl hdenotes

/-- **The forward recreate**: right after its tag was moved to the vouched digest, a
container is created from that digest's bytes. -/
theorem recreateOne_vetted {c : StackContainer} {inspected : Inspected} {digest : String}
    (old : Option String) (h : n₀.Going content req n) (hc : c ∈ n₀.stack)
    (hin : (c.containerId, inspected) ∈ n₀.inspections) (hv : n₀.Vouched req c.repo digest)
    (hlatest : n.latest c.repo = some (content digest)) :
    (EngineCall.recreateOne c (.latest c.repo) old inspected).issue.Always
      (nodeMachine content byId) (Node.Going content req n₀) (fun _ _ => True) n := by
  rw [issue_always]
  refine doRecreate_going old c.service c.containerId ⟨h, rfl⟩ ?_
  intro n₁ args image h₁ himage hname hdenotes
  have hbytes : image = content digest := by
    refine hdenotes rfl (content digest) ?_
    rw [h₁.latest]
    exact hlatest
  exact ⟨c, h₁.going.later.stack ▸ hc, inspected, digest,
    h₁.going.later.inspections hin, hname, himage, h₁.going.later.vouched req hv, hbytes⟩

/-- A step of the engine that keeps what has been vetted. -/
def EngineCall.Keeps (content byId : String → Image) (req : UpdateRequest) (n₀ : Node Image)
    (c : EngineCall) : Prop :=
  ∀ n : Node Image, n₀.Going content req n → c.issue.Always (nodeMachine content byId)
    (Node.Going content req n₀) (fun _ => Node.Going content req n₀) n

theorem keeps_of_looks {c : EngineCall} (h : c.perform.Uses fun c => c.looks = true) :
    c.Keeps content byId req n₀ := fun _ hn => issue_looks h hn

theorem keeps_of_invariant {c : EngineCall}
    (h : ∀ n : Node Image, n₀.Going content req n → c.perform.Always (stepMachine content byId c)
      (Node.Going content req n₀) (fun _ _ => True) n) : c.Keeps content byId req n₀ :=
  fun n hn => issue_always.mpr ((h n hn).mono fun _ _ hn' _ => hn')

theorem restoreLatest_keeps (repo i : String) :
    (EngineCall.restoreLatest repo i).Keeps content byId req n₀ := by
  refine keeps_of_invariant fun n hn => ?_
  show (restoreLatest repo i).Always _ _ _ n
  unfold restoreLatest
  split
  · exact ⟨hn, trivial⟩
  · exact (tag_going _ _ hn).mono fun _ _ _ _ => trivial

theorem tagPrevious_keeps (repo : String) (i : Option String) :
    (EngineCall.tagPrevious repo i).Keeps content byId req n₀ := by
  refine keeps_of_invariant fun n hn => ?_
  show (tagPrevious repo i).Always _ _ _ n
  unfold tagPrevious
  split
  · exact ⟨hn, trivial⟩
  · exact (tag_going _ _ hn).mono fun _ _ _ _ => trivial

theorem rollbackOne_keeps (c : StackContainer) (inspected : Inspected) (old : String) :
    (EngineCall.rollbackOne c inspected old).Keeps content byId req n₀ := by
  refine keeps_of_invariant fun n hn => ?_
  refine doRecreate_going _ _ _ ⟨hn, rfl⟩ ?_
  intro n₁ args image _ himage _ _
  exact himage

variable (win : Window)

theorem recreateAll_going (hdigests : ∀ repo digest, win.verified.lookup repo = some digest →
      n₀.Vouched req repo digest) (rest : List Snap) (l : List Snap)
    (hrest : n₀.Snapped n₀.stack rest) (h : n₀.Going content req n) :
    ((win.recreateAll rest).implement EngineCall.issue).Always (nodeMachine content byId)
      (Node.Going content req n₀) (fun _ _ n' => n₀.Going content req n') l n := by
  induction rest generalizing l n with
  | nil => exact ⟨h, h⟩
  | cons s rest ih =>
    have hs : s ∈ s :: rest := List.mem_cons_self
    have hrest' : n₀.Snapped n₀.stack rest :=
      ⟨fun x hx => hrest.containers x (List.mem_cons_of_mem _ hx),
        fun x hx => hrest.inspected x (List.mem_cons_of_mem _ hx)⟩
    unfold Window.recreateAll
    rw [Routine.implement_bind, Routine.implement_monadLift, Action.implement_perform,
      Routine.always_bind, Routine.always_monadLift]
    refine (tagPrevious_keeps _ _ n h).mono ?_
    rintro (e | _) n₁ h₁ -
    · exact h₁
    rw [Routine.onOk_ok]
    unfold Window.digestOf
    split
    · rename_i digest hlookup
      rw [Routine.implement_bind, Routine.implement_monadLift, Action.implement_pure,
        Routine.always_bind, Routine.always_monadLift]
      refine ⟨h₁, ?_⟩
      dsimp only
      rw [Routine.onOk_ok, Routine.implement_bind, Routine.implement_monadLift,
        Action.implement_perform, Routine.always_bind, Routine.always_monadLift, issue_always]
      refine (tag_going (.byDigest s.container.repo digest) (.latest s.container.repo) h₁).mono ?_
      rintro (e | ok) n₂ h₂ hmoved
      · exact h₂
      rw [Routine.onOk_ok, Routine.implement_ite, Routine.always_ite]
      refine ⟨fun _ => ⟨h₂, h₂⟩, fun hok => ?_⟩
      obtain rfl : ok = true := by simpa using hok
      obtain ⟨image, hdenotes, hn₂⟩ := hmoved rfl
      -- the tag points at the verified image from here to the create
      have hlatest : n₂.latest s.container.repo = some (content digest) := by
        rw [hn₂, show image = content digest from hdenotes]
        simp [Node.setTag, ImageRef.latest]
      rw [Routine.implement_bind, Routine.implement_monadLift, Action.implement_perform,
        Routine.always_bind, Routine.always_monadLift]
      refine (recreateOne_vetted s.oldImageId h₂ (hrest.containers s hs) (hrest.inspected s hs)
        (hdigests _ _ hlookup) hlatest).mono ?_
      rintro (e | recreated) n₃ h₃ -
      · exact h₃
      rw [Routine.onOk_ok, Routine.implement_bind, Routine.implement_assign, Routine.always_bind,
        Routine.always_assign]
      refine ⟨h₃, ?_⟩
      rw [Routine.onOk_ok, Routine.implement_ite, Routine.always_ite]
      exact ⟨fun _ => ⟨h₃, h₃⟩, fun _ => ih _ hrest' h₃⟩
    · exact ⟨h₁, h₁⟩

theorem mutate_going (hdigests : ∀ repo digest, win.verified.lookup repo = some digest →
      n₀.Vouched req repo digest) (l : List Snap) (hsnaps : n₀.Snapped n₀.stack win.snaps)
    (h : n₀.Going content req n) :
    (win.mutate.implement EngineCall.issue).Always (nodeMachine content byId)
      (Node.Going content req n₀) (fun _ _ _ => True) l n := by
  have hgate : ∀ req', (EngineCall.healthGate req').Keeps content byId req n₀ :=
    fun req' => keeps_of_looks (healthGate_looks req')
  have hrb : ∀ (l : List Snap) (n : Node Image), n₀.Going content req n →
      (win.rb.implement EngineCall.issue).Always (nodeMachine content byId)
        (Node.Going content req n₀) (fun _ _ n => n₀.Going content req n) l n := by
    intro l n hn
    have huses : win.rb.Uses (EngineCall.Keeps content byId req n₀) :=
      win.rb_uses rollbackOne_keeps restoreLatest_keeps hgate
    exact huses.implement_always (fun c n hc hn => hc n hn) hn
  unfold Window.mutate
  rw [Routine.implement_tryExcept, Routine.always_tryExcept]
  have hbody : (win.body.implement EngineCall.issue).Always (nodeMachine content byId)
      (Node.Going content req n₀) (fun _ _ n => n₀.Going content req n) l n := by
    unfold Window.body
    rw [Routine.implement_bind, Routine.always_bind]
    refine (recreateAll_going win hdigests win.snaps l hsnaps h).mono ?_
    rintro (e | recreated) l₁ n₁ - h₁
    · exact h₁
    rw [Routine.onOk_ok, Routine.implement_ite, Routine.always_ite]
    refine ⟨fun _ => hrb l₁ n₁ h₁, fun _ => ?_⟩
    rw [Routine.implement_bind, Routine.implement_monadLift, Routine.always_bind,
      Routine.always_monadLift]
    have hsettles : win.settles.Uses (EngineCall.Keeps content byId req n₀) :=
      win.settles_uses (fun ref => keeps_of_looks (imageId_looks ref)) hgate
        (fun container => keeps_of_looks (execVersion_looks container))
        (keeps_of_looks danglingPrune_looks)
    refine (hsettles.implement_always (fun c n hc hn => hc n hn) h₁).mono ?_
    rintro (e | stands) n₂ - h₂
    · exact h₂
    rw [Routine.onOk_ok, Routine.implement_ite, Routine.always_ite]
    exact ⟨fun _ => ⟨h₂, h₂⟩, fun _ => hrb l₁ n₂ h₂⟩
  refine hbody.mono ?_
  rintro (e | code) l₁ n₁ - h₁
  · exact (hrb l₁ n₁ h₁).mono fun _ _ _ _ _ => trivial
  · trivial

end During

/-! ## The whole update -/

section Whole
variable {Image : Type} {content byId : String → Image}

/-- Every point of an update is safe. -/
theorem issuedUpdate_safe (req : UpdateRequest) (latest₀ : String → Option Image) :
    (issuedUpdate req).Always (nodeMachine content byId) (Node.Safe content req latest₀)
      (fun _ _ => True) { latest := latest₀ } := by
  have hsafe : ∀ n : Node Image, n.Untouched latest₀ → n.Safe content req latest₀ :=
    fun n hn => hn.safe content req
  have hstart : ({ latest := latest₀ } : Node Image).Untouched latest₀ := ⟨rfl, rfl, rfl⟩
  unfold issuedUpdate runRemoteUpdate
  rw [Action.implement_bind, Action.implement_perform, Action.always_bind, issue_always]
  refine (discoverStack_listed hstart rfl).imp hsafe ?_
  rintro (e | stack) n₁ h₁ ⟨hr₁, hstack⟩
  · trivial
  rw [onOk_ok]
  split
  · exact ⟨hsafe n₁ h₁, trivial⟩
  rename_i greffer hgreffer
  have hstack₁ : stack.containers = n₁.stack := by
    rcases hstack stack rfl with hnone | hlisted
    · rw [hnone] at hgreffer
      cases hgreffer
    · exact hlisted
  rw [Action.implement_bind, Action.implement_perform, Action.always_bind]
  -- what the old version is, only looks
  refine (issue_looks (s := .execVersion greffer.containerId) (I := fun n => n = n₁)
    (execVersion_looks greffer.containerId) rfl).imp (fun n hn => hn ▸ hsafe n₁ h₁) ?_
  rintro (e | oldVersion) n₂ - hn₂
  · trivial
  subst hn₂
  rw [onOk_ok, Action.implement_ite, Action.always_ite]
  refine ⟨fun _ => ⟨hsafe _ h₁, trivial⟩, fun _ => ?_⟩
  rw [Action.implement_bind, Action.always_bind]
  refine ((phaseOne_digests stack h₁ hr₁).mono fun r n' hn' hq => And.intro hn' hq).imp hsafe ?_
  rintro (e | _ | verified) n₃ - ⟨h₃, hext₃, hd⟩
  · trivial
  · exact ⟨hsafe n₃ h₃, trivial⟩
  obtain ⟨hr₃, hdigests⟩ := hd verified rfl
  rw [onOk_ok]
  dsimp only
  rw [Action.implement_bind, Action.always_bind]
  refine ((snapshot_inspected stack.containers h₃ hr₃).mono
    fun r n' hn' hq => And.intro hn' hq).imp hsafe ?_
  rintro (e | _ | snaps) n₄ - ⟨h₄, hext₄, hr₄, hsnapped⟩
  · trivial
  · exact ⟨hsafe n₄ h₄, trivial⟩
  -- Before the window nothing has been created, and every image of the stack is vouched for.
  have hstack₄ : stack.containers = n₄.stack :=
    hstack₁.trans (hext₃.trans hext₄).stack.symm
  have hdigests₄ : ∀ repo digest, verified.lookup repo = some digest →
      n₄.Vouched req repo digest :=
    fun repo digest hlookup => hext₄.vouched req (hdigests.vouched repo digest hlookup)
  have hgoing : n₄.Going content req n₄ := by
    refine ⟨.refl n₄, fun e he => ?_, fun c hc => ?_, hr₄⟩
    · rw [h₄.created] at he
      exact absurd he List.not_mem_nil
    · rw [← hstack₄] at hc
      obtain ⟨digest, hlookup⟩ := Option.isSome_iff_exists.mp (hdigests.complete c hc)
      exact ⟨digest, hdigests₄ _ _ hlookup⟩
  rw [onOk_ok]
  dsimp only
  rw [show Action.implement EngineCall.issue
      ((Window.mutate ⟨req, snaps, verified, oldVersion⟩).run []) =
    ((Window.mutate ⟨req, snaps, verified, oldVersion⟩).implement EngineCall.issue).run [] from
      Routine.implement_run _ _, Routine.always_run]
  refine (mutate_going ⟨req, snaps, verified, oldVersion⟩ hdigests₄ []
    (hstack₄ ▸ hsnapped snaps rfl) hgoing).imp ?_ fun _ _ _ _ _ => trivial
  exact fun n hn => hn.vetted.safe content req

/-- **Only verified images are ever run**, at every point of every run of an update,
whatever the registry, docker and cosign answer: every container that a step of the forward
path creates comes from a digest vouched for. -/
theorem only_verified_images_run (content byId : String → Image) (req : UpdateRequest)
    (latest₀ : String → Option Image) (n : Node Image)
    (q : Prog (Raises Issued.Answer UpdateError) (Except UpdateError ExitCode))
    (run : Run (nodeMachine content byId) { latest := latest₀ } (issuedUpdate req) n q) :
    n.Safe content req latest₀ :=
  (issuedUpdate_safe req latest₀).at_stop run

end Whole

/-! ### A node whose registry moves its tags -/

/-- Docker on a node that runs the greffer: every command succeeds, and the registry
names one more digit of a digest at each question. -/
def shiftyDocker (s : EngineCall) (n : Node String) :
    (c : Command) → Raises Command.Answer UpdateError c × Node String
  | .psGreffer => (.ok ⟨0, "gid\n", ""⟩, n)
  | .inspectProject _ => (.ok ⟨0, "greffer\n", ""⟩, n)
  | .psProject _ =>
    (.ok ⟨0, "gid\tgreffer\n", ""⟩, { n with listing := listedIn ⟨0, "gid\tgreffer\n", ""⟩ })
  | .inspect i =>
    (.ok ⟨0, some [some { name := some "/greffer-1", image := some "sha256:old" }], ""⟩,
      { n with inspections := n.inspections ++
        [(i, { name := some "/greffer-1", image := some "sha256:old" })] })
  | .imagetoolsInspect ref =>
    let digest := "sha256:" ++ String.ofList (List.replicate 64 (if n.resolved = [] then '0' else '1'))
    (.ok ⟨0, some digest, ""⟩, match resolvedDigest ⟨0, some digest, ""⟩ with
      | some d => { n with resolved := n.resolved ++ [(ref, d)] }
      | none => { n with refused := true })
  | .cosignVerify pubkey repo digest =>
    (.ok ⟨0, "", ""⟩, { n with verified := n.verified ++ [(pubkey, repo, digest)] })
  | .tag source target =>
    (.ok ⟨0, "", ""⟩, (n.change (.tag source target)).setTag target (match source with
      | .tagged repo _ => (n.latest repo).getD ""
      | .byDigest _ digest => digest
      | .id i => i))
  | .create args =>
    (.ok ⟨0, "", ""⟩, { n.change (.create args) with created := n.created ++ [⟨s, args,
      match args.image with
      | .tagged repo _ => (n.latest repo).getD ""
      | .byDigest _ digest => digest
      | .id i => i⟩] })
  | .stop timeout container => (.ok ⟨0, "", ""⟩, n.change (.stop timeout container))
  | .rm container => (.ok ⟨0, "", ""⟩, n.change (.rm container))
  | .start container => (.ok ⟨0, "", ""⟩, n.change (.start container))
  | .imageInspectConfig _ => (.ok ⟨0, some {}, ""⟩, n)
  | .execReadyz _ => (.ok ⟨0, some { status := some "ready" }, ""⟩, n)
  | .inspectRunning _ => (.ok ⟨0, "true", ""⟩, n)
  | c => (c.silent, n)

/-- The same for a command of any step. -/
def shiftyIssue (n : Node String) (i : Issued) :
    Raises Issued.Answer UpdateError i × Node String := shiftyDocker i.step n i.command

theorem shiftyDocker_denotes (n : Node String) (ref : ImageRef) :
    n.Denotes id id ref (match ref with
      | .tagged repo _ => (n.latest repo).getD ""
      | .byDigest _ digest => digest
      | .id i => i) := by
  cases ref with
  | tagged repo tag =>
    intro _ here hhere
    dsimp only
    rw [hhere]
    rfl
  | byDigest repo digest => rfl
  | id i => rfl

theorem shiftyIssue_serves (n : Node String) (i : Issued) :
    (nodeMachine id id).serve n i (shiftyIssue n i).1 (shiftyIssue n i).2 := by
  obtain ⟨s, c⟩ := i
  cases c with
  | tag source target => exact .inl ⟨_, shiftyDocker_denotes n source, rfl⟩
  | create args => exact .inl ⟨_, shiftyDocker_denotes n args.image, rfl⟩
  | _ => rfl

theorem only_verified_images_run_shifty :
    Node.Safe id { cosignPub := "/etc/greffer/cosign.pub", grefferId := none }
      (fun _ => some "sha256:old")
      (Prog.evalFor shiftyIssue 40
        (issuedUpdate { cosignPub := "/etc/greffer/cosign.pub", grefferId := none })
        { latest := fun _ => some "sha256:old" }).1 :=
  only_verified_images_run id id _ _ _ _
    (Prog.run_evalFor (h := shiftyIssue) shiftyIssue_serves 40 _ _)

end Greffer.Updater

import Mathlib
import Greffer.Effects.Traces
import Greffer.Updater.Engine

/-! # What a successful update has seen

An update that ends with `EXIT_OK` can say of the node only what its commands told it.  This
module reads off what it was told: along the text of `remoteUpdate`, one lemma for each step, from
the probes of the gate up to the whole run.

The gate compares a container with the id that docker gives for the verified digest; **where docker
gives none the gate does not compare**, and a container that came up on the old image passes.
`success_observed_iff` says exactly when a success has seen every container on its verified image.
-/
namespace Greffer.Updater
open Effects

/-- The commands of a run, each with its answer. -/
abbrev Log : Type := List (Heard (Raises Command.Answer UpdateError))

/-- The command was answered, and `P` holds of the answer. -/
def Told (es : Log) (c : Command) (P : c.Answer → Prop) : Prop :=
  ∃ res, (⟨c, .ok res⟩ : Heard (Raises Command.Answer UpdateError)) ∈ es ∧ P res

/-- The digest was resolved for the tag of the update, and its signature accepted. -/
def CosignVerified (req : UpdateRequest) (es : Log) (repo digest : String) : Prop :=
  Told es (.imagetoolsInspect (.tagged repo req.tag)) (fun res => resolvedDigest res = some digest) ∧
    Told es (.cosignVerify req.cosignPub repo digest) fun res => res.ok = true

/-- `docker inspect` described the container so. -/
def Described (es : Log) (containerId : String) (inspected : Inspected) : Prop :=
  Told es (.inspect containerId) fun res => inspectedOf res = some inspected

/-- A container of that name was created from the `:latest` of the repository, and started. -/
def RecreatedFrom (es : Log) (name repo : String) : Prop :=
  ∃ args : CreateArgs, args.name = name ∧ args.image = .latest repo ∧
    Told es (.create args) (fun res => res.ok = true) ∧
    Told es (.start name) fun res => res.ok = true

/-- The container was seen on an image of this id. -/
def SeenOn (es : Log) (name image : String) : Prop :=
  Told es (.inspectImage name) fun res => printedId res = some image

/-- The container was seen running. -/
def SeenRunning (es : Log) (name : String) : Prop :=
  Told es (.inspectRunning name) fun res => res.ok = true ∧ strip res.stdout = "true"

/-- The container said that this is its version, or nothing. -/
def VersionRead (es : Log) (container : String) (version : Option String) : Prop :=
  Told es (.execVersion container) fun res => printedId res = version

/-- A container of the stack, with what the update learnt of it. -/
structure Sighting where
  container : StackContainer
  inspected : Inspected
  /-- The digest of its repository. -/
  digest : String
  /-- The id of the digest, if docker gave one when the update asked for this container. -/
  image : Option String

namespace Sighting
variable (t : Sighting)

def name : String := t.inspected.bareName

/-- It was described, its image was verified, and it was recreated. -/
structure Prepared (req : UpdateRequest) (es : Log) : Prop where
  described : Described es t.container.containerId t.inspected
  verified : CosignVerified req es t.container.repo t.digest
  recreated : RecreatedFrom es t.name t.container.repo

/-- The question for the id of its digest, and the answer. -/
def AskedBy (e : Heard (Raises Command.Answer UpdateError)) : Prop :=
  ∃ res, e = ⟨.imageInspectId (.byDigest t.container.repo t.digest), .ok res⟩ ∧
    printedId res = t.image

/-- **It was seen on its verified image**: the one of the id that docker gave for the digest. -/
def OnVerified (gate : Log) : Prop := ∃ i, t.image = some i ∧ SeenOn gate t.name i

end Sighting

/-- Docker gave an id for every container, and one id under one name. -/
def IdsGiven (seen : List Sighting) : Prop :=
  ∀ t ∈ seen, ∃ i, t.image = some i ∧ ∀ t' ∈ seen, t'.name = t.name → t'.image = some i

section Told
variable {es es' : Log}

theorem told_of_hears {c : Command} {P : c.Answer → Prop} {res : c.Answer}
    (h : (run c).Hears es res) (hP : P res) : Told es c P := by
  rw [Action.hears_perform] at h
  subst h
  exact ⟨res, List.mem_cons_self, hP⟩

theorem Told.mono {c : Command} {P : c.Answer → Prop} (h : Told es c P) (hsub : es ⊆ es') :
    Told es' c P := by
  obtain ⟨res, hres, hP⟩ := h
  exact ⟨res, hsub hres, hP⟩

theorem CosignVerified.mono {req : UpdateRequest} {repo digest : String}
    (h : CosignVerified req es repo digest) (hsub : es ⊆ es') :
    CosignVerified req es' repo digest :=
  ⟨h.1.mono hsub, h.2.mono hsub⟩

theorem RecreatedFrom.mono {name repo : String} (h : RecreatedFrom es name repo) (hsub : es ⊆ es') :
    RecreatedFrom es' name repo := by
  obtain ⟨args, hname, himage, hcreated, hstarted⟩ := h
  exact ⟨args, hname, himage, hcreated.mono hsub, hstarted.mono hsub⟩

end Told

/-! ## The gate -/

section Gate
variable {es : Log}

theorem containerImageIdByName_seen {name image : String}
    (h : (containerImageIdByName name).Hears es (some image)) : SeenOn es name image := by
  obtain ⟨res, hres, himage⟩ := Action.hears_map.mp h
  exact told_of_hears hres himage

theorem containerRunning_seen {name : String} (h : (containerRunning name).Hears es true) :
    SeenRunning es name := by
  obtain ⟨res, hres, hrunning⟩ := Action.hears_map.mp h
  rw [Bool.and_eq_true, beq_iff_eq] at hrunning
  exact told_of_hears hres hrunning

/-- The gate found every container with an expected image on it. -/
theorem applied_seen {ids : List (String × Option String)} {names : List String}
    (h : (applied ids names).Hears es true) :
    ∀ n ∈ names, ∀ i, nonEmpty (ids.lookup n).join = some i → SeenOn es n i := by
  induction names generalizing es with
  | nil =>
    intro n hn
    cases hn
  | cons name rest ih =>
    unfold applied at h
    intro n hn i hi
    cases hexpected : nonEmpty (ids.lookup name).join with
    | none =>
      rw [hexpected] at h
      rcases List.mem_cons.mp hn with rfl | hrest
      · rw [hexpected] at hi
        cases hi
      · exact ih h n hrest i hi
    | some expected =>
      rw [hexpected] at h
      obtain ⟨actual, es₁, es₂, rfl, hactual, h⟩ := Action.hears_bind.mp h
      rcases Action.hears_ite.mp h with ⟨-, hfalse⟩ | ⟨heq, h⟩
      · cases ((Action.hears_pure _).mp hfalse).2
      · rcases List.mem_cons.mp hn with rfl | hrest
        · rw [hexpected] at hi
          cases hi
          rw [not_not.mp heq] at hactual
          exact (containerImageIdByName_seen hactual).mono (List.subset_append_left _ _)
        · exact (ih h n hrest i hi).mono (List.subset_append_right _ _)

theorem allRunning_seen {names : List String} (h : (allRunning names).Hears es true) :
    ∀ n ∈ names, SeenRunning es n := by
  induction names generalizing es with
  | nil =>
    intro n hn
    cases hn
  | cons name rest ih =>
    unfold allRunning at h
    obtain ⟨running, es₁, es₂, rfl, hrunning, h⟩ := Action.hears_bind.mp h
    rcases Action.hears_ite.mp h with ⟨-, hfalse⟩ | ⟨htrue, h⟩
    · cases ((Action.hears_pure _).mp hfalse).2
    · rw [Bool.not_eq_true', Bool.not_eq_false] at htrue
      subst htrue
      intro n hn
      rcases List.mem_cons.mp hn with rfl | hrest
      · exact (containerRunning_seen hrunning).mono (List.subset_append_left _ _)
      · exact (ih h n hrest).mono (List.subset_append_right _ _)

/-- Every image that was seen is the expected one. -/
def Expected (ids : List (String × Option String)) (es : Log) : Prop :=
  ∀ n i, SeenOn es n i → nonEmpty (ids.lookup n).join = some i

theorem Expected.append {ids : List (String × Option String)} {es' : Log} (h : Expected ids es)
    (h' : Expected ids es') : Expected ids (es ++ es') := by
  rintro n i ⟨res, hres, himage⟩
  rcases List.mem_append.mp hres with hres | hres
  · exact h n i ⟨res, hres, himage⟩
  · exact h' n i ⟨res, hres, himage⟩

/-- Whether a command asks for the image of a container. -/
def Command.asksImage : Command → Bool
  | .inspectImage _ => true
  | _ => false

theorem run_asks {c : Command} (hc : c.asksImage = false) :
    (run c).Uses fun c => c.asksImage = false := Action.uses_perform hc

/-- Code that asks for none has seen none. -/
theorem expected_of_uses {α : Type} {m : Step α} {a : α} {ids : List (String × Option String)}
    (hm : m.Uses fun c => c.asksImage = false) (h : m.Hears es a) : Expected ids es := by
  rintro n i ⟨res, hres, -⟩
  have hasks := Prog.Uses.heard hm h _ hres
  cases hasks

/-- A gate that goes on past the images has found the expected ones. -/
theorem applied_expected {ids : List (String × Option String)} {names : List String}
    (h : (applied ids names).Hears es true) : Expected ids es := by
  induction names generalizing es with
  | nil => exact expected_of_uses (Action.uses_pure _) h
  | cons name rest ih =>
    unfold applied at h
    cases hexpected : nonEmpty (ids.lookup name).join with
    | none =>
      rw [hexpected] at h
      exact ih h
    | some expected =>
      rw [hexpected] at h
      obtain ⟨actual, es₁, es₂, rfl, hactual, h⟩ := Action.hears_bind.mp h
      rcases Action.hears_ite.mp h with ⟨-, hfalse⟩ | ⟨heq, h⟩
      · cases ((Action.hears_pure _).mp hfalse).2
      · refine Expected.append ?_ (ih h)
        obtain ⟨answer, hanswer, himage⟩ := Action.hears_map.mp hactual
        rw [Action.hears_perform] at hanswer
        subst hanswer
        rintro n i ⟨res, hres, hi⟩
        cases List.mem_singleton.mp hres
        rw [hexpected, ← hi, himage]
        exact (not_not.mp heq).symm

theorem judgeReady_expected {req : GateRequest} (hcheck : req.checkVersion = true)
    {o : Option GateOutcome} (ho : o ≠ some .notApplied) (h : (judgeReady req).Hears es o) :
    Expected req.appliedImageIds es := by
  unfold judgeReady onNewImages at h
  rw [hcheck, if_pos rfl] at h
  obtain ⟨onNew, es₁, es₂, rfl, himages, h⟩ := Action.hears_bind.mp h
  rcases Action.hears_ite.mp h with ⟨-, hrefused⟩ | ⟨htrue, h⟩
  · exact absurd ((Action.hears_pure _).mp hrefused).2.symm ho
  rw [Bool.not_eq_true', Bool.not_eq_false] at htrue
  subst htrue
  refine (applied_expected himages).append ?_
  have hrunning : ∀ names, (allRunning names).Uses fun c => c.asksImage = false := by
    intro names
    induction names with
    | nil => exact Action.uses_pure _
    | cons name rest ih =>
      unfold allRunning containerRunning
      refine ((run_asks rfl).bind fun _ => Action.uses_pure _).bind fun running => ?_
      split
      · exact Action.uses_pure _
      · exact ih
  refine expected_of_uses ((hrunning req.serviceNames).bind fun all => ?_) h
  split
  · exact Action.uses_pure _
  · exact Action.uses_pure _

theorem judgeProbe_expected {req : GateRequest} (hcheck : req.checkVersion = true)
    {probe : CommandResult (Option ReadyzBody)} {o : Option GateOutcome}
    (ho : o ≠ some .notApplied) (h : (judgeProbe req probe).Hears es o) :
    Expected req.appliedImageIds es := by
  have hnothing : ∀ o', (pure o' : Step (Option GateOutcome)).Hears es o →
      Expected req.appliedImageIds es := fun o' h' => expected_of_uses (Action.uses_pure o') h'
  unfold judgeProbe at h
  cases hr : parseReadyz probe with
  | none =>
    rw [hr] at h
    exact hnothing _ h
  | some r =>
    rw [hr] at h
    unfold judge at h
    rcases Action.hears_ite.mp h with ⟨-, h⟩ | ⟨-, h⟩
    · exact hnothing _ h
    rcases Action.hears_ite.mp h with ⟨-, h⟩ | ⟨-, h⟩
    · exact hnothing _ h
    rcases Action.hears_ite.mp h with ⟨-, h⟩ | ⟨-, h⟩
    · exact hnothing _ h
    rcases Action.hears_ite.mp h with ⟨-, h⟩ | ⟨-, h⟩
    · exact judgeReady_expected hcheck ho h
    · exact hnothing _ h

theorem restartCount_asks (name : String) :
    (restartCount name).Uses fun c => c.asksImage = false := by
  refine (run_asks rfl).bind fun res => ?_
  split
  · exact Action.uses_pure _
  · exact Action.uses_pure _

theorem pollGate_expected {req : GateRequest} (hcheck : req.checkVersion = true) {deadline : Rat}
    {baseRestarts : Int} {polls : Nat}
    (h : (pollGate req deadline baseRestarts polls).Hears es .ready) :
    Expected req.appliedImageIds es := by
  induction polls generalizing es with
  | zero => exact expected_of_uses (Action.uses_pure _) h
  | succ n ih =>
    unfold pollGate at h
    obtain ⟨now, es₁, rest, rfl, hnow, h⟩ := Action.hears_bind.mp h
    refine (expected_of_uses (run_asks rfl) hnow).append ?_
    rcases Action.hears_ite.mp h with ⟨-, hlate⟩ | ⟨-, h⟩
    · cases ((Action.hears_pure _).mp hlate).2
    obtain ⟨probe, es₂, rest, rfl, hprobe, h⟩ := Action.hears_bind.mp h
    refine (expected_of_uses (run_asks rfl) hprobe).append ?_
    obtain ⟨outcome, es₃, rest, rfl, hjudged, h⟩ := Action.hears_bind.mp h
    cases outcome with
    | some outcome =>
      obtain ⟨rfl, rfl⟩ := (Action.hears_pure _).mp h
      rw [List.append_nil]
      exact judgeProbe_expected hcheck (by simp) hjudged
    | none =>
      refine (judgeProbe_expected hcheck (by simp) hjudged).append ?_
      obtain ⟨restarts, es₄, rest, rfl, hrestarts, h⟩ := Action.hears_bind.mp h
      refine (expected_of_uses (restartCount_asks _) hrestarts).append ?_
      rcases Action.hears_ite.mp h with ⟨-, hloop⟩ | ⟨-, h⟩
      · cases ((Action.hears_pure _).mp hloop).2
      obtain ⟨slept, es₅, rest, rfl, hslept, h⟩ := Action.hears_bind.mp h
      exact (expected_of_uses (run_asks rfl) hslept).append (ih h)

/-- **A gate that answers ready has seen no other image** than the expected one. -/
theorem healthGate_expected {req : GateRequest} (hcheck : req.checkVersion = true)
    (h : (healthGate req).Hears es .ready) : Expected req.appliedImageIds es := by
  obtain ⟨start, es₁, rest, rfl, hstart, h⟩ := Action.hears_bind.mp h
  refine (expected_of_uses (run_asks rfl) hstart).append ?_
  obtain ⟨restarts, es₂, rest, rfl, hrestarts, h⟩ := Action.hears_bind.mp h
  exact (expected_of_uses (restartCount_asks _) hrestarts).append (pollGate_expected hcheck h)

/-- What a gate that checks the images has seen of each container. -/
structure GateSaw (es : Log) (req : GateRequest) : Prop where
  onImage : ∀ n ∈ req.serviceNames, ∀ i,
    nonEmpty (req.appliedImageIds.lookup n).join = some i → SeenOn es n i
  running : ∀ n ∈ req.serviceNames, SeenRunning es n

theorem GateSaw.mono {es' : Log} {req : GateRequest} (h : GateSaw es req) (hsub : es ⊆ es') :
    GateSaw es' req :=
  ⟨fun n hn i hi => (h.onImage n hn i hi).mono hsub, fun n hn => (h.running n hn).mono hsub⟩

theorem judgeReady_saw {req : GateRequest} (hcheck : req.checkVersion = true)
    (h : (judgeReady req).Hears es (some .ready)) : GateSaw es req := by
  unfold judgeReady onNewImages at h
  rw [hcheck, if_pos rfl] at h
  obtain ⟨onNew, es₁, es₂, rfl, himages, h⟩ := Action.hears_bind.mp h
  rcases Action.hears_ite.mp h with ⟨-, hrefused⟩ | ⟨htrue, h⟩
  · cases ((Action.hears_pure _).mp hrefused).2
  rw [Bool.not_eq_true', Bool.not_eq_false] at htrue
  subst htrue
  obtain ⟨running, es₃, es₄, rfl, hrunning, h⟩ := Action.hears_bind.mp h
  rcases Action.hears_ite.mp h with ⟨htrue, -⟩ | ⟨-, hnone⟩
  · rw [show running = true from htrue] at hrunning
    refine ⟨fun n hn i hi => (applied_seen himages n hn i hi).mono (List.subset_append_left _ _), ?_⟩
    intro n hn
    refine (allRunning_seen hrunning n hn).mono ?_
    exact fun e he => List.mem_append_right _ (List.mem_append_left _ he)
  · cases ((Action.hears_pure _).mp hnone).2

theorem judgeProbe_saw {req : GateRequest} (hcheck : req.checkVersion = true)
    {probe : CommandResult (Option ReadyzBody)}
    (h : (judgeProbe req probe).Hears es (some .ready)) : GateSaw es req := by
  unfold judgeProbe at h
  cases hr : parseReadyz probe with
  | none =>
    rw [hr] at h
    cases ((Action.hears_pure _).mp h).2
  | some r =>
    rw [hr] at h
    unfold judge at h
    rcases Action.hears_ite.mp h with ⟨-, h⟩ | ⟨-, h⟩
    · cases ((Action.hears_pure _).mp h).2
    rcases Action.hears_ite.mp h with ⟨-, h⟩ | ⟨-, h⟩
    · cases ((Action.hears_pure _).mp h).2
    rcases Action.hears_ite.mp h with ⟨-, h⟩ | ⟨-, h⟩
    · cases ((Action.hears_pure _).mp h).2
    rcases Action.hears_ite.mp h with ⟨-, h⟩ | ⟨-, h⟩
    · exact judgeReady_saw hcheck h
    · cases ((Action.hears_pure _).mp h).2

theorem pollGate_saw {req : GateRequest} (hcheck : req.checkVersion = true) {deadline : Rat}
    {baseRestarts : Int} {polls : Nat}
    (h : (pollGate req deadline baseRestarts polls).Hears es .ready) : GateSaw es req := by
  induction polls generalizing es with
  | zero => cases ((Action.hears_pure _).mp h).2
  | succ n ih =>
    unfold pollGate at h
    obtain ⟨now, es₁, rest, rfl, -, h⟩ := Action.hears_bind.mp h
    rcases Action.hears_ite.mp h with ⟨-, hlate⟩ | ⟨-, h⟩
    · cases ((Action.hears_pure _).mp hlate).2
    obtain ⟨probe, es₂, rest, rfl, -, h⟩ := Action.hears_bind.mp h
    obtain ⟨outcome, es₃, rest, rfl, hjudged, h⟩ := Action.hears_bind.mp h
    have hpoll : GateSaw (es₃ ++ rest) req := by
      cases outcome with
      | some outcome =>
        cases ((Action.hears_pure _).mp h).2
        exact (judgeProbe_saw hcheck hjudged).mono (List.subset_append_left _ _)
      | none =>
        obtain ⟨restarts, es₄, rest', rfl, -, h⟩ := Action.hears_bind.mp h
        rcases Action.hears_ite.mp h with ⟨-, hloop⟩ | ⟨-, h⟩
        · cases ((Action.hears_pure _).mp hloop).2
        obtain ⟨slept, es₅, rest'', rfl, -, h⟩ := Action.hears_bind.mp h
        have hlater : GateSaw rest'' req := ih h
        refine hlater.mono fun e he => ?_
        exact List.mem_append_right _ (List.mem_append_right _ (List.mem_append_right _ he))
    exact hpoll.mono fun e he => List.mem_append_right _ (List.mem_append_right _ he)

/-- **A gate that answers ready has seen every container running**, and on its image where it
expected one. -/
theorem healthGate_saw {req : GateRequest} (hcheck : req.checkVersion = true)
    (h : (healthGate req).Hears es .ready) : GateSaw es req := by
  obtain ⟨start, es₁, rest, rfl, -, h⟩ := Action.hears_bind.mp h
  obtain ⟨restarts, es₂, rest, rfl, -, h⟩ := Action.hears_bind.mp h
  refine (pollGate_saw hcheck h).mono ?_
  exact fun e he => List.mem_append_right _ (List.mem_append_right _ he)

end Gate

/-! ## Before anything is changed -/

section Before
variable {es : Log}

theorem discoverStack_told {stack : Stack} (h : discoverStack.Hears es stack) :
    stack.containers = [] ∨
      ∃ project, Told es (.psProject project) fun res => stack = inRecreateOrder (listedIn res) := by
  obtain ⟨greffer, es₁, rest, rfl, -, h⟩ := Action.hears_bind.mp h
  cases greffer with
  | none =>
    obtain ⟨-, rfl⟩ := (Action.hears_pure _).mp h
    exact .inl rfl
  | some grefferId =>
    obtain ⟨project, es₂, rest, rfl, -, h⟩ := Action.hears_bind.mp h
    cases project with
    | none =>
      obtain ⟨-, rfl⟩ := (Action.hears_pure _).mp h
      exact .inl rfl
    | some project =>
      obtain ⟨res, hres, rfl⟩ := Action.hears_map.mp h
      have htold := told_of_hears
        (P := fun r => inRecreateOrder (listedIn res) = inRecreateOrder (listedIn r)) hres rfl
      refine .inr ⟨project, htold.mono ?_⟩
      exact fun e he => List.mem_append_right _ (List.mem_append_right _ he)

theorem verifyAndPull_verified {req : UpdateRequest} {repo digest : String}
    (h : (verifyAndPull repo req.cosignPub req.tag).Hears es digest) :
    CosignVerified req es repo digest := by
  obtain ⟨resolved, es₁, rest, rfl, hresolved, h⟩ := Action.hears_bind.mp h
  cases resolved with
  | none => exact absurd h (Action.not_hears_raise _)
  | some resolved =>
    obtain ⟨accepted, es₂, rest, rfl, haccepted, h⟩ := Action.hears_bind.mp h
    rcases Action.hears_ite.mp h with ⟨-, hraise⟩ | ⟨htrue, h⟩
    · exact absurd hraise (Action.not_hears_raise _)
    obtain ⟨pulled, es₃, rest, rfl, -, h⟩ := Action.hears_bind.mp h
    rcases Action.hears_ite.mp h with ⟨-, hraise⟩ | ⟨-, h⟩
    · exact absurd hraise (Action.not_hears_raise _)
    obtain ⟨rfl, rfl⟩ := (Action.hears_pure _).mp h
    rw [Bool.not_eq_true', Bool.not_eq_false] at htrue
    subst htrue
    obtain ⟨answer, hanswer, hdigest⟩ := Action.hears_map.mp hresolved
    obtain ⟨sig, hsig, hok⟩ := Action.hears_map.mp haccepted
    refine ⟨(told_of_hears hanswer hdigest).mono (List.subset_append_left _ _),
      (told_of_hears hsig hok).mono ?_⟩
    exact fun e he => List.mem_append_right _ (List.mem_append_left _ he)

theorem step_hears {c : EngineCall} {a : c.Answer} :
    ((step c).implement EngineCall.perform).Hears es a ↔ c.perform.Hears es a := by
  rw [Action.implement_perform]

/-- The digests of phase 1: each is an old one or was verified, and no container is without. -/
theorem verifyAll_verified {req : UpdateRequest} {cs : List StackContainer}
    {verified all : List (String × String)}
    (h : ((verifyAll req cs verified).implement EngineCall.perform).Hears es all) :
    (∀ repo digest, all.lookup repo = some digest →
      verified.lookup repo = some digest ∨ CosignVerified req es repo digest) ∧
    ∀ repo, (verified.lookup repo).isSome ∨ (∃ c ∈ cs, c.repo = repo) → (all.lookup repo).isSome := by
  induction cs generalizing verified es with
  | nil =>
    obtain ⟨-, rfl⟩ := (Action.hears_pure _).mp h
    refine ⟨fun repo digest hd => .inl hd, ?_⟩
    rintro repo (hsome | ⟨c, hc, -⟩)
    · exact hsome
    · cases hc
  | cons c rest ih =>
    unfold verifyAll at h
    rw [Action.implement_bind] at h
    obtain ⟨digest, es₁, es₂, rfl, hdigest, h⟩ := Action.hears_bind.mp h
    obtain ⟨hall, hsome⟩ := ih h
    refine ⟨?_, ?_⟩
    · intro repo d hd
      rcases hall repo d hd with hd | hd
      · by_cases hrepo : repo = c.repo
        · subst hrepo
          rw [lookup_upsert_self] at hd
          cases hd
          exact .inr ((verifyAndPull_verified (step_hears.mp hdigest)).mono
            (List.subset_append_left _ _))
        · rw [lookup_upsert_ne _ _ hrepo] at hd
          exact .inl hd
      · exact .inr (hd.mono (List.subset_append_right _ _))
    · intro repo hrepo
      refine hsome repo ?_
      by_cases heq : repo = c.repo
      · subst heq
        exact .inl (by rw [lookup_upsert_self]; rfl)
      · rw [lookup_upsert_ne _ _ heq]
        rcases hrepo with hold | ⟨c', hc', hrepo⟩
        · exact .inl hold
        · rcases List.mem_cons.mp hc' with rfl | hrest
          · exact absurd hrepo.symm heq
          · exact .inr ⟨c', hrest, hrepo⟩

/-- Phase 1 goes on with a verified digest for every container. -/
theorem phaseOne_verified {req : UpdateRequest} {stack : Stack} {verified : List (String × String)}
    (h : ((phaseOne req stack).implement EngineCall.perform).Hears es (some verified)) :
    ∀ c ∈ stack.containers, ∃ digest, verified.lookup c.repo = some digest ∧
      CosignVerified req es c.repo digest := by
  unfold phaseOne at h
  rw [Action.implement_tryExcept, Action.implement_bind] at h
  rcases Action.hears_tryExcept.mp h with h | ⟨e, es₁, es₂, rfl, -, h⟩
  · obtain ⟨all, hall, hsame⟩ := Action.hears_map.mp h
    cases hsame
    obtain ⟨hverified, hsome⟩ := verifyAll_verified hall
    intro c hc
    obtain ⟨digest, hdigest⟩ := Option.isSome_iff_exists.mp (hsome c.repo (.inr ⟨c, hc, rfl⟩))
    rcases hverified c.repo digest hdigest with hnil | hv
    · cases hnil
    · exact ⟨digest, hdigest, hv⟩
  · cases e with
    | verify text => cases ((Action.hears_pure _).mp h).2
    | raised e => exact absurd h (Action.not_hears_raise _)

/-- The snapshots are of the containers, in their order, each as docker described it. -/
theorem snapshot_described {cs : List StackContainer} {snaps : List Snap}
    (h : ((snapshot cs).implement EngineCall.perform).Hears es (some snaps)) :
    snaps.map Snap.container = cs ∧
      ∀ s ∈ snaps, Described es s.container.containerId s.inspected := by
  induction cs generalizing snaps es with
  | nil =>
    obtain ⟨-, hsnaps⟩ := (Action.hears_pure _).mp h
    cases hsnaps
    refine ⟨rfl, ?_⟩
    intro s hs
    cases hs
  | cons c rest ih =>
    unfold snapshot at h
    rw [Action.implement_bind] at h
    obtain ⟨inspected, es₁, es₂, rfl, hinspected, h⟩ := Action.hears_bind.mp h
    cases inspected with
    | none => cases ((Action.hears_pure _).mp h).2
    | some inspected =>
      dsimp only at h
      -- whichever way the old image is found, the rest of the containers follow
      have htail : ∃ old es₃ es₄, es₂ = es₃ ++ es₄ ∧ (Action.implement EngineCall.perform
          (snapshotRest c inspected old rest)).Hears es₄ (some snaps) := by
        cases himage : nonEmpty inspected.image with
        | some image =>
          rw [himage] at h
          exact ⟨some image, [], es₂, rfl, h⟩
        | none =>
          rw [himage] at h
          dsimp only at h
          rw [Action.implement_bind] at h
          obtain ⟨old, es₃, es₄, rfl, -, h⟩ := Action.hears_bind.mp h
          exact ⟨old, es₃, es₄, rfl, h⟩
      obtain ⟨old, es₃, es₄, rfl, hrest⟩ := htail
      unfold snapshotRest at hrest
      rw [Action.implement_bind] at hrest
      obtain ⟨others, es₅, es₆, rfl, hothers, hsnaps⟩ := Action.hears_bind.mp hrest
      cases others with
      | none => cases ((Action.hears_pure _).mp hsnaps).2
      | some others =>
        obtain ⟨rfl, hsame⟩ := (Action.hears_pure _).mp hsnaps
        cases hsame
        obtain ⟨hcontainers, hdescribed⟩ := ih hothers
        refine ⟨congrArg (c :: ·) hcontainers, ?_⟩
        intro s hs
        rcases List.mem_cons.mp hs with rfl | hrest
        · obtain ⟨res, hres, hof⟩ := Action.hears_map.mp (step_hears.mp hinspected)
          exact (told_of_hears hres hof).mono (List.subset_append_left _ _)
        · refine (hdescribed s hrest).mono ?_
          intro e he
          exact List.mem_append_right _ (List.mem_append_right _ (List.mem_append_left _ he))

end Before

/-! ## The mutating window -/

section Mutate
variable {es : Log} {w : Window}

theorem replaceContainer_recreated {args : CreateArgs} {containerRef repo : String}
    (himage : args.image = .latest repo)
    (h : (replaceContainer args containerRef).Hears es true) : RecreatedFrom es args.name repo := by
  obtain ⟨stopped, es₁, rest, rfl, -, h⟩ := Action.hears_bind.mp h
  obtain ⟨removed, es₂, rest, rfl, -, h⟩ := Action.hears_bind.mp h
  rcases Action.hears_ite.mp h with ⟨-, hfalse⟩ | ⟨-, h⟩
  · cases ((Action.hears_pure _).mp hfalse).2
  obtain ⟨created, es₃, rest, rfl, hcreated, h⟩ := Action.hears_bind.mp h
  rcases Action.hears_ite.mp h with ⟨-, hfalse⟩ | ⟨hok, h⟩
  · cases ((Action.hears_pure _).mp hfalse).2
  obtain ⟨started, hstarted, hok'⟩ := Action.hears_map.mp h
  rw [Bool.not_eq_true', Bool.not_eq_false] at hok
  refine ⟨args, rfl, himage, (told_of_hears hcreated hok).mono ?_,
    (told_of_hears hstarted hok').mono ?_⟩
  · intro e he
    exact List.mem_append_right _ (List.mem_append_right _ (List.mem_append_left _ he))
  · intro e he
    exact List.mem_append_right _ (List.mem_append_right _ (List.mem_append_right _ he))

theorem recreateOne_recreated {c : StackContainer} {old : Option String} {inspected : Inspected}
    (h : (recreateOne c (.latest c.repo) old inspected).Hears es true) :
    RecreatedFrom es inspected.bareName c.repo := by
  obtain ⟨oldCfg, es₁, es₂, rfl, -, h⟩ := Action.hears_bind.mp h
  rcases Action.hears_ite.mp h with ⟨-, hfalse⟩ | ⟨-, h⟩
  · cases ((Action.hears_pure _).mp hfalse).2
  exact (replaceContainer_recreated rfl h).mono (List.subset_append_right _ _)

theorem recreateAll_recreated {snaps done done' : List Snap}
    (h : ((w.recreateAll snaps).implement EngineCall.perform).Hears done es true done') :
    ∀ s ∈ snaps, RecreatedFrom es s.name s.container.repo := by
  induction snaps generalizing es done with
  | nil =>
    intro s hs
    cases hs
  | cons s rest ih =>
    unfold Window.recreateAll at h
    simp only [Routine.implement_bind, Routine.implement_monadLift, Routine.implement_ite,
      Routine.implement_assign, Routine.implement_pure, Action.implement_perform] at h
    obtain ⟨tagged, es₁, rest₁, rfl, -, h⟩ := Routine.hears_lift_bind.mp h
    obtain ⟨digest, es₂, rest₂, rfl, -, h⟩ := Routine.hears_lift_bind.mp h
    obtain ⟨retagged, es₃, rest₃, rfl, -, h⟩ := Routine.hears_lift_bind.mp h
    rcases Routine.hears_ite.mp h with ⟨-, hfalse⟩ | ⟨-, h⟩
    · cases ((Routine.hears_pure _).mp hfalse).2.1
    obtain ⟨ok, es₄, rest₄, rfl, hok, h⟩ := Routine.hears_lift_bind.mp h
    obtain ⟨u, l, es₅, rest₅, rfl, -, h⟩ := Routine.hears_bind.mp h
    rcases Routine.hears_ite.mp h with ⟨-, hfalse⟩ | ⟨htrue, h⟩
    · cases ((Routine.hears_pure _).mp hfalse).2.1
    rw [Bool.not_eq_true', Bool.not_eq_false] at htrue
    subst htrue
    intro s' hs'
    rcases List.mem_cons.mp hs' with rfl | hrest
    · refine (recreateOne_recreated hok).mono ?_
      intro e he
      exact List.mem_append_right _ (List.mem_append_right _ (List.mem_append_right _
        (List.mem_append_left _ he)))
    · refine (ih h s' hrest).mono ?_
      intro e he
      exact List.mem_append_right _ (List.mem_append_right _ (List.mem_append_right _
        (List.mem_append_right _ (List.mem_append_right _ he))))

/-- The dictionary of expected ids, once these containers are in it. -/
def expectedIds (ids : List (String × Option String)) (seen : List Sighting) :
    List (String × Option String) :=
  seen.foldl (fun ids t => upsert ids t.name t.image) ids

/-- The snapshot of a container, with the digest verified for it. -/
def SightingOf (w : Window) (s : Snap) (t : Sighting) : Prop :=
  t.container = s.container ∧ t.inspected = s.inspected ∧
    w.verified.lookup s.container.repo = some t.digest

/-- The ids the gate is given: **one question for each container**, and the answers under their
names. -/
theorem appliedImageIds_asked {snaps : List Snap} {ids all : List (String × Option String)}
    (h : ((w.appliedImageIds snaps ids).implement EngineCall.perform).Hears es all) :
    ∃ seen, List.Forall₂ (SightingOf w) snaps seen ∧ List.Forall₂ Sighting.AskedBy seen es ∧
      all = expectedIds ids seen := by
  induction snaps generalizing ids es with
  | nil =>
    obtain ⟨rfl, rfl⟩ := (Action.hears_pure _).mp h
    exact ⟨[], .nil, .nil, rfl⟩
  | cons s rest ih =>
    unfold Window.appliedImageIds at h
    rw [Action.implement_bind] at h
    obtain ⟨digest, es₁, es₂, rfl, hdigest, h⟩ := Action.hears_bind.mp h
    rw [Action.implement_bind] at h
    obtain ⟨image, es₃, es₄, rfl, himage, h⟩ := Action.hears_bind.mp h
    obtain ⟨seen, hof, hasked, rfl⟩ := ih h
    have hlookup : w.verified.lookup s.container.repo = some digest ∧ es₁ = [] := by
      unfold Window.digestOf at hdigest
      cases hd : w.verified.lookup s.container.repo with
      | none =>
        rw [hd] at hdigest
        exact absurd hdigest (Action.not_hears_raise _)
      | some d =>
        rw [hd] at hdigest
        obtain ⟨hnil, rfl⟩ := (Action.hears_pure _).mp hdigest
        exact ⟨rfl, hnil⟩
    clear hdigest
    obtain ⟨hverified, rfl⟩ := hlookup
    obtain ⟨res, hres, hgiven⟩ := Action.hears_map.mp (step_hears.mp himage)
    rw [Action.hears_perform] at hres
    subst hres
    exact ⟨⟨s.container, s.inspected, digest, image⟩ :: seen, .cons ⟨rfl, rfl, hverified⟩ hof,
      .cons ⟨res, rfl, hgiven⟩ hasked, rfl⟩

/-- What is expected under a name that is given one id throughout. -/
theorem lookup_expectedIds {ids : List (String × Option String)} {seen : List Sighting} {n : String}
    {image : Option String} (hall : ∀ t ∈ seen, t.name = n → t.image = image)
    (hsome : (∃ t ∈ seen, t.name = n) ∨ ids.lookup n = some image) :
    (expectedIds ids seen).lookup n = some image := by
  induction seen generalizing ids with
  | nil =>
    rcases hsome with ⟨t, ht, -⟩ | hold
    · cases ht
    · exact hold
  | cons t rest ih =>
    refine ih (fun t' ht' => hall t' (List.mem_cons_of_mem _ ht')) ?_
    by_cases hname : t.name = n
    · subst hname
      rw [lookup_upsert_self, hall t List.mem_cons_self rfl]
      exact .inr rfl
    · rw [lookup_upsert_ne _ _ (Ne.symm hname)]
      rcases hsome with ⟨t', ht', hn⟩ | hold
      · rcases List.mem_cons.mp ht' with rfl | hrest
        · exact absurd hn hname
        · exact .inl ⟨t', hrest, hn⟩
      · exact .inr hold

theorem nonEmpty_printedId {res : CommandResult String} {i : String}
    (h : printedId res = some i) : nonEmpty (some i) = some i := by
  unfold printedId at h
  split at h
  · unfold nonEmpty at h
    obtain ⟨-, hne⟩ := Option.filter_eq_some_iff.mp h
    exact Option.filter_eq_some_iff.mpr ⟨rfl, hne⟩
  · cases h

/-- **What the gate compared.**  Every container was seen on its verified image exactly if docker
gave an id for each, and one id under one name. -/
theorem onVerified_iff {seen : List Sighting} {asked gate : Log}
    (hasked : List.Forall₂ Sighting.AskedBy seen asked)
    (hexpected : Expected (expectedIds [] seen) gate)
    (hsaw : ∀ t ∈ seen, ∀ i, nonEmpty ((expectedIds [] seen).lookup t.name).join = some i →
      SeenOn gate t.name i) :
    (∀ t ∈ seen, t.OnVerified gate) ↔ IdsGiven seen := by
  constructor
  · intro h t ht
    obtain ⟨i, himage, hseen⟩ := h t ht
    refine ⟨i, himage, fun t' ht' hname => ?_⟩
    obtain ⟨i', himage', hseen'⟩ := h t' ht'
    -- under one name the gate expects one id
    rw [hname] at hseen'
    have hsame : some i' = some i := (hexpected _ _ hseen').symm.trans (hexpected _ _ hseen)
    rw [himage', hsame]
  · intro h t ht
    obtain ⟨i, himage, hsame⟩ := h t ht
    refine ⟨i, himage, hsaw t ht i ?_⟩
    rw [lookup_expectedIds hsame (.inl ⟨t, ht, rfl⟩)]
    obtain ⟨e, -, res, -, hprinted⟩ := exists_right_of_forall₂ hasked ht
    rw [himage] at hprinted
    exact nonEmpty_printedId hprinted

/-- What an update that stands has heard: the answers to the questions for the ids, the gate, and
the rest. -/
structure Settled (w : Window) (asked gate rest : Log) (seen : List Sighting) : Prop where
  sightings : List.Forall₂ (SightingOf w) w.snaps seen
  asked : List.Forall₂ Sighting.AskedBy seen asked
  running : ∀ t ∈ seen, SeenRunning gate t.name
  verified : (∀ t ∈ seen, t.OnVerified gate) ↔ IdsGiven seen
  version : ∃ version, VersionRead rest w.grefferName version ∧
    isDowngrade version w.oldVersion = false

theorem settles_settled (h : (w.settles.implement EngineCall.perform).Hears es true) :
    ∃ asked gate rest seen, es = asked ++ (gate ++ rest) ∧ Settled w asked gate rest seen := by
  unfold Window.settles at h
  simp only [Action.implement_bind, Action.implement_ite, Action.implement_pure] at h
  obtain ⟨ids, es₁, es₂, rfl, hids, h⟩ := Action.hears_bind.mp h
  obtain ⟨outcome, es₃, es₄, rfl, hgate, h⟩ := Action.hears_bind.mp h
  rcases Action.hears_ite.mp h with ⟨-, hfalse⟩ | ⟨hready, h⟩
  · cases ((Action.hears_pure _).mp hfalse).2
  rw [not_not] at hready
  subst hready
  obtain ⟨version, es₅, es₆, rfl, hversion, h⟩ := Action.hears_bind.mp h
  rcases Action.hears_ite.mp h with ⟨-, hfalse⟩ | ⟨hnewer, h⟩
  · cases ((Action.hears_pure _).mp hfalse).2
  obtain ⟨seen, hof, hasked, rfl⟩ := appliedImageIds_asked hids
  have hready : (healthGate (w.forwardGate (expectedIds [] seen))).Hears es₃ .ready :=
    step_hears.mp hgate
  have hsaw : GateSaw es₃ (w.forwardGate (expectedIds [] seen)) := healthGate_saw rfl hready
  have hnames : ∀ t ∈ seen, t.name ∈ w.serviceNames := by
    intro t ht
    obtain ⟨s, hs, -, hinspected, -⟩ := exists_right_of_forall₂ hof.flip ht
    rw [Sighting.name, hinspected]
    exact List.mem_map_of_mem hs
  refine ⟨es₁, es₃, es₅ ++ es₆, seen, rfl, hof, hasked, ?_, ?_, version, ?_, by simpa using hnewer⟩
  · exact fun t ht => hsaw.running t.name (hnames t ht)
  · exact onVerified_iff hasked (healthGate_expected rfl hready)
      fun t ht i hi => hsaw.onImage t.name (hnames t ht) i hi
  · obtain ⟨res, hres, hof⟩ := Action.hears_map.mp (step_hears.mp hversion)
    exact (told_of_hears hres hof).mono (List.subset_append_left _ _)

theorem rb_not_ok {done done' : List Snap}
    (h : (w.rb.implement EngineCall.perform).Hears done es .ok done') : False := by
  unfold Window.rb Window.rollback at h
  simp only [Routine.implement_bind, Routine.implement_locals, Routine.implement_monadLift,
    Action.implement_bind, Action.implement_ite, Action.implement_pure] at h
  obtain ⟨l, l₁, es₁, es₂, rfl, -, h⟩ := Routine.hears_bind.mp h
  obtain ⟨h, -⟩ := Routine.hears_monadLift.mp h
  obtain ⟨allOk, es₃, es₄, rfl, -, h⟩ := Action.hears_bind.mp h
  rcases Action.hears_ite.mp h with ⟨-, h⟩ | ⟨-, h⟩
  · obtain ⟨outcome, es₅, es₆, rfl, -, h⟩ := Action.hears_bind.mp h
    rcases Action.hears_ite.mp h with ⟨-, h⟩ | ⟨-, h⟩
    · cases ((Action.hears_pure _).mp h).2
    · cases ((Action.hears_pure _).mp h).2
  · cases ((Action.hears_pure _).mp h).2

/-- **A window that ends well** recreated every container, and then settled. -/
theorem mutate_settled {done done' : List Snap}
    (h : (w.mutate.implement EngineCall.perform).Hears done es .ok done') :
    ∃ before asked gate rest seen, es = before ++ (asked ++ (gate ++ rest)) ∧
      (∀ s ∈ w.snaps, RecreatedFrom before s.name s.container.repo) ∧
      Settled w asked gate rest seen := by
  unfold Window.mutate at h
  rw [Routine.implement_tryExcept] at h
  rcases Routine.hears_tryExcept.mp h with h | ⟨e, l, es₁, es₂, rfl, -, h⟩
  · unfold Window.body at h
    simp only [Routine.implement_bind, Routine.implement_ite, Routine.implement_monadLift,
      Routine.implement_pure] at h
    obtain ⟨recreated, l, es₁, es₂, rfl, hrecreated, h⟩ := Routine.hears_bind.mp h
    rcases Routine.hears_ite.mp h with ⟨-, h⟩ | ⟨htrue, h⟩
    · exact (rb_not_ok h).elim
    rw [Bool.not_eq_true', Bool.not_eq_false] at htrue
    subst htrue
    obtain ⟨settled, es₃, es₄, rfl, hsettled, h⟩ := Routine.hears_lift_bind.mp h
    rcases Routine.hears_ite.mp h with ⟨htrue, h⟩ | ⟨-, h⟩
    · obtain ⟨rfl, -, -⟩ := (Routine.hears_pure _).mp h
      rw [show settled = true from htrue] at hsettled
      rw [List.append_nil]
      obtain ⟨asked, gate, rest, seen, rfl, hs⟩ := settles_settled hsettled
      exact ⟨es₁, asked, gate, rest, seen, rfl, recreateAll_recreated hrecreated, hs⟩
    · exact (rb_not_ok h).elim
  · exact (rb_not_ok h).elim

end Mutate

/-! ## The whole run -/

/-- What a success has seen of the versions: the greffer's own, before, and that of the container
of its name, after. -/
def VersionsSeen (before rest : Log) (greffer : Sighting) : Prop :=
  ∃ old new, VersionRead before greffer.container.containerId old ∧
    VersionRead rest greffer.name new ∧
    ∀ vOld vNew, versionTuple old = some vOld → versionTuple new = some vNew →
      tupleLess vNew vOld = false

/-- **A success**, by the parts of its log: every container of the stack that docker listed was
described, verified and recreated, was asked for the id of its digest, and was then seen running;
and the version did not go backward. -/
structure Success (req : UpdateRequest) (before asked gate rest : Log) (seen : List Sighting) :
    Prop where
  listed : ∃ project, Told before (.psProject project) fun res =>
    (inRecreateOrder (listedIn res)).containers = seen.map Sighting.container
  prepared : ∀ t ∈ seen, t.Prepared req before
  asked : List.Forall₂ Sighting.AskedBy seen asked
  running : ∀ t ∈ seen, SeenRunning gate t.name
  versions : ∃ t ∈ seen, t.container.service = grefferService ∧ VersionsSeen before rest t

theorem tupleLess_of_not_downgrade {old new : Option String} (h : isDowngrade new old = false)
    {vOld vNew : List Nat} (hold : versionTuple old = some vOld)
    (hnew : versionTuple new = some vNew) : tupleLess vNew vOld = false := by
  unfold isDowngrade isDowngradeTo at h
  rw [hold, hnew] at h
  simpa using h

theorem sightings_containers {w : Window} {snaps : List Snap} {seen : List Sighting}
    (h : List.Forall₂ (SightingOf w) snaps seen) :
    seen.map Sighting.container = snaps.map Snap.container := by
  induction h with
  | nil => rfl
  | cons hof _ ih => rw [List.map_cons, List.map_cons, hof.1, ih]

/-- **When a success runs what was verified.**  If the update ends with `EXIT_OK`, every container
of the stack that docker listed was recreated from its verified digest and then seen running, and
the version did not go backward.  And every one of them was seen on the image of that digest
exactly if docker gave an id for each digest when the update asked for it, and one id under one
name. -/
theorem success_observed_iff {req : UpdateRequest} {es : Log}
    (h : (remoteUpdate req).Hears es .ok) :
    ∃ before asked gate rest seen, es = before ++ (asked ++ (gate ++ rest)) ∧
      Success req before asked gate rest seen ∧
      ((∀ t ∈ seen, t.OnVerified gate) ↔ IdsGiven seen) := by
  unfold remoteUpdate runRemoteUpdate at h
  rw [Action.implement_bind] at h
  obtain ⟨stack, es₁, rest₁, rfl, hstack, h⟩ := Action.hears_bind.mp h
  cases hfind : stack.containers.find? fun c => c.service == grefferService with
  | none =>
    rw [hfind] at h
    cases ((Action.hears_pure _).mp h).2
  | some greffer =>
    rw [hfind] at h
    simp only [Action.implement_bind, Action.implement_ite, Action.implement_pure] at h
    obtain ⟨old, es₂, rest₂, rfl, hold, h⟩ := Action.hears_bind.mp h
    rcases Action.hears_ite.mp h with ⟨-, h⟩ | ⟨-, h⟩
    · cases ((Action.hears_pure _).mp h).2
    obtain ⟨verified, es₃, rest₃, rfl, hverified, h⟩ := Action.hears_bind.mp h
    cases verified with
    | none => cases ((Action.hears_pure _).mp h).2
    | some verified =>
      dsimp only at h
      rw [Action.implement_bind] at h
      obtain ⟨snaps, es₄, rest₄, rfl, hsnaps, h⟩ := Action.hears_bind.mp h
      cases snaps with
      | none => cases ((Action.hears_pure _).mp h).2
      | some snaps =>
        dsimp only at h
        rw [Routine.implement_run] at h
        obtain ⟨done, hmutate⟩ := Routine.hears_run.mp h
        obtain ⟨during, asked, gate, rest, seen, rfl, hrecreated, hsettled⟩ :=
          mutate_settled hmutate
        obtain ⟨hcontainers, hdescribed⟩ := snapshot_described hsnaps
        have hgreffer : greffer ∈ stack.containers := List.mem_of_find?_eq_some hfind
        have hsub₁ : es₁ ⊆ es₁ ++ (es₂ ++ (es₃ ++ (es₄ ++ during))) := List.subset_append_left _ _
        have hsub₂ : es₂ ⊆ es₁ ++ (es₂ ++ (es₃ ++ (es₄ ++ during))) := fun e he =>
          List.mem_append_right _ (List.mem_append_left _ he)
        have hsub₃ : es₃ ⊆ es₁ ++ (es₂ ++ (es₃ ++ (es₄ ++ during))) := fun e he =>
          List.mem_append_right _ (List.mem_append_right _ (List.mem_append_left _ he))
        have hsub₄ : es₄ ⊆ es₁ ++ (es₂ ++ (es₃ ++ (es₄ ++ during))) := fun e he =>
          List.mem_append_right _ (List.mem_append_right _ (List.mem_append_right _
            (List.mem_append_left _ he)))
        have hsub₅ : during ⊆ es₁ ++ (es₂ ++ (es₃ ++ (es₄ ++ during))) := fun e he =>
          List.mem_append_right _ (List.mem_append_right _ (List.mem_append_right _
            (List.mem_append_right _ he)))
        rcases discoverStack_told (step_hears.mp hstack) with hnil | ⟨project, res, hres, rfl⟩
        · rw [hnil] at hgreffer
          cases hgreffer
        refine ⟨es₁ ++ (es₂ ++ (es₃ ++ (es₄ ++ during))), asked, gate, rest, seen, by simp,
          ⟨?_, ?_, hsettled.asked, hsettled.running, ?_⟩, hsettled.verified⟩
        · refine ⟨project, res, hsub₁ hres, ?_⟩
          rw [sightings_containers hsettled.sightings]
          exact hcontainers.symm
        · intro t ht
          obtain ⟨s, hs, hcontainer, hinspected, hdigest⟩ :=
            exists_right_of_forall₂ hsettled.sightings.flip ht
          have hc : s.container ∈ (inRecreateOrder (listedIn res)).containers := by
            rw [← hcontainers]
            exact List.mem_map_of_mem hs
          obtain ⟨digest, hlookup, hcosign⟩ := phaseOne_verified hverified s.container hc
          have hsame : digest = t.digest := Option.some.inj (hlookup.symm.trans hdigest)
          subst hsame
          refine ⟨?_, ?_, ?_⟩
          · rw [hcontainer, hinspected]
            exact (hdescribed s hs).mono hsub₄
          · rw [hcontainer]
            exact hcosign.mono hsub₃
          · rw [hcontainer, Sighting.name, hinspected]
            exact (hrecreated s hs).mono hsub₅
        · -- the name that the gate calls the greffer by is the one of this container
          have hservice : greffer.service = grefferService := by
            simpa using List.find?_some hfind
          rw [← hcontainers, List.find?_map] at hfind
          obtain ⟨s, hs, rfl⟩ := Option.map_eq_some_iff.mp hfind
          obtain ⟨t, ht, hcontainer, hinspected, -⟩ :=
            exists_right_of_forall₂ hsettled.sightings (List.mem_of_find?_eq_some hs)
          obtain ⟨new, hnew, hnewer⟩ := hsettled.version
          have hname : Window.grefferName ⟨req, snaps, verified, old⟩ = t.name := by
            unfold Window.grefferName
            rw [show (snaps.find? fun s => s.container.service == grefferService) = some s from hs,
              Sighting.name, hinspected]
            rfl
          rw [hname] at hnew
          obtain ⟨answer, hanswer, hprinted⟩ := Action.hears_map.mp (step_hears.mp hold)
          refine ⟨t, ht, ?_, old, new, ?_, hnew, ?_⟩
          · rw [hcontainer]
            exact hservice
          · rw [hcontainer]
            exact (told_of_hears hanswer hprinted).mono hsub₂
          · exact fun vOld vNew => tupleLess_of_not_downgrade hnewer

/-! ## Docker that gives no ids of images -/

/-- A node of two containers that updates well; `imageId` is what docker answers when it is asked
for the id of an image, and each container runs an image of the id `on`. -/
def twoContainers (imageId : CommandResult String) (on : String) :
    (c : Command) → Raises Command.Answer UpdateError c
  | .psGreffer => .ok ⟨0, "g1\n", ""⟩
  | .inspectProject _ => .ok ⟨0, "node\n", ""⟩
  | .psProject _ => .ok ⟨0, "g1\tgreffer\nn1\tnginx\n", ""⟩
  | .inspect i => .ok ⟨0, some [some
      { name := some (if i = "g1" then "/greffer" else "/nginx"), image := some "sha256:old" }], ""⟩
  | .imageInspectId _ => .ok imageId
  | .imagetoolsInspect _ => .ok ⟨0, some ("sha256:" ++ String.ofList (List.replicate 64 'a')), ""⟩
  | .execReadyz _ => .ok ⟨0, some { status := some "ready" }, ""⟩
  | .execVersion _ => .ok ⟨0, "1.0.0\n", ""⟩
  | .inspectRunning _ => .ok ⟨0, "true\n", ""⟩
  | .inspectImage _ => .ok ⟨0, on ++ "\n", ""⟩
  | .inspectRestartCount _ => .ok ⟨0, "0\n", ""⟩
  | c => c.silent

/-- Its update, without a tag of its own. -/
def plainRequest : UpdateRequest where
  cosignPub := "key"
  grefferId := none

/-- What the update of such a node hears. -/
def twoContainersLog (imageId : CommandResult String) (on : String) : Log :=
  (Prog.listen (twoContainers imageId on) 60 (remoteUpdate plainRequest)).1

/-- It ends with `EXIT_OK`. -/
def endsWell (imageId : CommandResult String) (on : String) : Bool :=
  match (Prog.listen (twoContainers imageId on) 60 (remoteUpdate plainRequest)).2 with
  | some (.ok .ok) => true
  | _ => false

theorem twoContainersLog_heard {imageId : CommandResult String} {on : String}
    (h : endsWell imageId on = true) :
    (remoteUpdate plainRequest).Hears (twoContainersLog imageId on) .ok := by
  unfold endsWell at h
  split at h
  case h_1 hreturns => exact Prog.hears_listen hreturns
  case h_2 => cases h

/-- Docker gives the id of the new image, and both containers are on it. -/
theorem success_observed_iff_twoContainers : ∃ before asked gate rest seen,
    twoContainersLog ⟨0, "sha256:new\n", ""⟩ "sha256:new" = before ++ (asked ++ (gate ++ rest)) ∧
      Success plainRequest before asked gate rest seen ∧
      ((∀ t ∈ seen, t.OnVerified gate) ↔ IdsGiven seen) :=
  success_observed_iff (twoContainersLog_heard (by decide +kernel))

/-- An event that lists a stack of two containers. -/
def listsTwo : Heard (Raises Command.Answer UpdateError) → Bool
  | ⟨.psProject _, .ok res⟩ => (inRecreateOrder (listedIn res)).containers.length == 2
  | _ => false

/-- **A success that has not looked at a single image**: docker fails to give the id of an image,
and the update of two containers that it listed ends well. -/
theorem success_without_image_ids :
    ∃ es, (remoteUpdate plainRequest).Hears es .ok ∧
      (∃ project, Told es (.psProject project) fun res =>
        (inRecreateOrder (listedIn res)).containers.length = 2) ∧
      ∀ name image, ¬ SeenOn es name image := by
  have hwell : endsWell ⟨1, "", "timeout"⟩ "sha256:old" = true := by decide +kernel
  have hnone : (twoContainersLog ⟨1, "", "timeout"⟩ "sha256:old").any (·.1.asksImage) = false := by
    decide +kernel
  have hheard := twoContainersLog_heard hwell
  refine ⟨_, hheard, ?_, ?_⟩
  · have hlists : (twoContainersLog ⟨1, "", "timeout"⟩ "sha256:old").any listsTwo = true := by
      decide +kernel
    obtain ⟨e, he, htwo⟩ := List.any_eq_true.mp hlists
    unfold listsTwo at htwo
    split at htwo
    case h_1 project res => exact ⟨project, res, he, beq_iff_eq.mp htwo⟩
    case h_2 => cases htwo
  · rintro name image ⟨res, hres, -⟩
    rw [List.any_eq_false] at hnone
    exact hnone _ hres rfl

end Greffer.Updater

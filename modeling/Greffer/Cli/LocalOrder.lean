import Mathlib.Logic.Relation
import Greffer.Cli.Update

/-! # No update crosses another downwards

While a run decides on its target, other updaters that take the same lock may install what they
want; the run reads the version again once it holds the lock, and decides again if it has moved.
The world of this module is the host's: what is installed, who holds the lock, and what the run has
read.  **Between two calls of the run the others take any number of steps**, which change what is
installed only while one of them holds the lock.

`rewrites_upward` is about every such run of an update that has no `--to`.  What is written into the
compose file is not older than the version that was read in the locked section, nor than the floor;
and where the run holds the lock, the version that was read is still the one that is installed.
-/
namespace Greffer.Cli
open Effects
open Greffer.Updater (isDowngradeTo)

/-! ## The host -/

/-- Who holds the update lock. -/
inductive Holder where
  | nobody | thisRun | other
  deriving DecidableEq

/-- A version that the run has read. -/
structure Reading where
  version : Option String
  /-- Whether the run held the lock. -/
  holding : Bool

/-- A rewrite of the compose file, with what there was when the run reached it. -/
structure Rewrite where
  target : String
  /-- The manifest the run has fetched. -/
  manifest : Option Manifest
  /-- What the run has read last. -/
  read : Option Reading
  /-- Whether the run held the lock. -/
  holding : Bool
  installed : Option String

/-- The host, as far as the order of the versions goes. -/
structure Host where
  /-- The version of the greffer that is there, if it can be asked. -/
  installed : Option String
  holder : Holder := .nobody
  fetched : Option Manifest := none
  read : Option Reading := none
  rewrites : List Rewrite := []

namespace Host

/-- Whether the run holds the lock. -/
def holding (h : Host) : Bool := h.holder == .thisRun

/-- The rewrite that is reached here. -/
def rewriteTo (h : Host) (target : String) : Rewrite where
  target := target
  manifest := h.fetched
  read := h.read
  holding := h.holding
  installed := h.installed

/-- The run has closed its lock file. -/
def closed (h : Host) : Host := if h.holding then { h with holder := .nobody } else h

end Host

/-- What another updater does: it takes the lock, installs while it holds it, and releases it. -/
inductive OtherStep : Host → Host → Prop where
  | take {h : Host} (free : h.holder = .nobody) : OtherStep h { h with holder := .other }
  | install {h : Host} (version : Option String) (held : h.holder = .other) :
      OtherStep h { h with installed := version }
  | release {h : Host} (held : h.holder = .other) : OtherStep h { h with holder := .nobody }

/-- What the others do between two calls of the run. -/
abbrev Others : Host → Host → Prop := Relation.ReflTransGen OtherStep

/-- What a call of the run does.  An answer may be any; a version that is read is the installed one,
and a call that a signal ends may have done its work. -/
def CallEffect (h : Host) (c : UpdateCall) (r : Raises UpdateCall.Answer Interruption c)
    (h' : Host) : Prop :=
  match c, r with
  | .fetchManifest _, .ok manifest => h' = { h with fetched := manifest }
  | .execGrefferVersion, .ok version =>
    (version = none ∨ version = h.installed) ∧ h' = { h with read := some ⟨version, h.holding⟩ }
  | .flock, .ok _ => h.holder = .nobody ∧ h' = { h with holder := .thisRun }
  | .flock, .error _ => h' = h ∨ h.holder = .nobody ∧ h' = { h with holder := .thisRun }
  | .closeLock, _ => h' = h.closed ∨ h' = h
  | .retag target, _ => h' = { h with rewrites := h.rewrites ++ [h.rewriteTo target] }
  | .composeUp _, _ => ∃ version, h' = { h with installed := version }
  | _, _ => h' = h

/-- The others step, and then the call is served. -/
def hostMachine : Machine (Raises UpdateCall.Answer Interruption) Host where
  serve h c r h' := ∃ m, Others h m ∧ CallEffect m c r h'

/-- **What the claim asks of a rewrite**: the version read in the locked section is not numerically
greater than the target, and the target is not below the floor. -/
structure Rewrite.Upward (x : Rewrite) : Prop where
  read : ∃ version, x.read = some ⟨version, x.holding⟩ ∧ NotGreater version (some x.target) ∧
    -- under the lock, what was read is what is there
    (x.holding = true → version = none ∨ x.installed = version)
  floor : NotGreater (floorOf x.manifest) (some x.target)

/-! ## What the others leave alone -/

/-- Nothing that the run has done or holds is changed. -/
structure Kept (h h' : Host) : Prop where
  fetched : h'.fetched = h.fetched
  read : h'.read = h.read
  rewrites : h'.rewrites = h.rewrites
  holding : h'.holding = h.holding
  installed : h.holding = true → h'.installed = h.installed

namespace Kept

theorem refl (h : Host) : Kept h h := ⟨rfl, rfl, rfl, rfl, fun _ => rfl⟩

theorem trans {h m h' : Host} (first : Kept h m) (second : Kept m h') : Kept h h' where
  fetched := second.fetched.trans first.fetched
  read := second.read.trans first.read
  rewrites := second.rewrites.trans first.rewrites
  holding := second.holding.trans first.holding
  installed hheld :=
    (second.installed (first.holding.trans hheld)).trans (first.installed hheld)

/-- An updater that takes, holds or releases the lock does so while the run does not. -/
theorem of_otherStep {h h' : Host} (hstep : OtherStep h h') : Kept h h' := by
  cases hstep with
  | take free =>
    have hout : h.holding = false := by simp [Host.holding, free]
    exact ⟨rfl, rfl, rfl, hout.symm, fun hheld => absurd hheld (by simp [hout])⟩
  | install version held =>
    have hout : h.holding = false := by simp [Host.holding, held]
    exact ⟨rfl, rfl, rfl, rfl, fun hheld => absurd hheld (by simp [hout])⟩
  | release held =>
    have hout : h.holding = false := by simp [Host.holding, held]
    exact ⟨rfl, rfl, rfl, hout.symm, fun hheld => absurd hheld (by simp [hout])⟩

theorem of_others {h h' : Host} (hothers : Others h h') : Kept h h' := by
  induction hothers with
  | refl => exact refl h
  | tail _ hstep ih => exact ih.trans (of_otherStep hstep)

end Kept

/-! ## What each call leaves alone -/

section Calls
variable {h h' : Host} {c : UpdateCall} {r : Raises UpdateCall.Answer Interruption c}

/-- Calls that read nothing of the order and change nothing of it. -/
def Aside : UpdateCall → Prop
  | .fetchManifest _ | .execGrefferVersion | .flock | .closeLock | .retag _ | .composeUp _ => False
  | _ => True

/-- Calls that neither fetch the manifest nor rewrite the compose file. -/
def Plain : UpdateCall → Prop
  | .fetchManifest _ | .retag _ => False
  | _ => True

theorem kept_of_aside (hc : Aside c) (hserve : hostMachine.serve h c r h') : Kept h h' := by
  obtain ⟨m, hothers, heffect⟩ := hserve
  have hm : h' = m := by
    cases c <;> first | exact hc.elim | exact heffect
  exact hm ▸ .of_others hothers

theorem closed_kept (h : Host) : h.closed.fetched = h.fetched ∧ h.closed.rewrites = h.rewrites := by
  unfold Host.closed
  split <;> exact ⟨rfl, rfl⟩

/-- A plain call leaves the manifest and the rewrites as they are. -/
theorem plain_kept (hc : Plain c) (hserve : hostMachine.serve h c r h') :
    h'.fetched = h.fetched ∧ h'.rewrites = h.rewrites := by
  obtain ⟨m, hothers, heffect⟩ := hserve
  have hkept := Kept.of_others hothers
  suffices hm : h'.fetched = m.fetched ∧ h'.rewrites = m.rewrites from
    ⟨hm.1.trans hkept.fetched, hm.2.trans hkept.rewrites⟩
  cases c
  case fetchManifest => exact hc.elim
  case retag => exact hc.elim
  case execGrefferVersion =>
    cases r with
    | error e => exact heffect ▸ ⟨rfl, rfl⟩
    | ok version => exact heffect.2 ▸ ⟨rfl, rfl⟩
  case flock =>
    cases r with
    | error e =>
      rcases heffect with rfl | ⟨-, rfl⟩
      · exact ⟨rfl, rfl⟩
      · exact ⟨rfl, rfl⟩
    | ok _ => exact heffect.2 ▸ ⟨rfl, rfl⟩
  case closeLock =>
    rcases heffect with rfl | rfl
    · exact closed_kept m
    · exact ⟨rfl, rfl⟩
  case composeUp =>
    obtain ⟨version, rfl⟩ := heffect
    exact ⟨rfl, rfl⟩
  all_goals exact heffect ▸ ⟨rfl, rfl⟩

end Calls

theorem aside_of_observing {c : UpdateCall} (h : Observing c) : Aside c := by
  cases c <;> trivial

theorem plain_of_aside {c : UpdateCall} (h : Aside c) : Plain c := by
  cases c <;> trivial

theorem plain_of_observing {c : UpdateCall} (h : Observing c) : Plain c :=
  plain_of_aside (aside_of_observing h)

/-! ## After the rewrite -/

section AfterRewrite
variable (g : GateRequest) (oldRefs : Refs)

theorem rollback_plain : (rollback g oldRefs).Uses Plain := by
  refine (Action.uses_perform trivial).bind fun _ => (Action.uses_perform trivial).bind fun up => ?_
  refine Action.Uses.bind ?_ fun healthy => ?_
  · split
    · exact (rollbackHealth_observes g).uses.mono fun _ => plain_of_observing
    · exact Action.uses_pure _
  · split
    · exact (Action.uses_perform trivial).bind fun _ => Action.uses_pure _
    · exact (Action.uses_perform trivial).bind fun _ => Action.uses_pure _

theorem attempt_plain : (attempt g oldRefs).Uses Plain := by
  have hback : Routine.Uses Plain (monadLift (rollback g oldRefs) : Task Int) :=
    Routine.uses_monadLift (rollback_plain g oldRefs)
  have hsay (m : Message) : Routine.Uses Plain (monadLift (say m) : Task Unit) :=
    Routine.uses_monadLift (Action.uses_perform trivial)
  refine (Routine.uses_monadLift (Action.uses_perform trivial)).bind fun pull => ?_
  split
  · exact (hsay _).bind fun _ => Routine.uses_pure _
  refine (Routine.uses_monadLift (Action.uses_perform trivial)).bind fun up => ?_
  split
  · exact hback
  refine (Routine.uses_monadLift ((healthGate_observes g).uses.mono fun _ => plain_of_observing)).bind
    fun outcome => (Routine.uses_monadLift (Action.uses_perform trivial)).bind fun _ => ?_
  split
  · exact (Routine.uses_assign _).bind fun _ => (hsay _).bind fun _ => Routine.uses_pure _
  · exact (hsay _).bind fun _ => hback

theorem disarm_plain : (disarm oldRefs).Uses Plain := by
  refine Routine.uses_locals.bind fun l => ?_
  split
  · exact Routine.uses_monadLift (Action.uses_perform trivial)
  · exact Routine.uses_pure _

theorem handled_plain {α : Type} {m : Task α} (h : m.Uses Plain) :
    (handled oldRefs m).Uses Plain := by
  refine h.tryExcept fun e => ?_
  cases e with
  | terminated =>
    exact (disarm_plain oldRefs).bind fun _ =>
      Routine.uses_locals.bind fun _ => Routine.uses_raise _
  | _ => exact Routine.uses_raise _

theorem cleanup_plain (prev : Bool) : (cleanup oldRefs prev).Uses Plain := by
  refine (Routine.uses_monadLift (Action.uses_perform trivial)).bind fun _ =>
    (disarm_plain oldRefs).bind fun _ => ?_
  split
  · exact Routine.uses_monadLift (Action.uses_perform trivial)
  · exact Routine.uses_pure _

end AfterRewrite

/-! ## Along the text -/

/-- The invariant of a run: every rewrite that was reached is as the claim asks. -/
def Orderly (h : Host) : Prop := ∀ x ∈ h.rewrites, x.Upward

/-- The run has fetched `manifest`, and has not reached the rewrite. -/
structure Untouched (manifest : Option Manifest) (h : Host) : Prop where
  rewrites : h.rewrites = []
  fetched : h.fetched = manifest

/-- The run has read `locked` in the locked section, and nothing has moved since. -/
structure Ready (p : Plan) (locked : Option String) (h : Host) : Prop extends
    Untouched p.manifest h where
  read : h.read = some ⟨locked, h.holding⟩
  current : h.holding = true → locked = none ∨ h.installed = locked

/-- What the checks before the lock have found. -/
structure Cleared (p : Plan) : Prop where
  floor : NotGreater (floorOf p.manifest) (some p.target)
  order : NotGreater p.currentVersion (some p.target)

theorem orderly_of_rewrites {h h' : Host} (heq : h'.rewrites = h.rewrites) (hh : Orderly h) :
    Orderly h' := by
  unfold Orderly
  rw [heq]
  exact hh

theorem Untouched.orderly {manifest : Option Manifest} {h : Host} (hh : Untouched manifest h) :
    Orderly h := by
  unfold Orderly
  rw [hh.rewrites]
  exact fun x hx => absurd hx List.not_mem_nil

theorem Untouched.plain {manifest : Option Manifest} {h h' : Host} {c : UpdateCall}
    {r : Raises UpdateCall.Answer Interruption c} (hh : Untouched manifest h) (hc : Plain c)
    (hserve : hostMachine.serve h c r h') : Untouched manifest h' := by
  obtain ⟨hfetched, hrewrites⟩ := plain_kept hc hserve
  exact ⟨hrewrites.trans hh.rewrites, hfetched.trans hh.fetched⟩

theorem Ready.kept {p : Plan} {locked : Option String} {h h' : Host} (hh : Ready p locked h)
    (hkept : Kept h h') : Ready p locked h' where
  rewrites := hkept.rewrites.trans hh.rewrites
  fetched := hkept.fetched.trans hh.fetched
  read := by rw [hkept.read, hkept.holding, hh.read]
  current hheld := by
    have hbefore : h.holding = true := hkept.holding ▸ hheld
    rw [hkept.installed hbefore]
    exact hh.current hbefore

theorem untouched_along {α : Type} {m : Step α} {manifest : Option Manifest} {h : Host}
    (hm : m.Uses Plain) (hh : Untouched manifest h) :
    m.Always hostMachine (Untouched manifest) (fun _ _ => True) h :=
  (hm.always (fun _ _ _ _ hc hw hserve => hw.plain hc hserve) hh).mono fun _ _ _ _ => trivial

theorem orderly_along {α : Type} {m : Task α} {l : Locals} {h : Host} (hm : m.Uses Plain)
    (hh : Orderly h) : m.Always hostMachine Orderly (fun _ _ _ => True) l h :=
  (hm.always (fun _ _ _ _ hc hw hserve => orderly_of_rewrites (plain_kept hc hserve).2 hw)
    hh).mono fun _ _ _ _ _ => trivial

/-- Code that keeps `J`, before code that starts from `J`. -/
theorem orderly_after {α β : Type} {J : Host → Prop} {m : Step α} {f : α → Task β} {l : Locals}
    {h : Host} (hm : m.Always hostMachine J (fun _ _ => True) h) (hJ : ∀ h, J h → Orderly h)
    (hf : ∀ a h, J h → (f a).Always hostMachine Orderly (fun _ _ _ => True) l h) :
    ((monadLift m : Task α) >>= f).Always hostMachine Orderly (fun _ _ _ => True) l h :=
  Routine.lift_bind_frame hJ hm (fun _ _ _ => trivial) hf

/-- **The rewrite.**  Where the section is entered ready, what is rewritten is upward. -/
theorem mutate_orderly {p : Plan} {locked : Option String} {l : Locals} {h : Host}
    (hready : Ready p locked h) (hfloor : NotGreater (floorOf p.manifest) (some p.target))
    (horder : NotGreater locked (some p.target)) :
    (mutate p.gate).Always hostMachine Orderly (fun _ _ _ => True) l h := by
  refine Routine.invariant_bind ?_ fun oldRefs l h hh => orderly_along ?_ hh
  · rw [Routine.always_monadLift]
    unfold setImageTag
    rw [Action.always_ite]
    refine ⟨fun _ => ?_, fun _ => ⟨hready.orderly, trivial⟩⟩
    refine (Action.always_perform _).mpr ⟨hready.orderly, fun r h' hserve => ⟨?_, trivial⟩⟩
    obtain ⟨m, hothers, rfl⟩ := hserve
    have hm := hready.kept (.of_others hothers)
    intro x hx
    rw [hm.rewrites, List.nil_append, List.mem_singleton] at hx
    subst hx
    refine ⟨⟨locked, hm.read, horder, hm.current⟩, ?_⟩
    show NotGreater (floorOf m.fetched) (some p.target)
    rw [hm.fetched]
    exact hfloor
  · refine (Routine.uses_monadLift (Action.uses_perform trivial)).bind fun _ => ?_
    refine (handled_plain oldRefs ?_).bind fun prev => ?_
    · exact (Routine.uses_monadLift (Action.uses_perform trivial)).bind fun prev =>
        (Routine.uses_monadLift (Action.uses_perform trivial)).bind fun _ => Routine.uses_pure _
    · exact (handled_plain oldRefs (attempt_plain p.gate oldRefs)).tryFinally
        (handled_plain oldRefs (cleanup_plain oldRefs prev))

/-- The pre-flight lets only what is cleared pass. -/
theorem preflight_clears {req : UpdateRequest} {p : Plan} (hauto : req.target = none) :
    (preflight req p).Returns fun r => r = .ok none → Cleared p := by
  have hrefuse (m : Message) (code : Int) : (do say m; return some code : Step (Option Int)).Returns
      fun r => r = .ok none → Cleared p :=
    .thenAny (fun _ h => by cases h) fun _ h => by cases h
  unfold preflight
  split
  · exact hrefuse _ _
  refine .thenAny (fun _ h => by cases h) fun named => ?_
  split
  · exact hrefuse _ _
  split
  · exact hrefuse _ _
  case isFalse hfloor =>
    split
    · exact hrefuse _ _
    case isFalse horder =>
      have hcleared : Cleared p :=
        ⟨notGreater_of_not_belowFloor hfloor,
          notGreater_of_not_downgrade fun hdown => horder ⟨hdown, hauto⟩⟩
      exact Action.Returns.of_forall fun _ _ => hcleared

/-- A version that has moved is checked again, and one that has not was checked before. -/
theorem recheck_clears {req : UpdateRequest} {p : Plan} {locked : Option String}
    (hauto : req.target = none) (hp : Cleared p) :
    (recheck req p locked).Returns fun r => r = .ok none → NotGreater locked (some p.target) := by
  unfold recheck
  split
  case isTrue hsame => exact fun _ => hsame ▸ hp.order
  case isFalse =>
    split
    case isTrue => exact .thenAny (fun _ h => by cases h) fun _ h => by cases h
    case isFalse horder =>
      exact Action.Returns.of_forall fun _ _ =>
        notGreater_of_not_downgrade fun hdown => horder ⟨hdown, hauto⟩

/-- What is read is what is installed, while the run holds the lock. -/
theorem read_ready {p : Plan} {h h' : Host} {locked : Option String}
    (hh : Untouched p.manifest h)
    (hserve : hostMachine.serve h .execGrefferVersion (.ok locked) h') : Ready p locked h' := by
  obtain ⟨m, hothers, hversion, rfl⟩ := hserve
  have hkept := Kept.of_others hothers
  refine ⟨⟨hkept.rewrites.trans hh.rewrites, hkept.fetched.trans hh.fetched⟩, rfl, fun _ => ?_⟩
  rcases hversion with hnone | hsome
  · exact .inl hnone
  · exact .inr hsome.symm

theorem underLock_orderly {req : UpdateRequest} {p : Plan} {l : Locals} {h : Host}
    (hauto : req.target = none) (hp : Cleared p) (hh : Untouched p.manifest h) :
    (underLock req p).Always hostMachine Orderly (fun _ _ _ => True) l h := by
  unfold underLock
  rw [Routine.always_bind, Routine.always_monadLift, Action.always_perform]
  refine ⟨hh.orderly, fun r h₁ hserve => ?_⟩
  have horderly : Orderly h₁ := (hh.plain (c := .execGrefferVersion) trivial hserve).orderly
  cases r with
  | error e => exact ⟨horderly, trivial⟩
  | ok locked =>
    refine ⟨horderly, ?_⟩
    have hready := read_ready hh hserve
    -- the check of the fresh version leaves the host as it is
    have hrecheck : (recheck req p locked).Always hostMachine (Ready p locked)
        (fun _ _ => True) h₁ :=
      ((recheck_observes req p locked).uses.always (fun _ _ _ _ hc hw hserve =>
        hw.kept (kept_of_aside (aside_of_observing hc) hserve)) hready).mono
          fun _ _ _ _ => trivial
    rw [Routine.onOk_ok, Routine.always_bind, Routine.always_monadLift]
    refine (Prog.Always.returning hrecheck (recheck_clears hauto hp)).imp
      (fun _ hw => hw.orderly) ?_
    intro r h₂ hready₂ hr
    rcases r with e | code
    · trivial
    · cases code with
      | some code => exact ⟨hready₂.orderly, trivial⟩
      | none => exact mutate_orderly hready₂ hp.floor (hr.1 rfl)

theorem carryOut_orderly {req : UpdateRequest} {p : Plan} {l : Locals} {h : Host}
    (hauto : req.target = none) (hh : Untouched p.manifest h) :
    (carryOut req p).Always hostMachine Orderly (fun _ _ _ => True) l h := by
  unfold carryOut
  rw [Routine.always_bind, Routine.always_monadLift]
  have hpreflight := untouched_along
    ((preflight_observes req p).uses.mono fun _ => plain_of_observing) hh
  refine (Prog.Always.returning hpreflight (preflight_clears hauto)).imp
    (fun _ hw => hw.orderly) ?_
  intro r h₁ hh₁ hr
  rcases r with e | code
  · trivial
  cases code with
  | some code => exact ⟨hh₁.orderly, trivial⟩
  | none =>
    have hp : Cleared p := hr.1 rfl
    refine orderly_after
      (untouched_along ((acquireUpdateLock_within (fun _ => plain_of_observing) trivial trivial _).uses) hh₁)
      (fun _ hw => hw.orderly) ?_
    intro lock h₂ hh₂
    cases lock with
    | none =>
      refine orderly_along ?_ hh₂.orderly
      exact (Routine.uses_monadLift ((updateLockPath_observes _).uses.mono fun _ => plain_of_observing)).bind
        fun path => (Routine.uses_monadLift (Action.uses_perform trivial)).bind
          fun _ => Routine.uses_pure _
    | some lock =>
      refine Routine.invariant_tryFinally (underLock_orderly hauto hp hh₂) fun l h₃ hh₃ => ?_
      exact orderly_along (Routine.uses_monadLift (releaseUpdateLock_within trivial lock).uses) hh₃

theorem unfetched_along {α : Type} {m : Step α} {h : Host} (hm : m.Uses Plain)
    (hh : h.rewrites = []) :
    m.Always hostMachine (fun h => h.rewrites = []) (fun _ _ => True) h :=
  (hm.always (fun _ _ _ _ hc hw hserve => (plain_kept hc hserve).2.trans hw) hh).mono
    fun _ _ _ _ => trivial

theorem orderly_of_nil {h : Host} (hh : h.rewrites = []) : Orderly h :=
  Untouched.orderly ⟨hh, rfl⟩

/-- A manifest that is fetched is the one on record. -/
theorem fetch_untouched {h h' : Host} {url : String} {manifest : Option Manifest}
    (hh : h.rewrites = []) (hserve : hostMachine.serve h (.fetchManifest url) (.ok manifest) h') :
    Untouched manifest h' := by
  obtain ⟨m, hothers, rfl⟩ := hserve
  exact ⟨(Kept.of_others hothers).rewrites.trans hh, rfl⟩

theorem updateTask_orderly {req : UpdateRequest} {l : Locals} {h : Host}
    (hauto : req.target = none) (hh : h.rewrites = []) :
    (updateTask req).Always hostMachine Orderly (fun _ _ _ => True) l h := by
  refine orderly_after (unfetched_along (Action.uses_perform trivial) hh)
    (fun _ => orderly_of_nil) ?_
  intro env h₁ hh₁
  refine orderly_after
    (unfetched_along ((resolveMode_observes env).uses.mono fun _ => plain_of_observing) hh₁)
    (fun _ => orderly_of_nil) ?_
  intro mode h₂ hh₂
  rw [Routine.always_bind, Routine.always_monadLift, Action.always_perform]
  refine ⟨orderly_of_nil hh₂, fun r h₃ hserve => ?_⟩
  cases r with
  | error e =>
    obtain ⟨m, hothers, rfl⟩ := hserve
    exact ⟨orderly_of_nil ((Kept.of_others hothers).rewrites.trans hh₂), trivial⟩
  | ok manifest =>
    have hh₃ := fetch_untouched hh₂ hserve
    refine ⟨hh₃.orderly, ?_⟩
    refine orderly_after (untouched_along (Action.uses_perform trivial) hh₃)
      (fun _ hw => hw.orderly) ?_
    intro currentVersion h₄ hh₄
    have hsay (m : Message) (l : Locals) : ((monadLift (say m) : Task Unit) >>= fun _ =>
        pure exitPreflightRefused).Always hostMachine Orderly (fun _ _ _ => True) l h₄ :=
      orderly_along ((Routine.uses_monadLift (Action.uses_perform trivial)).bind
        fun _ => Routine.uses_pure _) hh₄.orderly
    split
    · exact hsay _ _
    · unfold withTarget
      split
      · exact orderly_along ((Routine.uses_monadLift (Action.uses_perform trivial)).bind
          fun _ => Routine.uses_pure _) hh₄.orderly
      · exact carryOut_orderly hauto hh₄

/-- **No update crosses a concurrent one downwards.**  At every point of every run of an update
without `--to`, whatever its calls are answered and whatever the other updaters install in between:
each rewrite of the compose file that was reached is to a target that the version read in the locked
section is not greater than, and that is not below the floor. -/
theorem rewrites_upward {req : UpdateRequest} {h h' : Host}
    {rest : Prog (Raises UpdateCall.Answer Interruption) (Except Interruption Int)}
    (hauto : req.target = none) (hfresh : h.rewrites = [])
    (hrun : Run hostMachine h (runUpdate req) h' rest) : ∀ x ∈ h'.rewrites, x.Upward := by
  have halways : (runUpdate req).Always hostMachine Orderly (fun _ _ => True) h :=
    Routine.always_run.mpr (updateTask_orderly hauto hfresh)
  exact Prog.Always.at_stop halways hrun

/-! ## A run that an updater has overtaken -/

/-- How a host answers on which another updater installs 0.6.0 between the first reading of the
version and the lock. -/
def overtakenAnswer (h : Host) :
    (c : UpdateCall) → Raises UpdateCall.Answer Interruption c × Host
  | .readEnv => (.ok { grefferId := some "g1", grefferMode := some "proxy" }, h)
  | .fetchManifest _ =>
    let manifest : Option Manifest := some { latest := some "0.7.0", minSupported := some "0.5.0" }
    (.ok manifest, { h with fetched := manifest })
  | .execGrefferVersion => (.ok h.installed, { h with read := some ⟨h.installed, h.holding⟩ })
  | .dataVolumeIsNamed => (.ok true, h)
  | .containerImageId _ => (.ok (some "sha256:old"), h)
  | .imageId _ => (.ok none, h)
  | .importFcntl => (.ok true, h)
  | .dataVolumeMountpoint => (.ok (some "/var/lib/docker/volumes/greffon-data/_data"), h)
  | .openLock _ => (.ok (), h)
  | .flock =>
    if h.holder = .nobody then (.ok (), { h with installed := some "0.6.0", holder := .thisRun })
    else (.error .osError, h)
  | .closeLock => (.ok (), h.closed)
  | .retag target => (.ok [], { h with rewrites := h.rewrites ++ [h.rewriteTo target] })
  | .composeUp _ => (.error .osError, h)
  | _ => (.error .osError, h)

/-- The other updater does so while it holds the lock. -/
theorem overtaken_served (h : Host) (c : UpdateCall) :
    hostMachine.serve h c (overtakenAnswer h c).1 (overtakenAnswer h c).2 := by
  cases c
  case flock =>
    by_cases hfree : h.holder = .nobody
    · have htake := OtherStep.take hfree
      have hinstall := OtherStep.install (some "0.6.0") (h := { h with holder := .other }) rfl
      have hrelease := OtherStep.release
        (h := { h with installed := some "0.6.0", holder := .other }) rfl
      refine ⟨_, .tail (.tail (.tail .refl htake) hinstall) hrelease, ?_⟩
      simp only [overtakenAnswer, if_pos hfree, CallEffect, true_and]
    · refine ⟨h, .refl, ?_⟩
      simp only [overtakenAnswer, if_neg hfree, CallEffect, true_or]
  case execGrefferVersion => exact ⟨h, .refl, .inr rfl, rfl⟩
  case closeLock => exact ⟨h, .refl, .inl rfl⟩
  case composeUp => exact ⟨h, .refl, h.installed, rfl⟩
  all_goals exact ⟨h, .refl, rfl⟩

/-- The host before the run. -/
def overtakenHost : Host := { installed := some "0.5.0" }

/-- What the operator asks for. -/
def overtakenRequest : UpdateRequest := { cfg := "/root/.greffer", confirmNoRollback := true }

/-- The run reads 0.5.0, finds 0.6.0 under the lock, and rewrites to 0.7.0. -/
theorem rewrites_upward_overtaken : (∃ h',
    (∀ x ∈ Host.rewrites h', x.Upward) ∧ h'.rewrites.map Rewrite.target = ["0.7.0"] ∧
      h'.rewrites.map Rewrite.installed = [some "0.6.0"]) :=
  ⟨_, rewrites_upward rfl rfl
      (Prog.run_evalFor overtaken_served 12 (runUpdate overtakenRequest) overtakenHost),
    by decide, by decide⟩

end Greffer.Cli

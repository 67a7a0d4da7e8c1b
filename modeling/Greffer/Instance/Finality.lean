import Mathlib.Logic.Relation
import Greffer.Instance.Teardown

/-! # Finality of a decommission

An accepted start hands its work to an `up -d` that it does not wait for: the start answers and
drops the lock while its child goes on to create containers, networks and volumes.  The world of
this module is what the daemon has of one instance, together with the children that are still at
work; **between two calls of the decommission the children take any number of steps**, and where the
decommission does not hold the lock, further starts are accepted.

A decommission looks for volumes and for the directory before it answers, and for nothing that a
child brings up afterwards.  `decommission_final` is about the runs in which no child is at work
when the project is taken down (`Undisturbed`); `decommission_outlived` is one in which a child is.
-/
namespace Greffer.Instance
open Effects
open Backup (startsWith)

/-! ## The site -/

/-- What there is of an instance. -/
structure Site where
  /-- The containers of the project. -/
  containers : List String := []
  /-- The networks of the project. -/
  networks : List String := []
  /-- The volumes of the daemon. -/
  volumes : List String := []
  /-- The rendered compose. -/
  file : Option ComposeFile := none
  /-- The directory of the instance is there. -/
  dir : Bool := false
  /-- The `up -d` children that are still at work. -/
  children : Nat := 0
  /-- The decommission holds the lock. -/
  held : Bool := false
  /-- A start was accepted since the decommission took the lock. -/
  started : Bool := false

/-- A volume of the instance, as the decommission tells them. -/
def OwnVolume (id v : String) : Prop := startsWith (strip v) (volumePrefix id) = true

/-- Nothing of the instance is left on the daemon. -/
structure Gone (id : String) (s : Site) : Prop where
  containers : s.containers = []
  networks : s.networks = []
  volumes : ∀ v ∈ s.volumes, ¬ OwnVolume id v

/-- What goes on beside the decommission: a child creates something or exits, or a start that finds
the lock free is accepted, renders its compose and leaves a child behind. -/
inductive Beside : Site → Site → Prop where
  | container {s : Site} (name : String) (works : 0 < s.children) :
      Beside s { s with containers := name :: s.containers }
  | network {s : Site} (name : String) (works : 0 < s.children) :
      Beside s { s with networks := name :: s.networks }
  | volume {s : Site} (name : String) (works : 0 < s.children) :
      Beside s { s with volumes := name :: s.volumes }
  | exits {s : Site} (works : 0 < s.children) : Beside s { s with children := s.children - 1 }
  | start {s : Site} (file : ComposeFile) (staged : List String) (free : s.held = false) :
      Beside s { s with
        file := some file, dir := true, volumes := staged ++ s.volumes
        children := s.children + 1, started := true }

/-- What goes on between two calls. -/
abbrev Meanwhile : Site → Site → Prop := Relation.ReflTransGen Beside

/-- What `docker-compose down -v --remove-orphans` has removed. -/
structure TakenDown (s s' : Site) : Prop where
  containers : s'.containers ⊆ s.containers
  networks : s'.networks ⊆ s.networks
  volumes : s'.volumes ⊆ s.volumes
  same : s' = { s with containers := s'.containers, networks := s'.networks, volumes := s'.volumes }

/-- A `down` that succeeds has found its file, and has removed the containers of the project,
orphans included, and the networks of the file. -/
def Succeeded (s s' : Site) : Prop :=
  ∃ file, s.file = some file ∧ s'.containers = [] ∧ ∀ n ∈ s'.networks, n ∉ file.networks

/-- What a call of the decommission does. -/
def SiteEffect (id : String) (s : Site) (c : ControlCall OpCall)
    (r : Raises (ControlCall.Answer OpCall.Answer) ControlError c) (s' : Site) : Prop :=
  match c, r with
  | .acquire _, .ok true => s.held = false ∧ s' = { s with held := true, started := false }
  | .release _, _ => s' = { s with held := false }
  | .handler (.composeFileExists _), .ok found => found = s.file.isSome ∧ s' = s
  | .handler (.composeDown _), .ok res => TakenDown s s' ∧ (res.returncode = 0 → Succeeded s s')
  | .handler (.composeDown _), .error _ => TakenDown s s'
  -- a listing names every volume that its filter is part of
  | .handler (.volumeLs _), .ok res =>
    (res.returncode = 0 → ∀ v ∈ s.volumes, OwnVolume id v → v ∈ res.stdout) ∧ s' = s
  | .handler (.volumeRm _), _ => s' = { s with volumes := s'.volumes } ∧ s'.volumes ⊆ s.volumes
  | .handler (.rmtree _), _ =>
    s' = { s with file := s'.file, dir := s'.dir } ∧ (s'.file = s.file ∨ s'.file = none) ∧
      (s'.dir = true → s.dir = true)
  | .handler (.dirExists _), .ok found => found = s.dir ∧ s' = s
  | _, _ => s' = s

/-- The others go on, and then the call is served. -/
def siteMachine (id : String) :
    Machine (Raises (ControlCall.Answer OpCall.Answer) ControlError) Site where
  serve s c r s' := ∃ m, Meanwhile s m ∧ SiteEffect id m c r s'

/-- **The condition on a step.**  When the project is taken down, no child is at work, the file
declares the networks that the project has, and the command succeeds; where there is no file to take
it down with, there is nothing to take down. -/
def Undisturbed (s : Site) (c : ControlCall OpCall)
    (r : Raises (ControlCall.Answer OpCall.Answer) ControlError c) (_ : Site) : Prop :=
  match c, r with
  | .handler (.composeDown _), .ok res =>
    s.children = 0 ∧ res.returncode = 0 ∧ ∀ file, s.file = some file → s.networks ⊆ file.networks
  | .handler (.composeFileExists _), .ok false =>
    s.children = 0 ∧ s.containers = [] ∧ s.networks = []
  | _, _ => True

/-! ## What a step leaves -/

section Steps
variable {id : String} {s s' m : Site} {h : OpCall}
  {r : Raises (ControlCall.Answer OpCall.Answer) ControlError (.handler h)}

/-- The machine whose steps meet the condition. -/
abbrev quietMachine (id : String) :
    Machine (Raises (ControlCall.Answer OpCall.Answer) ControlError) Site :=
  (siteMachine id).restrict Undisturbed

/-- Nothing is added, and neither the lock nor the children change. -/
structure Removes (s s' : Site) : Prop where
  containers : s'.containers ⊆ s.containers
  networks : s'.networks ⊆ s.networks
  volumes : s'.volumes ⊆ s.volumes
  children : s'.children = s.children
  held : s'.held = s.held
  started : s'.started = s.started

theorem Removes.refl (s : Site) : Removes s s :=
  ⟨List.Subset.refl _, List.Subset.refl _, List.Subset.refl _, rfl, rfl, rfl⟩

theorem Removes.of_eq (heq : s' = s) : Removes s s' := by
  subst heq
  exact .refl s'

theorem TakenDown.removes (hdown : TakenDown s s') : Removes s s' :=
  ⟨hdown.containers, hdown.networks, hdown.volumes, by rw [hdown.same], by rw [hdown.same],
    by rw [hdown.same]⟩

/-- **A call of the handler only removes.** -/
theorem removes_of_effect (heffect : SiteEffect id s (.handler h) r s') : Removes s s' := by
  cases h
  case composeDown =>
    cases r with
    | ok res => exact heffect.1.removes
    | error e => exact TakenDown.removes heffect
  case volumeRm =>
    obtain ⟨hsame, hvolumes⟩ := heffect
    rw [hsame]
    exact ⟨List.Subset.refl _, List.Subset.refl _, hvolumes, rfl, rfl, rfl⟩
  case rmtree =>
    obtain ⟨hsame, -⟩ := heffect
    rw [hsame]
    exact ⟨List.Subset.refl _, List.Subset.refl _, List.Subset.refl _, rfl, rfl, rfl⟩
  all_goals
    cases r with
    | ok a => first | exact .of_eq heffect.2 | exact .of_eq heffect
    | error e => exact .of_eq heffect

/-- The decommission holds the lock, and no start was accepted since. -/
structure Held (s : Site) : Prop where
  held : s.held = true
  started : s.started = false

/-- The project is taken down, and nobody is there to bring it up. -/
structure Down (s : Site) : Prop extends Held s where
  containers : s.containers = []
  networks : s.networks = []
  children : s.children = 0

theorem Held.beside (hs : Held s) (hstep : Beside s s') : Held s' := by
  cases hstep with
  | start file staged free =>
    rw [hs.held] at free
    cases free
  | _ => exact ⟨hs.held, hs.started⟩

theorem Held.meanwhile (hs : Held s) (hsteps : Meanwhile s s') : Held s' := by
  induction hsteps with
  | refl => exact hs
  | tail _ hstep ih => exact ih.beside hstep

/-- Under the lock and without a child, nothing goes on. -/
theorem Held.alone (hs : Held s) (hchildren : s.children = 0) (hsteps : Meanwhile s s') :
    s' = s := by
  induction hsteps with
  | refl => rfl
  | tail _ hstep ih =>
    subst ih
    cases hstep with
    | start file staged free =>
      rw [hs.held] at free
      cases free
    | container name works => exact absurd works (by omega)
    | network name works => exact absurd works (by omega)
    | volume name works => exact absurd works (by omega)
    | exits works => exact absurd works (by omega)

theorem Held.removes (hs : Held s) (hremoves : Removes s s') : Held s' :=
  ⟨hremoves.held.trans hs.held, hremoves.started.trans hs.started⟩

theorem Down.removes (hs : Down s) (hremoves : Removes s s') : Down s' where
  toHeld := hs.toHeld.removes hremoves
  containers := List.subset_nil.mp (hs.containers ▸ hremoves.containers)
  networks := List.subset_nil.mp (hs.networks ▸ hremoves.networks)
  children := hremoves.children.trans hs.children

theorem Held.handler (hs : Held s) (hserve : (quietMachine id).serve s (.handler h) r s') :
    Held s' := by
  obtain ⟨⟨m, hsteps, heffect⟩, -⟩ := hserve
  exact (hs.meanwhile hsteps).removes (removes_of_effect heffect)

/-- Once the project is down, a call is the only thing that happens. -/
theorem Down.served (hs : Down s) (hserve : (quietMachine id).serve s (.handler h) r s') :
    SiteEffect id s (.handler h) r s' := by
  obtain ⟨⟨m, hsteps, heffect⟩, -⟩ := hserve
  obtain rfl := hs.alone hs.children hsteps
  exact heffect

theorem Down.handler (hs : Down s) (hserve : (quietMachine id).serve s (.handler h) r s') :
    Down s' := hs.removes (removes_of_effect (hs.served hserve))

/-- **A `down` that meets the condition.** -/
theorem down_of_composeDown {res : CompletedProcess} (hs : Held s)
    (hserve : (quietMachine id).serve s (.handler (.composeDown id)) (.ok res) s') : Down s' := by
  have hheld := hs.handler hserve
  obtain ⟨⟨m, hsteps, hdown, hsucceeds⟩, hchildren, hcode, hnetworks⟩ := hserve
  obtain rfl := hs.alone hchildren hsteps
  obtain ⟨file, hfile, hcontainers, hgone⟩ := hsucceeds hcode
  refine ⟨hheld, hcontainers, ?_, hdown.removes.children.trans hchildren⟩
  refine List.eq_nil_iff_forall_not_mem.mpr fun n hn => ?_
  exact hgone n hn (hnetworks file hfile (hdown.networks hn))

/-- Where there is no file, there is nothing to take down. -/
theorem down_of_no_file (hs : Held s)
    (hserve : (quietMachine id).serve s (.handler (.composeFileExists id)) (.ok false) s') :
    Down s' := by
  obtain ⟨⟨m, hsteps, -, hsame⟩, hchildren, hcontainers, hnetworks⟩ := hserve
  obtain rfl := hs.alone hchildren hsteps
  subst hsame
  exact ⟨hs, hcontainers, hnetworks, hchildren⟩

/-- **A listing that is empty** has looked for every volume of the instance. -/
theorem gone_of_listed {res : CompletedProcess} (hs : Down s)
    (hserve : (quietMachine id).serve s (.handler (.volumeLs (volumePrefix id))) (.ok res) s')
    (hcode : res.returncode = 0) (hempty : ownLines id res.stdout = []) : Gone id s' := by
  obtain ⟨hlists, rfl⟩ := hs.served hserve
  refine ⟨hs.containers, hs.networks, fun v hv hown => ?_⟩
  have hline : v ∈ ownLines id res.stdout := mem_ownLines.mpr ⟨hlists hcode v hv hown, hown⟩
  rw [hempty] at hline
  cases hline

end Steps

/-! ## Along the decommission -/

section Along
variable {id : String} {s s' : Site}

/-- Calls of the handler. -/
def OwnCall (c : ControlCall OpCall) : Prop := ∃ h, c = .handler h

theorem held_along {α : Type} {m : Operation α} (hm : m.Uses OwnCall) (hs : Held s) :
    m.Always (quietMachine id) Held (fun _ _ => True) s :=
  (hm.always (fun _ _ _ _ hc hw hserve => by
    obtain ⟨h, rfl⟩ := hc
    exact hw.handler hserve) hs).mono fun _ _ _ _ => trivial

theorem down_along {α : Type} {m : Operation α} (hm : m.Uses OwnCall) (hs : Down s) :
    m.Always (quietMachine id) Down (fun _ _ => True) s :=
  (hm.always (fun _ _ _ _ hc hw hserve => by
    obtain ⟨h, rfl⟩ := hc
    exact hw.handler hserve) hs).mono fun _ _ _ _ => trivial

theorem op_own (h : OpCall) : (op h).Uses OwnCall := Action.uses_perform ⟨h, rfl⟩

theorem refuseIfUpdating_own : refuseIfUpdating.Uses OwnCall := by
  refine (op_own _).bind fun updating => ?_
  split
  · exact Action.uses_raise _
  · exact Action.uses_pure _

theorem listInstanceVolumes_own (id : String) : (listInstanceVolumes id).Uses OwnCall := by
  refine (op_own _).bind fun res => ?_
  split
  · exact Action.uses_raise _
  · exact Action.uses_pure _

theorem removeVolumes_own (names : List String) : (removeVolumes names).Uses OwnCall := by
  induction names with
  | nil => exact Action.uses_pure _
  | cons name rest ih => exact (op_own _).bind fun _ => ih

theorem removeInstanceVolumes_own (id : String) : (removeInstanceVolumes id).Uses OwnCall :=
  (listInstanceVolumes_own id).bind fun names =>
    (removeVolumes_own names).bind fun _ => Action.uses_pure _

/-- **The teardown**: where it returns, the project is down. -/
theorem down_downs (hs : Held s) :
    (down id).Always (quietMachine id) Held (fun r s => ∀ a, r = .ok a → Down s) s := by
  unfold down
  rw [Action.always_bind]
  refine (Action.always_perform _).mpr ⟨hs, fun r s₁ hserve => ?_⟩
  have hs₁ := hs.handler hserve
  refine ⟨hs₁, ?_⟩
  cases r with
  | error e => exact fun a h => by cases h
  | ok found =>
    rw [onOk_ok, Action.always_ite]
    refine ⟨fun _ => ?_, fun hmissing => ⟨hs₁, fun a _ => ?_⟩⟩
    · rw [Action.always_bind]
      refine (Action.always_perform _).mpr ⟨hs₁, fun r s₂ hserve => ?_⟩
      have hs₂ := hs₁.handler hserve
      refine ⟨hs₂, ?_⟩
      cases r with
      | error e => exact fun a h => by cases h
      | ok res => exact ⟨hs₂, fun a _ => down_of_composeDown hs₁ hserve⟩
    · obtain rfl : found = false := by simpa using hmissing
      exact down_of_no_file hs hserve

/-- **The last listing**: where it is empty, nothing is left. -/
theorem listed_gone (hs : Down s) :
    (listInstanceVolumes id).Always (quietMachine id) Down
      (fun r s => ∀ names, r = .ok names → names = [] → Gone id s) s := by
  unfold listInstanceVolumes
  rw [Action.always_bind]
  refine (Action.always_perform _).mpr ⟨hs, fun r s₁ hserve => ?_⟩
  have hs₁ := hs.handler hserve
  refine ⟨hs₁, ?_⟩
  cases r with
  | error e => exact fun names h => by cases h
  | ok res =>
    rw [onOk_ok, Action.always_ite]
    refine ⟨fun _ => ⟨hs₁, fun names h => by cases h⟩, fun hcode => ⟨hs₁, ?_⟩⟩
    rintro names hnames rfl
    exact gone_of_listed hs hserve (not_not.mp hcode) (Except.ok.inj hnames)

/-- Nothing of the instance is left, and nobody is there to bring it up. -/
structure Ended (id : String) (s : Site) : Prop extends Down s where
  gone : Gone id s

/-- **The handler**: where it answers with success, nothing is left. -/
theorem decommissionGreffon_ends (hs : Held s) :
    (decommissionGreffon id).Always (quietMachine id) Held
      (fun r s => ∀ a, r = .ok a → Ended id s) s := by
  unfold decommissionGreffon
  rw [Action.always_bind]
  refine (held_along refuseIfUpdating_own hs).mono fun r s hs _ => ?_
  cases r with
  | error e => exact fun a h => by cases h
  | ok _ =>
    rw [onOk_ok, Action.always_bind]
    refine (down_downs hs).mono fun r s hs hr => ?_
    cases r with
    | error e => exact fun a h => by cases h
    | ok result =>
      have hdown := hr result rfl
      rw [onOk_ok]
      refine Action.Always.imp (I := Down) ?_ (fun _ h => h.toHeld) fun _ _ _ h => h
      rw [Action.always_bind]
      refine (down_along (removeInstanceVolumes_own id) hdown).mono fun r s hs _ => ?_
      cases r with
      | error e => exact fun a h => by cases h
      | ok removed =>
        rw [onOk_ok, Action.always_bind]
        refine (down_along (op_own _) hs).mono fun r s hs _ => ?_
        cases r with
        | error e => exact fun a h => by cases h
        | ok _ =>
          rw [onOk_ok, Action.always_bind]
          refine (listed_gone hs).mono fun r s hs hr => ?_
          cases r with
          | error e => exact fun a h => by cases h
          | ok residual =>
            rw [onOk_ok, Action.always_bind]
            refine (Action.always_perform _).mpr ⟨hs, fun r s₁ hserve => ?_⟩
            have hs₁ := hs.handler hserve
            have heffect := hs.served hserve
            refine ⟨hs₁, ?_⟩
            cases r with
            | error e => exact fun a h => by cases h
            | ok remains =>
              obtain ⟨-, rfl⟩ := heffect
              rw [onOk_ok, Action.always_ite]
              refine ⟨fun _ => ⟨hs, fun a h => by cases h⟩, fun hclean => ⟨hs, fun a _ => ?_⟩⟩
              have hempty : residual = [] := by
                simp only [Bool.or_eq_true, Bool.not_eq_true', not_or, Bool.not_eq_false] at hclean
                exact List.isEmpty_iff.mp hclean.1
              exact ⟨hs, hr residual rfl hempty⟩

/-- No child is at work, and nothing is left. -/
structure Final (id : String) (s : Site) : Prop where
  children : s.children = 0
  gone : Gone id s

theorem release_ends {r : Except ControlError Unit} (hs : r = .ok () → Ended id s) :
    (do Action.perform (ControlCall.release id); Action.ofExcept r : Operation Unit).Always
      (quietMachine id) (fun _ => True) (fun r s => r = .ok () → Final id s) s := by
  rw [Action.always_bind]
  refine (Action.always_perform _).mpr ⟨trivial, fun released s' hserve => ⟨trivial, ?_⟩⟩
  obtain ⟨⟨m, hsteps, heffect⟩, -⟩ := hserve
  cases released with
  | error e => exact fun h => by cases h
  | ok _ =>
    rw [onOk_ok, Action.always_ofExcept]
    refine ⟨trivial, fun hr => ?_⟩
    have hended := hs hr
    obtain rfl := hended.toHeld.alone hended.children hsteps
    rw [show s' = { m with held := false } from heffect]
    exact ⟨hended.children, ⟨hended.gone.containers, hended.gone.networks, hended.gone.volumes⟩⟩

/-- **The endpoint**: where it answers with success, nothing is left, nor a child to bring it
up. -/
theorem decommission_ends :
    (decommission id).Always (quietMachine id) (fun _ => True)
      (fun r s => r = .ok () → Final id s) s := by
  unfold decommission serializeInstanceOp
  rw [Action.always_bind]
  refine (Action.always_perform _).mpr ⟨trivial, fun r s₁ hserve => ⟨trivial, ?_⟩⟩
  obtain ⟨⟨m, -, heffect⟩, -⟩ := hserve
  cases r with
  | error e => exact fun h => by cases h
  | ok acquired =>
    cases acquired with
    | false => exact ⟨trivial, fun h => by cases h⟩
    | true =>
      have hs₁ : Held s₁ := by
        rw [show s₁ = { m with held := true, started := false } from heffect.2]
        exact ⟨rfl, rfl⟩
      rw [onOk_ok, if_pos rfl, Action.always_bind]
      refine (Action.always_perform _).mpr ⟨trivial, fun r s₂ hserve => ⟨trivial, ?_⟩⟩
      obtain ⟨⟨m, hsteps, heffect⟩, -⟩ := hserve
      cases r with
      | error e => exact fun h => by cases h
      | ok _ =>
        obtain rfl : s₂ = m := heffect
        have hs₂ := hs₁.meanwhile hsteps
        rw [onOk_ok, Action.always_bind, Action.always_outcome, Action.always_bind]
        refine (decommissionGreffon_ends hs₂).imp (fun _ _ => trivial) fun r s₃ _ hr => ?_
        cases r with
        | error e => exact release_ends fun h => by cases h
        | ok removed => exact ⟨trivial, release_ends fun _ => hr removed rfl⟩

end Along

/-! ## After the answer -/

section After
variable {id : String} {s s' s'' : Site}

/-- Nothing comes back but by a start. -/
theorem final_beside (hs : s.started = true ∨ Final id s) (hstep : Beside s s') :
    s'.started = true ∨ Final id s' := by
  cases hstep with
  | start file staged free => exact .inl rfl
  | container name works => exact hs.imp_right fun hfinal => absurd hfinal.children (by omega)
  | network name works => exact hs.imp_right fun hfinal => absurd hfinal.children (by omega)
  | volume name works => exact hs.imp_right fun hfinal => absurd hfinal.children (by omega)
  | exits works => exact hs.imp_right fun hfinal => absurd hfinal.children (by omega)

theorem final_meanwhile (hs : s.started = true ∨ Final id s) (hsteps : Meanwhile s s') :
    s'.started = true ∨ Final id s' := by
  induction hsteps with
  | refl => exact hs
  | tail _ hstep ih => exact final_beside ih hstep

/-- **Decommission is final** in the runs that meet the condition: once it has answered with
success, no container, network or volume of the instance exists in any later state, unless a start
was accepted. -/
theorem decommission_final
    (hrun : Run (quietMachine id) s (decommission id) s' (.pure (.ok ())))
    (hlater : Meanwhile s' s'') (hnostart : s''.started = false) : Gone id s'' := by
  have hfinal : Final id s' := decommission_ends.at_return hrun rfl
  obtain hstarted | hfinal := final_meanwhile (.inr hfinal) hlater
  · rw [hnostart] at hstarted
    cases hstarted
  · exact hfinal.gone

end After

/-! ## One instance -/

/-- The compose of the instance. -/
def siteFile : ComposeFile := { networks := ["a_default"], volumes := ["a_data"] }

/-- The directory, which is busy while the project is up. -/
def dropDir (s : Site) : Site :=
  if s.containers = [] ∧ s.networks = [] then { s with file := none, dir := false } else s

/-- A `docker-compose down` that finds its file succeeds. -/
def takeDown (s : Site) : Except ControlError CompletedProcess × Site :=
  match s.file with
  | none => (.error (.raised (.exception "no compose file")), s)
  | some file => (.ok { returncode := 0 }, { s with
      containers := []
      networks := s.networks.filter (· ∉ file.networks)
      volumes := s.volumes.filter (· ∉ file.volumes) })

/-- A daemon that obeys, with nothing going on between the calls. -/
def siteAnswer (s : Site) : (c : ControlCall OpCall) →
    Raises (ControlCall.Answer OpCall.Answer) ControlError c × Site
  | .acquire _ =>
    match s.held with
    | true => (.ok false, s)
    | false => (.ok true, { s with held := true, started := false })
  | .clearHandoff _ => (.ok (), s)
  | .release _ => (.ok (), { s with held := false })
  | .handler .updateInProgress => (.ok false, s)
  | .handler (.volumeLs _) => (.ok { returncode := 0, stdout := s.volumes }, s)
  | .handler (.volumeRm name) =>
    (.ok { returncode := 0 }, { s with volumes := s.volumes.filter (· ≠ name) })
  | .handler (.volumeCreate _) => (.ok (), s)
  | .handler (.composeFileExists _) => (.ok s.file.isSome, s)
  | .handler (.writeCompose _ _) => (.ok (), s)
  | .handler (.removeCompose _) => (.ok (), s)
  | .handler (.composeDown _) => takeDown s
  | .handler (.composeUp _) => (.ok (), s)
  | .handler (.composeStop _) => (.ok (), s)
  | .handler (.trackComposeChild _) => (.ok (), s)
  | .handler (.rmtree _) => (.ok (), dropDir s)
  | .handler (.dirExists _) => (.ok s.dir, s)

theorem dropDir_cases (s : Site) :
    (s.containers = [] ∧ s.networks = []) ∧ dropDir s = { s with file := none, dir := false } ∨
      dropDir s = s := by
  unfold dropDir
  split
  · exact .inl ⟨‹_›, rfl⟩
  · exact .inr rfl

theorem siteAnswer_effect (id : String) (s : Site) (c : ControlCall OpCall) :
    SiteEffect id s c (siteAnswer s c).1 (siteAnswer s c).2 := by
  obtain ⟨containers, networks, volumes, file, dir, children, held, started⟩ := s
  cases c with
  | acquire i =>
    cases held with
    | true => rfl
    | false => exact ⟨rfl, rfl⟩
  | clearHandoff i => rfl
  | release i => rfl
  | handler h =>
    cases h
    case volumeLs nameFilter => exact ⟨fun _ v hv _ => hv, rfl⟩
    case volumeRm name => exact ⟨rfl, List.filter_subset_self _⟩
    case composeFileExists i => exact ⟨rfl, rfl⟩
    case composeDown i =>
      cases file with
      | none => exact ⟨List.Subset.refl _, List.Subset.refl _, List.Subset.refl _, rfl⟩
      | some file =>
        refine ⟨⟨List.nil_subset _, List.filter_subset_self _, List.filter_subset_self _, rfl⟩,
          fun _ => ⟨file, rfl, rfl, fun n hn => ?_⟩⟩
        simpa using List.of_mem_filter hn
    case rmtree i =>
      obtain ⟨-, hdrop⟩ | hdrop := dropDir_cases
        ⟨containers, networks, volumes, file, dir, children, held, started⟩
      · unfold siteAnswer
        rw [hdrop]
        exact ⟨rfl, .inr rfl, fun h => by cases h⟩
      · unfold siteAnswer
        rw [hdrop]
        exact ⟨rfl, .inl rfl, fun h => h⟩
    case dirExists i => exact ⟨rfl, rfl⟩
    all_goals rfl

theorem siteAnswer_serves (id : String) (s : Site) (c : ControlCall OpCall) :
    (siteMachine id).serve s c (siteAnswer s c).1 (siteAnswer s c).2 :=
  ⟨s, .refl, siteAnswer_effect id s c⟩

/-- No child is at work, and the file tells what there is of the project. -/
structure Quiet (s : Site) : Prop where
  children : s.children = 0
  declared : ∀ file, s.file = some file → s.networks ⊆ file.networks
  absent : s.file = none → s.containers = [] ∧ s.networks = []

theorem siteAnswer_quiet {s : Site} (hs : Quiet s) (c : ControlCall OpCall) :
    Undisturbed s c (siteAnswer s c).1 (siteAnswer s c).2 ∧ Quiet (siteAnswer s c).2 := by
  have hquiet := hs
  obtain ⟨containers, networks, volumes, file, dir, children, held, started⟩ := s
  obtain ⟨hchildren, hdeclared, habsent⟩ := hs
  cases c with
  | acquire i =>
    cases held with
    | true => exact ⟨trivial, hquiet⟩
    | false => exact ⟨trivial, hchildren, hdeclared, habsent⟩
  | clearHandoff i => exact ⟨trivial, hquiet⟩
  | release i => exact ⟨trivial, hchildren, hdeclared, habsent⟩
  | handler h =>
    cases h
    case volumeRm name => exact ⟨trivial, hchildren, hdeclared, habsent⟩
    case composeFileExists i =>
      cases file with
      | none => exact ⟨⟨hchildren, habsent rfl⟩, hquiet⟩
      | some file => exact ⟨trivial, hquiet⟩
    case composeDown i =>
      cases file with
      | none => exact ⟨trivial, hquiet⟩
      | some file =>
        exact ⟨⟨hchildren, rfl, hdeclared⟩, hchildren,
          fun f hf n hn => hdeclared f hf (List.mem_of_mem_filter hn), fun h => by cases h⟩
    case rmtree i =>
      obtain ⟨hgone, hdrop⟩ | hdrop := dropDir_cases
        ⟨containers, networks, volumes, file, dir, children, held, started⟩
      · unfold siteAnswer
        rw [hdrop]
        exact ⟨trivial, hchildren, fun f hf => (by cases hf), fun _ => hgone⟩
      · unfold siteAnswer
        rw [hdrop]
        exact ⟨trivial, hquiet⟩
    all_goals exact ⟨trivial, hquiet⟩

/-- The instance, once it was started. -/
def startedSite : Site :=
  { containers := ["a-web-1"], networks := ["a_default"], volumes := ["a_data"]
    file := some siteFile, dir := true }

/-- The instance, while the child of its start is pulling. -/
def pullingSite : Site :=
  { file := some siteFile, dir := true, children := 1, started := true }

/-- **A child outlives the decommission.**  It creates its container when the decommission has
answered. -/
theorem decommission_outlived : (∃ s s' s'' : Site, Meanwhile {} s ∧
    Run (siteMachine "a") s (decommission "a") s' (.pure (.ok ())) ∧ Meanwhile s' s'' ∧
      s''.started = false ∧ ¬ Gone "a" s'') := by
  have hstart : Meanwhile {} pullingSite := .single (.start siteFile [] rfl)
  have hrun := Prog.run_evalFor (siteAnswer_serves "a") 11 (decommission "a") pullingSite
  refine ⟨_, _, _, hstart, hrun, .single (.container "a-web-1" Nat.one_pos), rfl, fun hgone => ?_⟩
  cases hgone.containers

/-- A started instance goes, and stays gone. -/
theorem decommission_final_started : (∃ s' s'' : Site,
    Run (quietMachine "a") startedSite (decommission "a") s' (.pure (.ok ())) ∧
      Meanwhile s' s'' ∧ s''.started = false ∧ Gone "a" s'') := by
  have hserve : ∀ (s : Site) (c : ControlCall OpCall), Quiet s →
      (quietMachine "a").serve s c (siteAnswer s c).1 (siteAnswer s c).2 ∧
        Quiet (siteAnswer s c).2 := fun s c hs =>
    ⟨⟨siteAnswer_serves "a" s c, (siteAnswer_quiet hs c).1⟩, (siteAnswer_quiet hs c).2⟩
  have hquiet : Quiet startedSite :=
    ⟨rfl, fun file hfile => by cases hfile; exact List.Subset.refl _, fun h => by cases h⟩
  have hrun := Prog.run_evalFor_of hserve 11 (decommission "a") hquiet
  exact ⟨_, _, hrun, .refl, rfl, decommission_final hrun .refl rfl⟩

end Greffer.Instance

import Mathlib.Data.List.Pairwise
import Greffer.Updater.Engine

/-! # All or nothing

An update that fails is to leave no container recreated and no `:latest` tag moved
without a rollback.  The record of a run says which containers' recreates began,
which tags a retag moved, and what was then handed to the rollback and restored.

The rollback works off `done`, which a container enters **after** its recreate has
returned, so the invariant (`Record.Stopped`) is that the record and `done` agree
up to what the failing step left: a recreate that raised, or a tag moved by a retag
that did not report it.  A rollback that returns has gone through all of `done`
(`rollback_complete`), and then the record is all or nothing exactly when that
remainder is empty and the captured images are the right ones.
-/
namespace Greffer.Updater
open Effects

/-- A recreate that has begun: whether it returned, and the image id captured before. -/
structure Begun where
  container : StackContainer
  oldImageId : Option String
  returned : Bool

/-- What the steps of a run did to containers and tags. -/
structure Record where
  /-- What each `inspect_container` returned. -/
  inspections : List (String × Inspected) := []
  /-- The repositories whose `:latest` a retag moved, and whether it reported success. -/
  moved : List (String × Bool) := []
  begun : List Begun := []
  /-- What was handed to `rollback_one`. -/
  handed : List (StackContainer × Inspected) := []
  /-- What was handed to `restore_latest`. -/
  restores : List (String × String) := []

/-- Whether a step returned, and whether it returned `True`. -/
def returned {α : Type} : Except UpdateError α → Bool
  | .ok _ => true
  | .error _ => false

def reported : Except UpdateError Bool → Bool
  | .ok b => b
  | .error _ => false

/-- The record after a step; `before` and `after` say what `:latest` of a repository
points at around it. -/
def Record.note (rec : Record) (before after : String → Option String) :
    (c : EngineCall) → Raises EngineCall.Answer UpdateError c → Record
  | .inspectContainer i, .ok (some inspected) =>
    { rec with inspections := rec.inspections ++ [(i, inspected)] }
  | .retagLatest repo _, r =>
    if after repo = before repo then rec
    else { rec with moved := rec.moved ++ [(repo, reported r)] }
  | .recreateOne c _ old _, r => { rec with begun := rec.begun ++ [⟨c, old, returned r⟩] }
  | .rollbackOne c inspected _, _ => { rec with handed := rec.handed ++ [(c, inspected)] }
  | .restoreLatest repo i, _ => { rec with restores := rec.restores ++ [(repo, i)] }
  | _, _ => rec

section
variable {V : Type}

/-- Any machine, with the record of its steps; `latest` reads off a world what
`:latest` of each repository points at. -/
abbrev watched (M : Machine (Raises EngineCall.Answer UpdateError) V)
    (latest : V → String → Option String) :
    Machine (Raises EngineCall.Answer UpdateError) (V × Record) :=
  M.recording fun rec v c r v' => rec.note (latest v) (latest v') c r

end

namespace Record

/-- **All or nothing**: every container whose recreate had begun was handed to the
rollback with its prior inspect, and for every `:latest` that was moved a restore to
what it pointed at before the run was attempted. -/
def AllOrNothing (prior : String → Option String) (rec : Record) : Prop :=
  (∀ b ∈ rec.begun, ∃ inspected, (b.container.containerId, inspected) ∈ rec.inspections ∧
    (b.container, inspected) ∈ rec.handed) ∧
  ∀ e ∈ rec.moved, ∀ image, prior e.1 = some image → (e.1, image) ∈ rec.restores

/-- **What the steps had to do**: no recreate raised and each had a captured image id;
every retag that moved a tag reported it, and the image captured for that
repository's container is the one the tag pointed at. -/
def Recoverable (prior : String → Option String) (rec : Record) : Prop :=
  (∀ b ∈ rec.begun, b.returned = true ∧ (nonEmpty b.oldImageId).isSome) ∧
  ∀ e ∈ rec.moved, ∀ image, prior e.1 = some image → e.2 = true ∧
    ∃ b ∈ rec.begun, b.container.repo = e.1 ∧ b.oldImageId = some image

end Record

/-- The entry of a container whose recreate returned. -/
def Snap.begun (s : Snap) : Begun := ⟨s.container, s.oldImageId, true⟩

/-- Different services, of two snapshots. -/
def Snap.Differs (s s' : Snap) : Prop := s.container.service ≠ s'.container.service

instance : Std.Symm Snap.Differs := ⟨fun _ _ h heq => h heq.symm⟩

theorem Snap.Differs.container {s s' : Snap} (h : s.Differs s') : s.container ≠ s'.container :=
  fun heq => h (congrArg StackContainer.service heq)

namespace Record

/-- **The record and `done` agree**, up to a recreate that raised and a tag moved by a
retag that did not report it; the rollback has touched nothing outside `done`. -/
structure Stopped (done : List Snap) (rec : Record) : Prop where
  begun : ∃ tail, rec.begun = done.map Snap.begun ++ tail ∧
    ∀ b ∈ tail, b.returned = false ∧ ∀ s ∈ done, s.container ≠ b.container
  moved : ∀ e ∈ rec.moved,
    (e.2 = true ∧ ∃ s ∈ done, s.container.repo = e.1) ∨ ∀ s ∈ done, s.container.repo ≠ e.1
  inspected : ∀ s ∈ done, (s.container.containerId, s.inspected) ∈ rec.inspections
  handed : ∀ h ∈ rec.handed, ∃ s ∈ done, s.container = h.1 ∧ s.inspected = h.2 ∧
    (nonEmpty s.oldImageId).isSome
  restores : ∀ e ∈ rec.restores, ∃ s ∈ done, s.container.repo = e.1 ∧
    nonEmpty s.oldImageId = some e.2
  distinct : done.Pairwise Snap.Differs

/-- The rollback has gone through all of `done`. -/
def Complete (done : List Snap) (rec : Record) : Prop :=
  ∀ s ∈ done, ∀ old, nonEmpty s.oldImageId = some old →
    (s.container, s.inspected) ∈ rec.handed ∧ (s.container.repo, old) ∈ rec.restores

theorem nonEmpty_of_isSome {v : Option String} {text : String} (h : (nonEmpty v).isSome)
    (hv : v = some text) : nonEmpty v = some text := by
  obtain ⟨t, ht⟩ := Option.isSome_iff_exists.mp h
  rw [ht, ← hv, nonEmpty_eq ht]

variable {prior : String → Option String} {done : List Snap} {rec : Record}

/-- Two snapshots of one container, of a list without repetition, are one. -/
theorem eq_of_container (hdone : done.Pairwise Snap.Differs) {s s' : Snap} (hs : s ∈ done)
    (hs' : s' ∈ done) (h : s.container = s'.container) : s = s' := by
  by_contra hne
  exact (hdone.forall hs hs' hne).container h

/-- **What is left undone is exactly what the condition forbids.** -/
theorem allOrNothing_iff (h : rec.Stopped done) (hc : rec.Complete done) :
    rec.AllOrNothing prior ↔ rec.Recoverable prior := by
  obtain ⟨tail, hbegun, htail⟩ := h.begun
  have hin : ∀ s ∈ done, s.begun ∈ rec.begun := by
    intro s hs
    rw [hbegun]
    exact List.mem_append_left _ (List.mem_map_of_mem hs)
  constructor
  · rintro ⟨hrolled, hrestored⟩
    refine ⟨fun b hb => ?_, fun e he image hprior => ?_⟩
    · obtain ⟨inspected, -, hhanded⟩ := hrolled b hb
      obtain ⟨s, hs, hcont, -, hold⟩ := h.handed _ hhanded
      rw [hbegun] at hb
      rcases List.mem_append.mp hb with hb | hb
      · obtain ⟨s', hs', rfl⟩ := List.mem_map.mp hb
        have hsame : s = s' := eq_of_container h.distinct hs hs' hcont
        subst hsame
        exact ⟨rfl, hold⟩
      · exact absurd hcont ((htail b hb).2 s hs)
    · obtain ⟨s, hs, hrepo, hold⟩ := h.restores _ (hrestored e he image hprior)
      rcases h.moved e he with ⟨hok, -⟩ | hnone
      · exact ⟨hok, s.begun, hin s hs, hrepo, nonEmpty_eq hold⟩
      · exact absurd hrepo (hnone s hs)
  · rintro ⟨hreturned, hcaptured⟩
    have hdone : ∀ b ∈ rec.begun, ∃ s ∈ done, s.begun = b := by
      intro b hb
      have hb' := hb
      rw [hbegun] at hb'
      rcases List.mem_append.mp hb' with hmap | htl
      · exact List.mem_map.mp hmap
      · have hfalse := (htail b htl).1
        rw [(hreturned b hb).1] at hfalse
        cases hfalse
    refine ⟨fun b hb => ?_, fun e he image hprior => ?_⟩
    · obtain ⟨s, hs, rfl⟩ := hdone b hb
      obtain ⟨old, hold⟩ := Option.isSome_iff_exists.mp (hreturned _ hb).2
      exact ⟨s.inspected, h.inspected s hs, (hc s hs old hold).1⟩
    · obtain ⟨-, b, hb, hrepo, hold⟩ := hcaptured e he image hprior
      obtain ⟨s, hs, rfl⟩ := hdone b hb
      have hsome := nonEmpty_of_isSome (hreturned _ hb).2 hold
      rw [← show s.container.repo = e.1 from hrepo]
      exact (hc s hs image hsome).2

end Record

/-! ## The steps that leave the record alone -/

/-- A step that no entry of the record is about. -/
def EngineCall.Quiet (c : EngineCall) : Prop :=
  ∀ (rec : Record) before after r, rec.note before after c r = rec

section Runs
variable {V : Type} {M : Machine (Raises EngineCall.Answer UpdateError) V}
  {latest : V → String → Option String} {P : Record → Prop} {w : V × Record}

theorem quiet_always {α : Type} {m : Engine α} (hm : m.Uses EngineCall.Quiet) (h : P w.2) :
    m.Always (watched M latest) (fun _ => True) (fun _ w => P w.2) w := by
  refine (hm.always (I := fun w => P w.2) ?_ h).imp (fun _ _ => trivial) fun _ _ _ h => h
  rintro w c r w' hc hw ⟨-, hs⟩
  rw [show w'.2 = w.2 from hs.trans (hc _ _ _ _)]
  exact hw

theorem quiet_step {c : EngineCall} (hc : c.Quiet) : (step c).Uses EngineCall.Quiet :=
  Action.uses_perform hc

variable (win : Window)

/-! ## The forward path -/

namespace Record

/-- Before a container of `rest` is touched: those of `done` have been recreated, and
nothing else has happened. -/
structure Ahead (done rest : List Snap) (rec : Record) : Prop where
  begun : rec.begun = done.map Snap.begun
  moved : ∀ e ∈ rec.moved, e.2 = true ∧ ∃ s ∈ done, s.container.repo = e.1
  inspected : ∀ s ∈ done ++ rest, (s.container.containerId, s.inspected) ∈ rec.inspections
  handed : rec.handed = []
  restores : rec.restores = []
  distinct : (done ++ rest).Pairwise Snap.Differs

variable {done rest : List Snap} {s : Snap} {rec : Record}

theorem Ahead.stopped (h : rec.Ahead done rest) : rec.Stopped done where
  begun := ⟨[], by rw [h.begun, List.append_nil], fun _ hb => absurd hb List.not_mem_nil⟩
  moved e he := .inl (h.moved e he)
  inspected x hx := h.inspected x (List.mem_append_left _ hx)
  handed x hx := by rw [h.handed] at hx; exact absurd hx List.not_mem_nil
  restores e he := by rw [h.restores] at he; exact absurd he List.not_mem_nil
  distinct := (List.pairwise_append.mp h.distinct).1

/-- A retag may have moved the tag of the next container's repository. -/
structure Retagged (done : List Snap) (s : Snap) (rest : List Snap) (ok : Bool) (rec : Record) :
    Prop where
  begun : rec.begun = done.map Snap.begun
  moved : ∀ e ∈ rec.moved, (e.2 = true ∧ ∃ s' ∈ done, s'.container.repo = e.1) ∨
    e = (s.container.repo, ok)
  inspected : ∀ s' ∈ done ++ s :: rest,
    (s'.container.containerId, s'.inspected) ∈ rec.inspections
  handed : rec.handed = []
  restores : rec.restores = []
  distinct : (done ++ s :: rest).Pairwise Snap.Differs

theorem note_retag (before after : String → Option String) (repo digest : String)
    (r : Raises EngineCall.Answer UpdateError (.retagLatest repo digest)) :
    rec.note before after (.retagLatest repo digest) r =
      if after repo = before repo then rec
      else { rec with moved := rec.moved ++ [(repo, reported r)] } := rfl

theorem Ahead.retagged (h : rec.Ahead done (s :: rest)) (before after : String → Option String)
    (digest : String) (r : Raises EngineCall.Answer UpdateError (.retagLatest s.container.repo digest)) :
    (rec.note before after (.retagLatest s.container.repo digest) r).Retagged done s rest
      (reported r) := by
  have hkeep : rec.Retagged done s rest (reported r) :=
    ⟨h.begun, fun e he => .inl (h.moved e he), h.inspected, h.handed, h.restores, h.distinct⟩
  rw [note_retag]
  split
  · exact hkeep
  · refine ⟨h.begun, fun e he => ?_, h.inspected, h.handed, h.restores, h.distinct⟩
    rcases List.mem_append.mp he with he | he
    · exact .inl (h.moved e he)
    · exact .inr (List.mem_singleton.mp he)

variable {ok : Bool}

/-- The repository of the next container is not that of one done. -/
theorem Retagged.repo_ne (h : rec.Retagged done s rest ok) {s' : Snap} (hs' : s' ∈ done) :
    s'.container.repo ≠ s.container.repo :=
  StackContainer.repo_ne ((List.pairwise_append.mp h.distinct).2.2 s' hs' s List.mem_cons_self)

theorem Retagged.moved_or (h : rec.Retagged done s rest ok) (e : String × Bool)
    (he : e ∈ rec.moved) : (e.2 = true ∧ ∃ s' ∈ done, s'.container.repo = e.1) ∨
      ∀ s' ∈ done, s'.container.repo ≠ e.1 := by
  rcases h.moved e he with hd | rfl
  · exact .inl hd
  · exact .inr fun s' hs' => h.repo_ne hs'

theorem Retagged.stopped (h : rec.Retagged done s rest ok) : rec.Stopped done where
  begun := ⟨[], by rw [h.begun, List.append_nil], fun _ hb => absurd hb List.not_mem_nil⟩
  moved := h.moved_or
  inspected x hx := h.inspected x (List.mem_append_left _ hx)
  handed x hx := by rw [h.handed] at hx; exact absurd hx List.not_mem_nil
  restores e he := by rw [h.restores] at he; exact absurd he List.not_mem_nil
  distinct := (List.pairwise_append.mp h.distinct).1

theorem Retagged.raised (h : rec.Retagged done s rest ok) :
    ({ rec with begun := rec.begun ++ [⟨s.container, s.oldImageId, false⟩] } : Record).Stopped
      done where
  begun := by
    refine ⟨_, by rw [h.begun], fun b hb => ?_⟩
    obtain rfl := List.mem_singleton.mp hb
    exact ⟨rfl, fun s' hs' heq => h.repo_ne hs' (congrArg StackContainer.repo heq)⟩
  moved := h.moved_or
  inspected x hx := h.inspected x (List.mem_append_left _ hx)
  handed x hx := by rw [h.handed] at hx; exact absurd hx List.not_mem_nil
  restores e he := by rw [h.restores] at he; exact absurd he List.not_mem_nil
  distinct := (List.pairwise_append.mp h.distinct).1

theorem Retagged.recreated (h : rec.Retagged done s rest true) :
    ({ rec with begun := rec.begun ++ [s.begun] } : Record).Ahead (done ++ [s]) rest where
  begun := by rw [h.begun, List.map_append]; rfl
  moved e he := by
    rcases h.moved e he with ⟨hok, s', hs', hrepo⟩ | rfl
    · exact ⟨hok, s', List.mem_append_left _ hs', hrepo⟩
    · exact ⟨rfl, s, List.mem_append_right _ List.mem_cons_self, rfl⟩
  inspected x hx := h.inspected x (by simpa using hx)
  handed := h.handed
  restores := h.restores
  distinct := by simpa using h.distinct

end Record

/-- However the forward loop ends, the record agrees with `done`. -/
theorem recreateAll_stopped (rest done : List Snap) (h : w.2.Ahead done rest) :
    (win.recreateAll rest).Always (watched M latest) (fun _ => True)
      (fun _ done' w' => w'.2.Stopped done') done w := by
  induction rest generalizing done w with
  | nil => exact ⟨trivial, h.stopped⟩
  | cons s rest ih =>
    unfold Window.recreateAll
    rw [Routine.always_bind, Routine.always_monadLift]
    refine (quiet_always (quiet_step fun _ _ _ _ => rfl) h).mono ?_
    rintro (e | _) w₁ - h₁
    · exact h₁.stopped
    rw [Routine.onOk_ok, Routine.always_bind, Routine.always_monadLift]
    refine (quiet_always (win.digestOf_uses _) h₁).mono ?_
    rintro (e | digest) w₂ - h₂
    · exact h₂.stopped
    rw [Routine.onOk_ok, Routine.always_bind, Routine.always_monadLift]
    refine ⟨trivial, fun r w₃ hs => ⟨trivial, ?_⟩⟩
    have h₃ : w₃.2.Retagged done s rest (reported r) := by
      rw [hs.2]
      exact h₂.retagged _ _ digest r
    cases r with
    | error e => exact h₃.stopped
    | ok ok =>
      dsimp only
      rw [Routine.onOk_ok, Routine.always_ite]
      refine ⟨fun _ => ⟨trivial, h₃.stopped⟩, fun hok => ?_⟩
      obtain rfl : ok = true := by simpa using hok
      rw [Routine.always_bind, Routine.always_monadLift]
      refine ⟨trivial, fun r w₄ hs => ⟨trivial, ?_⟩⟩
      cases r with
      | error e =>
        show w₄.2.Stopped done
        rw [hs.2]
        exact h₃.raised
      | ok recreated =>
        have h₄ : w₄.2.Ahead (done ++ [s]) rest := by
          rw [hs.2]
          exact h₃.recreated
        rw [Routine.onOk_ok, Routine.always_bind, Routine.always_assign]
        refine ⟨trivial, ?_⟩
        rw [Routine.onOk_ok, Routine.always_ite]
        exact ⟨fun _ => ⟨trivial, h₄.stopped⟩, fun _ => ih _ h₄⟩

/-! ## The rollback -/

namespace Record

/-- A container has been handed to the rollback, and its tag restored. -/
def Handled (s : Snap) (rec : Record) : Prop :=
  ∀ old, nonEmpty s.oldImageId = some old →
    (s.container, s.inspected) ∈ rec.handed ∧ (s.container.repo, old) ∈ rec.restores

variable {done : List Snap} {s : Snap} {rec rec' : Record}

theorem Handled.mono (h : rec.Handled s) (hhanded : rec.handed ⊆ rec'.handed)
    (hrestores : rec.restores ⊆ rec'.restores) : rec'.Handled s :=
  fun old hold => ⟨hhanded (h old hold).1, hrestores (h old hold).2⟩

theorem Stopped.hand (h : rec.Stopped done) (hs : s ∈ done) (hold : (nonEmpty s.oldImageId).isSome) :
    ({ rec with handed := rec.handed ++ [(s.container, s.inspected)] } : Record).Stopped done where
  begun := h.begun
  moved := h.moved
  inspected := h.inspected
  handed x hx := by
    rcases List.mem_append.mp hx with hx | hx
    · exact h.handed x hx
    · obtain rfl := List.mem_singleton.mp hx
      exact ⟨s, hs, rfl, rfl, hold⟩
  restores := h.restores
  distinct := h.distinct

theorem Stopped.restore {old : String} (h : rec.Stopped done) (hs : s ∈ done)
    (hold : nonEmpty s.oldImageId = some old) :
    ({ rec with restores := rec.restores ++ [(s.container.repo, old)] } : Record).Stopped done where
  begun := h.begun
  moved := h.moved
  inspected := h.inspected
  handed := h.handed
  restores e he := by
    rcases List.mem_append.mp he with he | he
    · exact h.restores e he
    · obtain rfl := List.mem_singleton.mp he
      exact ⟨s, hs, rfl, hold⟩
  distinct := h.distinct

end Record

/-- A rollback that returns has gone through all of `done`; one that raises has touched
nothing else. -/
theorem rollBackAll_complete {done : List Snap} (allOk : Bool) (rest : List Snap)
    (h : w.2.Stopped done) (hrest : ∀ s ∈ rest, s ∈ done)
    (hdone : ∀ s ∈ done, s ∈ rest ∨ w.2.Handled s) :
    (Window.rollBackAll allOk rest).Always (watched M latest) (fun _ => True)
      (fun r w' => w'.2.Stopped done ∧ (returned r = true → w'.2.Complete done)) w := by
  induction rest generalizing allOk w with
  | nil =>
    refine ⟨trivial, h, fun _ s hs old hold => ?_⟩
    rcases hdone s hs with hx | hx
    · exact absurd hx List.not_mem_nil
    · exact hx old hold
  | cons s rest ih =>
    have hs : s ∈ done := hrest s List.mem_cons_self
    have hrest' : ∀ s ∈ rest, s ∈ done := fun s hs => hrest s (List.mem_cons_of_mem _ hs)
    unfold Window.rollBackAll
    split
    -- nothing to go back to: the container is passed over
    · rename_i hnone
      refine ih false h hrest' fun s' hs' => ?_
      rcases hdone s' hs' with hx | hx
      · rcases List.mem_cons.mp hx with rfl | hx
        · exact .inr fun old hold => by cases hnone.symm.trans hold
        · exact .inl hx
      · exact .inr hx
    · rename_i old hold
      rw [Action.always_bind]
      refine ⟨trivial, fun r w₁ hserved => ⟨trivial, ?_⟩⟩
      have h₁ : w₁.2.Stopped done := by
        rw [hserved.2]
        exact h.hand hs (Option.isSome_iff_exists.mpr ⟨old, hold⟩)
      cases r with
      | error e => exact ⟨h₁, fun hx => by cases hx⟩
      | ok ok =>
        rw [onOk_ok, Action.always_bind]
        refine ⟨trivial, fun r w₂ hserved' => ⟨trivial, ?_⟩⟩
        have h₂ : w₂.2.Stopped done := by
          rw [hserved'.2]
          exact h₁.restore hs hold
        cases r with
        | error e => exact ⟨h₂, fun hx => by cases hx⟩
        | ok restored =>
          refine ih _ h₂ hrest' fun s' hs' => ?_
          -- the container is handed back, and the tag restored, in this round
          have hhanded : w₂.2.handed = w.2.handed ++ [(s.container, s.inspected)] := by
            rw [hserved'.2, hserved.2]
            rfl
          have hrestores : w₂.2.restores = w.2.restores ++ [(s.container.repo, old)] := by
            rw [hserved'.2, hserved.2]
            rfl
          rcases hdone s' hs' with hx | hx
          · rcases List.mem_cons.mp hx with rfl | hx
            · refine .inr fun old' hold' => ?_
              obtain rfl : old' = old := Option.some.inj (hold'.symm.trans hold)
              rw [hhanded, hrestores]
              exact ⟨List.mem_append_right _ List.mem_cons_self,
                List.mem_append_right _ List.mem_cons_self⟩
            · exact .inl hx
          · refine .inr (hx.mono ?_ ?_)
            · rw [hhanded]
              exact List.subset_append_left _ _
            · rw [hrestores]
              exact List.subset_append_left _ _

theorem rb_complete {done : List Snap} (h : w.2.Stopped done) :
    win.rb.Always (watched M latest) (fun _ => True)
      (fun r done' w' => w'.2.Stopped done' ∧ (returned r = true → w'.2.Complete done')) done w := by
  unfold Window.rb
  rw [Routine.always_bind, Routine.always_locals]
  refine ⟨trivial, ?_⟩
  rw [Routine.onOk_ok, Routine.always_monadLift]
  unfold Window.rollback
  rw [Action.always_bind]
  refine (rollBackAll_complete true done.reverse h (fun s hs => List.mem_reverse.mp hs)
    fun s hs => .inl (List.mem_reverse.mpr hs)).mono ?_
  rintro (e | allOk) w₁ - ⟨h₁, hc₁⟩
  · exact ⟨h₁, fun hx => by cases hx⟩
  refine (quiet_always (P := fun rec => rec.Stopped done ∧ rec.Complete done)
    (win.regate_uses (fun _ _ _ _ _ => rfl) allOk) ⟨h₁, hc₁ rfl⟩).mono ?_
  exact fun r w₂ _ ⟨h₂, hc₂⟩ => ⟨h₂, fun _ => hc₂⟩

/-- However the window is left, the record agrees with `done`, and unless the update
stands the rollback has gone through all of it. -/
theorem mutate_complete (h : w.2.Ahead [] win.snaps) :
    win.mutate.Always (watched M latest) (fun _ => True)
      (fun r done w' => w'.2.Stopped done ∧
        ∀ code, r = .ok code → code ≠ .ok → w'.2.Complete done) [] w := by
  have hrb : ∀ (done : List Snap) (w : V × Record), w.2.Stopped done →
      win.rb.Always (watched M latest) (fun _ => True)
        (fun r done w' => w'.2.Stopped done ∧
          ∀ code, r = .ok code → code ≠ .ok → w'.2.Complete done) done w := by
    refine fun done w hw => (rb_complete win hw).mono ?_
    rintro r done' w' - ⟨h', hc⟩
    refine ⟨h', ?_⟩
    rintro code rfl -
    exact hc rfl
  have hbody : win.body.Always (watched M latest) (fun _ => True)
      (fun r done w' => w'.2.Stopped done ∧
        ∀ code, r = .ok code → code ≠ .ok → w'.2.Complete done) [] w := by
    unfold Window.body
    rw [Routine.always_bind]
    refine (recreateAll_stopped win win.snaps [] h).mono ?_
    rintro (e | recreated) done₁ w₁ - h₁
    · exact ⟨h₁, fun _ hx => by cases hx⟩
    rw [Routine.onOk_ok, Routine.always_ite]
    refine ⟨fun _ => hrb done₁ w₁ h₁, fun _ => ?_⟩
    rw [Routine.always_bind, Routine.always_monadLift]
    refine (quiet_always (win.settles_uses (fun _ _ _ _ _ => rfl) (fun _ _ _ _ _ => rfl)
      (fun _ _ _ _ _ => rfl) fun _ _ _ _ => rfl) h₁).mono ?_
    rintro (e | stands) w₂ - h₂
    · exact ⟨h₂, fun _ hx => by cases hx⟩
    rw [Routine.onOk_ok, Routine.always_ite]
    refine ⟨fun _ => ⟨trivial, h₂, ?_⟩, fun _ => hrb done₁ w₂ h₂⟩
    rintro _ ⟨⟩ hne
    exact absurd rfl hne
  unfold Window.mutate
  rw [Routine.always_tryExcept]
  refine hbody.mono ?_
  rintro (e | code) done₁ w₁ - ⟨h₁, hc₁⟩
  · exact hrb done₁ w₁ h₁
  · exact ⟨h₁, hc₁⟩

/-! ## The whole update -/

namespace Record

/-- Nothing has been done to a container or a tag. -/
structure Fresh (rec : Record) : Prop where
  moved : rec.moved = []
  begun : rec.begun = []
  handed : rec.handed = []
  restores : rec.restores = []

variable {rec : Record}

/-- With nothing done there is nothing to roll back. -/
theorem Fresh.settled (h : rec.Fresh) : rec.Stopped [] ∧ rec.Complete [] := by
  refine ⟨⟨⟨[], h.begun, ?_⟩, ?_, ?_, ?_, ?_, .nil⟩, fun _ hs => absurd hs List.not_mem_nil⟩
  · exact fun _ hb => absurd hb List.not_mem_nil
  · intro e he
    rw [h.moved] at he
    exact absurd he List.not_mem_nil
  · exact fun _ hs => absurd hs List.not_mem_nil
  · intro x hx
    rw [h.handed] at hx
    exact absurd hx List.not_mem_nil
  · intro e he
    rw [h.restores] at he
    exact absurd he List.not_mem_nil

/-- Snapshots of the whole stack, all of them inspected. -/
structure Snapped (stack : List StackContainer) (snaps : List Snap) (rec : Record) : Prop where
  containers : snaps.map Snap.container = stack
  inspected : ∀ s ∈ snaps, (s.container.containerId, s.inspected) ∈ rec.inspections

theorem Fresh.ahead {stack : Stack} {snaps : List Snap} (h : rec.Fresh)
    (hs : rec.Snapped stack.containers snaps) : rec.Ahead [] snaps where
  begun := h.begun
  moved e he := by rw [h.moved] at he; exact absurd he List.not_mem_nil
  inspected := hs.inspected
  handed := h.handed
  restores := h.restores
  distinct := by
    have hd := stack.distinct
    rw [← hs.containers, List.pairwise_map] at hd
    exact hd

end Record

theorem snapshot_snapped (stack : List StackContainer) (h : w.2.Fresh) :
    (snapshot stack).Always (watched M latest) (fun _ => True)
      (fun r w' => w'.2.Fresh ∧ w.2.inspections ⊆ w'.2.inspections ∧
        ∀ snaps, r = .ok (some snaps) → w'.2.Snapped stack snaps) w := by
  induction stack generalizing w with
  | nil =>
    refine ⟨trivial, h, List.Subset.refl _, ?_⟩
    rintro _ ⟨⟩
    exact ⟨rfl, fun _ hs => absurd hs List.not_mem_nil⟩
  | cons c rest ih =>
    unfold snapshot
    rw [Action.always_bind]
    refine ⟨trivial, ?_⟩
    rintro (e | _ | inspected) w₁ hs
    · have hw₁ : w₁.2 = w.2 := hs.2
      exact ⟨trivial, hw₁ ▸ h, hw₁ ▸ List.Subset.refl _, fun _ hx => by cases hx⟩
    · have hw₁ : w₁.2 = w.2 := hs.2
      exact ⟨trivial, trivial, hw₁ ▸ h, hw₁ ▸ List.Subset.refl _, fun _ hx => by cases hx⟩
    have hw₁ : w₁.2 = { w.2 with inspections := w.2.inspections ++ [(c.containerId, inspected)] } :=
      hs.2
    have hfresh : w₁.2.Fresh := by
      rw [hw₁]
      exact ⟨h.moved, h.begun, h.handed, h.restores⟩
    have hin : (c.containerId, inspected) ∈ w₁.2.inspections := by
      rw [hw₁]
      exact List.mem_append_right _ List.mem_cons_self
    have hsub : w.2.inspections ⊆ w₁.2.inspections := by
      rw [hw₁]
      exact List.subset_append_left _ _
    -- What follows the inspection is the same whether or not the old image had to be looked up.
    have hrest : ∀ (old : Option String) (w₂ : V × Record), w₂.2 = w₁.2 →
        (snapshotRest c inspected old rest).Always (watched M latest) (fun _ => True)
          (fun r w' => w'.2.Fresh ∧ w.2.inspections ⊆ w'.2.inspections ∧
            ∀ snaps, r = .ok (some snaps) → w'.2.Snapped (c :: rest) snaps) w₂ := by
      intro old w₂ hw₂
      unfold snapshotRest
      rw [Action.always_bind]
      refine (ih (hw₂ ▸ hfresh)).mono ?_
      rintro (e | _ | snaps) w₃ - ⟨h₃, hsub₃, hsnapped⟩
      all_goals rw [hw₂] at hsub₃
      · exact ⟨h₃, List.Subset.trans hsub hsub₃, fun _ hx => by cases hx⟩
      · exact ⟨trivial, h₃, List.Subset.trans hsub hsub₃, fun _ hx => by cases hx⟩
      · refine ⟨trivial, h₃, List.Subset.trans hsub hsub₃, ?_⟩
        rintro _ ⟨⟩
        obtain ⟨hcontainers, hinspected⟩ := hsnapped snaps rfl
        refine ⟨by rw [List.map_cons, hcontainers], fun s hs => ?_⟩
        rcases List.mem_cons.mp hs with rfl | hs
        · exact hsub₃ hin
        · exact hinspected s hs
    refine ⟨trivial, ?_⟩
    rw [onOk_ok]
    dsimp only
    split
    · exact hrest _ w₁ rfl
    · rw [Action.always_bind]
      refine ⟨trivial, ?_⟩
      rintro (e | old) w₂ hs₂
      · have hw₂ : w₂.2 = w₁.2 := hs₂.2
        refine ⟨trivial, hw₂ ▸ hfresh, ?_, fun _ hx => by cases hx⟩
        rw [hw₂]
        exact hsub
      · exact ⟨trivial, hrest old w₂ hs₂.2⟩

theorem runRemoteUpdate_complete (req : UpdateRequest) (h : w.2.Fresh) :
    (runRemoteUpdate req).Always (watched M latest) (fun _ => True)
      (fun r w' => ∀ code, r = .ok code → code ≠ .ok →
        ∃ done, w'.2.Stopped done ∧ w'.2.Complete done) w := by
  have hraised : ∀ {w : V × Record} {e : UpdateError} (code : ExitCode),
      (Except.error e : Except UpdateError ExitCode) = .ok code → code ≠ .ok →
        ∃ done, w.2.Stopped done ∧ w.2.Complete done := fun _ hx => by cases hx
  have hrefused : ∀ (w : V × Record), w.2.Fresh →
      (pure .refused : Engine ExitCode).Always (watched M latest) (fun _ => True)
        (fun r w' => ∀ code, r = .ok code → code ≠ .ok →
          ∃ done, w'.2.Stopped done ∧ w'.2.Complete done) w :=
    fun w hw => ⟨trivial, fun _ _ _ => ⟨[], hw.settled⟩⟩
  unfold runRemoteUpdate
  rw [Action.always_bind]
  refine (quiet_always (quiet_step fun _ _ _ _ => rfl) h).mono ?_
  rintro (e | stack) w₁ - h₁
  · exact hraised
  rw [onOk_ok]
  split
  · exact hrefused w₁ h₁
  rw [Action.always_bind]
  refine (quiet_always (quiet_step fun _ _ _ _ => rfl) h₁).mono ?_
  rintro (e | oldVersion) w₂ - h₂
  · exact hraised
  rw [onOk_ok, Action.always_ite]
  refine ⟨fun _ => hrefused w₂ h₂, fun _ => ?_⟩
  rw [Action.always_bind]
  refine (quiet_always (phaseOne_uses req stack fun _ _ _ _ _ => rfl) h₂).mono ?_
  rintro (e | _ | verified) w₃ - h₃
  · exact hraised
  · exact hrefused w₃ h₃
  rw [onOk_ok]
  dsimp only
  rw [Action.always_bind]
  refine (snapshot_snapped stack.containers h₃).mono ?_
  rintro (e | _ | snaps) w₄ - ⟨h₄, -, hsnapped⟩
  · exact hraised
  · exact hrefused w₄ h₄
  rw [onOk_ok]
  dsimp only
  rw [Routine.always_run]
  refine (mutate_complete ⟨req, snaps, verified, oldVersion⟩ (h₄.ahead (hsnapped snaps rfl))).mono ?_
  exact fun r done w' _ ⟨h', hc⟩ code hr hcode => ⟨done, h', hc code hr hcode⟩

/-- Every returning run of the updater, command by command, is such a run of its steps,
with a record. -/
theorem remoteUpdate_recorded {N : Machine (Raises Command.Answer UpdateError) V}
    (latest : V → String → Option String) {req : UpdateRequest} {v v' : V}
    {r : Except UpdateError ExitCode} (run : Run N v (remoteUpdate req) v' (.pure r)) :
    ∃ rec, Run (watched (N.through EngineCall.perform) latest) (v, {}) (runRemoteUpdate req)
      (v', rec) (.pure r) :=
  (Run.of_implement run).recording ({} : Record)

/-- **A failed update is all or nothing exactly when it was recoverable**: whatever the
steps do and however each ends, of every run that returns a failure. -/
theorem failed_update_all_or_nothing_iff (M : Machine (Raises EngineCall.Answer UpdateError) V)
    (latest : V → String → Option String) (req : UpdateRequest) (v : V) (w' : V × Record)
    (code : ExitCode)
    (run : Run (watched M latest) (v, {}) (runRemoteUpdate req) w' (.pure (.ok code)))
    (hcode : code ≠ .ok) :
    w'.2.AllOrNothing (latest v) ↔ w'.2.Recoverable (latest v) := by
  have hfresh : Record.Fresh {} := ⟨rfl, rfl, rfl, rfl⟩
  obtain ⟨done, hstopped, hcomplete⟩ :=
    (runRemoteUpdate_complete (w := (v, {})) req hfresh).at_return run code rfl hcode
  exact Record.allOrNothing_iff hstopped hcomplete

end Runs

/-! ### A node with one container -/

/-- The greffer of the node. -/
def lonelyGreffer : StackContainer := ⟨"greffer", "gid", "greffon/greffer", rfl⟩

/-- A node that runs the greffer alone; its state is what `greffon/greffer:latest` points
at.  Either its recreate raises before the container is touched, and the rollback finds
the greffer ready, or everything succeeds up to a gate that fails. -/
def lonelyNode (raises : Bool) (v : String) :
    (c : EngineCall) → Raises EngineCall.Answer UpdateError c × String
  | .discoverStack => (.ok ⟨[lonelyGreffer], List.pairwise_singleton _ _⟩, v)
  | .execVersion _ => (.ok (some "0.3.4"), v)
  | .verifyAndPull _ _ _ => (.ok "sha256:new", v)
  | .inspectContainer _ => (.ok (some { name := some "/greffer-1", image := some "sha256:old" }), v)
  | .currentImageId _ => (.ok (some v), v)
  | .imageId _ => (.ok (some "sha256:new"), v)
  | .healthGate _ => (.ok (if raises then .ready else .fatal), v)
  | .danglingPrune => (.ok (), v)
  | .retagLatest _ digest => (.ok true, digest)
  | .recreateOne _ _ _ _ =>
    (if raises then .error (.raised (.osError "cannot allocate memory")) else .ok true, v)
  | .restoreLatest _ image => (.ok true, image)
  | .tagPrevious _ _ | .rollbackOne _ _ _ => (.ok true, v)

/-- What `:latest` points at on that node. -/
def lonelyLatest (v repo : String) : Option String :=
  if repo = "greffon/greffer" then some v else none

/-- The node with its record. -/
def lonelyRecorded (raises : Bool) (w : String × Record) (c : EngineCall) :
    Raises EngineCall.Answer UpdateError c × (String × Record) :=
  ((lonelyNode raises w.1 c).1, (lonelyNode raises w.1 c).2,
    w.2.note (lonelyLatest w.1) (lonelyLatest (lonelyNode raises w.1 c).2) c
      (lonelyNode raises w.1 c).1)

theorem lonelyRecorded_serves (raises : Bool) (w : String × Record) (c : EngineCall) :
    (watched (.definite (lonelyNode raises)) lonelyLatest).serve w c
      (lonelyRecorded raises w c).1 (lonelyRecorded raises w c).2 := ⟨rfl, rfl⟩

/-- An update of that node. -/
def lonelyUpdate : UpdateRequest := { cosignPub := "/etc/greffer/cosign.pub", grefferId := none }

/-- The run of the update there. -/
def lonelyRun (raises : Bool) : (String × Record) × Prog (Raises EngineCall.Answer UpdateError)
    (Except UpdateError ExitCode) :=
  Prog.evalFor (lonelyRecorded raises) 20 (runRemoteUpdate lonelyUpdate) ("sha256:old", {})

theorem failed_update_all_or_nothing_iff_gate :
    (lonelyRun false).1.2.AllOrNothing (lonelyLatest "sha256:old") ↔
      (lonelyRun false).1.2.Recoverable (lonelyLatest "sha256:old") :=
  failed_update_all_or_nothing_iff (.definite (lonelyNode false)) lonelyLatest lonelyUpdate
    "sha256:old" (lonelyRun false).1 .failedRollbackFailed
    (Prog.run_evalFor (h := lonelyRecorded false) (lonelyRecorded_serves false) 20 _ _) (by decide)

/-- **A recreate that raises is not rolled back**: the run reports a clean rollback, with
the container never handed to it and `:latest` left on the new image. -/
theorem raising_recreate_left_behind : ∃ w',
    Run (watched (.definite (lonelyNode true)) lonelyLatest) ("sha256:old", {})
      (runRemoteUpdate lonelyUpdate) w' (.pure (.ok .failedRolledBack)) ∧
    w'.1 = "sha256:new" ∧ ¬ w'.2.AllOrNothing (lonelyLatest "sha256:old") := by
  refine ⟨(lonelyRun true).1, Prog.run_evalFor (h := lonelyRecorded true)
    (lonelyRecorded_serves true) 20 (runRemoteUpdate lonelyUpdate) ("sha256:old", {}), rfl, ?_⟩
  rintro ⟨hhanded, -⟩
  obtain ⟨inspected, -, hx⟩ := hhanded ⟨lonelyGreffer, some "sha256:old", false⟩ List.mem_cons_self
  exact absurd hx List.not_mem_nil

end Greffer.Updater

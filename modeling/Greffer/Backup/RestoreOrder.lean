import Greffer.Backup.ColdQuiet

/-! # The order of a database restore

A restore with database artifacts starts the database services alone, feeds each its
dump, and only then starts the whole instance.  From the first start on a failure must be
answered by a stop before the lock is given back.

The commands exit as they like, raise or time out.  **The job does not look at the exit
code of the last start**: a start that fails is reported as a success that needs no
start, and nothing is stopped.  `db_restore_order` says that this is the only way out of
order.
-/
namespace Greffer.Backup
open Effects Docker

/-- A result that says that the instance is back, and running. -/
def RestorePayload.ClaimsRunning (p : RestorePayload) : Prop :=
  p.status = .success ∧ p.alreadyRunning = true

instance (p : RestorePayload) : Decidable p.ClaimsRunning := inferInstanceAs (Decidable (_ ∧ _))

/-- How far a restore has come, told from its commands alone. -/
structure Revival where
  /-- An overwrite of data volumes was started. -/
  overwritten : Bool := false
  /-- A start of database services was issued. -/
  dbStarted : Bool := false
  /-- The exit code of the restore command that reads the running dump. -/
  consumed : Option Int := none
  /-- The dumps, by snapshot and file, that ended with exit code 0 on both ends. -/
  restored : List (String × String) := []
  /-- The exit code of the full start after the database services. -/
  lastStart : Option Int := none
  /-- A stop was attempted after the start of the database services. -/
  stopped : Bool := false
  violated : Bool := false

namespace RestoreRequest
variable (req : RestoreRequest)

/-- Where an artifact's dump lies: its snapshot, and the file in it. -/
def dumpOf (artifact : String × String) : String × String :=
  (artifact.2, req.instanceId ++ "/" ++ artifact.1 ++ ".dump")

/-- Every database artifact has been restored. -/
def AllRestored (w : Revival) : Prop := ∀ a ∈ req.artifacts, req.dumpOf a ∈ w.restored

instance (w : Revival) : Decidable (req.AllRestored w) := inferInstanceAs (Decidable (∀ _ ∈ _, _))

/-- Once the database services were started the instance is either back, with all of its
databases, or a stop has been attempted. -/
def Settled (w : Revival) : Prop :=
  w.dbStarted = true → w.stopped = true ∨ req.AllRestored w ∧ w.lastStart = some 0

instance (w : Revival) : Decidable (req.Settled w) := inferInstanceAs (Decidable (_ → _))

end RestoreRequest

namespace Revival

/-- The job says that the instance runs: its last start must have exited with 0. -/
def report (p : RestorePayload) (w : Revival) : Revival :=
  { w with violated := w.violated || decide (p.ClaimsRunning ∧ w.lastStart ≠ some 0) }

/-- A full start.  Before data or databases were touched it only undoes the stop the job
began with; after that all databases must be there. -/
def startAll (req : RestoreRequest) (answered : Bool) (code : Int) (w : Revival) : Revival :=
  { w with
    violated := w.violated ||
      decide ((w.overwritten = true ∨ w.dbStarted = true) ∧ ¬ req.AllRestored w)
    lastStart := if w.dbStarted && answered then some code else w.lastStart }

/-- A dump has been read to its end, and what read it had ended before. -/
def dumpEnded (dump : String × String) (code : Int) (w : Revival) : Revival :=
  if code = 0 ∧ w.consumed = some 0 then { w with restored := dump :: w.restored } else w

/-- A restic command has been started. -/
def begun (w : Revival) : ResticCommand → Revival
  | .restore _ => { w with overwritten := true }
  | .dump _ _ => { w with consumed := none }
  | _ => w

/-- A restic command has ended. -/
def ended (code : Int) (w : Revival) : ResticCommand → Revival
  | .dump snapshot file => w.dumpEnded (snapshot, file) code
  | _ => w

/-- The restore after a call; `code` is how a start command exits. -/
def after (req : RestoreRequest) (code : Int) (w : Revival) :
    (c : BackupCall) → Raises Answer JobError c → Revival
  | .start (.restic run), _ => w.begun run.command
  | .await (.restic run), .ok e => w.ended e.returncode run.command
  | .await (.dockerExec _ _ true), .ok e => { w with consumed := some e.returncode }
  | .kill _, _ => { w with consumed := none }
  | .composeUp _ [], .ok _ => w.startAll req true code
  | .composeUp _ [], .error _ => w.startAll req false code
  | .composeUp _ (_ :: _), _ => { w with dbStarted := true }
  | .composeStop _, _ => { w with stopped := w.stopped || w.dbStarted }
  | .writeText _ (.state p), _ => w.report p
  | .post _ (.restore p), _ => w.report p
  | .releaseLock, _ => { w with violated := w.violated || decide (¬ req.Settled w) }
  | _, _ => w

end Revival

/-- The environment: every call is answered, or raises, as it likes, and every start
command exits with any code. -/
def reviving (req : RestoreRequest) : Machine (Raises Answer JobError) Revival where
  serve w c r w' := ∃ code, w' = w.after req code c r

/-- The last start, if there was one, exited with 0. -/
def Revival.StartedWell (w : Revival) : Prop := ∀ code, w.lastStart = some code → code = 0

/-! ## What a call leaves as it is -/

/-- A report that the instance runs. -/
def Kind.ClaimsRunning : Kind → Prop
  | .write _ (.state p) => p.ClaimsRunning
  | .post (.restore p) => p.ClaimsRunning
  | _ => False

/-- What a call of a kind can do that is no start, no release and no claim. -/
structure Revival.Drift (k : Kind) (w w' : Revival) : Prop where
  dbStarted : w'.dbStarted = w.dbStarted
  lastStart : w'.lastStart = w.lastStart
  violated : w'.violated = w.violated
  restored : ∀ dump ∈ w.restored, dump ∈ w'.restored
  stopped : ¬ k.Stops ∨ w.dbStarted = false → w'.stopped = w.stopped
  halted : w.stopped = true → w'.stopped = true
  overwritten : (∀ snap, k ≠ .restic (.restore snap)) → w'.overwritten = w.overwritten

section Frames
variable {req : RestoreRequest} {w w' : Revival} {c : BackupCall} {r : Raises Answer JobError c}
  {k : Kind}

theorem Revival.Drift.refl (k : Kind) (w : Revival) : w.Drift k w :=
  ⟨rfl, rfl, rfl, fun _ h => h, fun _ => rfl, id, fun _ => rfl⟩

theorem drift_consumed (x : Option Int) : w.Drift k { w with consumed := x } :=
  ⟨rfl, rfl, rfl, fun _ h => h, fun _ => rfl, id, fun _ => rfl⟩

theorem drift_begun (command : ResticCommand) : w.Drift (.restic command) (w.begun command) := by
  cases command with
  | restore snap => exact ⟨rfl, rfl, rfl, fun _ h => h, fun _ => rfl, id, fun h => absurd rfl (h snap)⟩
  | dump snapshot file => exact drift_consumed none
  | _ => exact .refl _ _

theorem drift_dumpEnded (dump : String × String) (code : Int) :
    w.Drift k (w.dumpEnded dump code) := by
  unfold Revival.dumpEnded
  by_cases hboth : code = 0 ∧ w.consumed = some 0
  · rw [if_pos hboth]
    exact ⟨rfl, rfl, rfl, fun _ h => List.mem_cons_of_mem _ h, fun _ => rfl, id, fun _ => rfl⟩
  · rw [if_neg hboth]
    exact .refl _ _

theorem drift_ended (code : Int) (command : ResticCommand) : w.Drift k (w.ended code command) := by
  cases command with
  | dump snapshot file => exact drift_dumpEnded _ _
  | _ => exact .refl _ _

theorem report_of_not {p : RestorePayload} (h : ¬ p.ClaimsRunning) : w.report p = w := by
  unfold Revival.report
  simp [h]

/-- **What a call can do to a restore**, starts, releases and claims apart. -/
theorem reviving_drift (hup : ¬ c.kind.Ups) (hrelease : c.kind ≠ .release)
    (hclaims : ¬ c.kind.ClaimsRunning) (hs : (reviving req).serve w c r w') :
    w.Drift c.kind w' := by
  obtain ⟨code, rfl⟩ := hs
  cases c with
  | composeUp i services => exact absurd trivial hup
  | releaseLock => exact absurd rfl hrelease
  | composeStop i =>
    refine ⟨rfl, rfl, rfl, fun _ h => h, fun h => ?_, fun h => ?_, fun _ => rfl⟩
    · simp [Revival.after, h.resolve_left (by simp [BackupCall.kind])]
    · simp [Revival.after, h]
  | writeText file content =>
    cases content with
    | marker id => exact .refl _ _
    | state p =>
      rw [show w.after req code (.writeText file (.state p)) r = w from report_of_not hclaims]
      exact .refl _ _
  | post i result =>
    cases result with
    | backup p => exact .refl _ _
    | restore p =>
      rw [show w.after req code (.post i (.restore p)) r = w from report_of_not hclaims]
      exact .refl _ _
  | kill child => exact drift_consumed none
  | start child =>
    cases child with
    | dockerExec id argv interactive => exact .refl _ _
    | restic run => exact drift_begun run.command
  | await child =>
    cases r with
    | error e =>
      cases child with
      | restic run => exact .refl _ _
      | dockerExec id argv interactive => cases interactive <;> exact .refl _ _
    | ok e =>
      cases child with
      | restic run => exact drift_ended _ _
      | dockerExec id argv interactive =>
        cases interactive with
        | false => exact .refl _ _
        | true => exact drift_consumed _
  | _ => exact .refl _ _

/-! ## The phases of a restore -/

/-- The kinds of calls that are no start, no release and no claim. -/
def Kind.Calm (k : Kind) : Prop := ¬ k.Ups ∧ k ≠ .release ∧ ¬ k.ClaimsRunning

/-- Before the database services are started. -/
structure Revival.Early (w : Revival) : Prop where
  dbStarted : w.dbStarted = false
  lastStart : w.lastStart = none
  violated : w.violated = false
  stopped : w.stopped = false

/-- Nothing has been overwritten, and nothing was started. -/
structure Revival.Untouched (w : Revival) : Prop extends w.Early where
  overwritten : w.overwritten = false

/-- The database services are up, and these dumps are restored. -/
structure Revival.Feeding (dumps : List (String × String)) (w : Revival) : Prop where
  dbStarted : w.dbStarted = true
  lastStart : w.lastStart = none
  violated : w.violated = false
  stopped : w.stopped = false
  restored : ∀ dump ∈ dumps, dump ∈ w.restored

theorem early_serve (hk : c.kind.Calm) (h : w.Early) (hs : (reviving req).serve w c r w') :
    w'.Early := by
  obtain ⟨hup, hrelease, hclaims⟩ := hk
  have hdrift := reviving_drift hup hrelease hclaims hs
  exact ⟨hdrift.dbStarted.trans h.dbStarted, hdrift.lastStart.trans h.lastStart,
    hdrift.violated.trans h.violated, (hdrift.stopped (.inr h.dbStarted)).trans h.stopped⟩

theorem untouched_serve (hk : c.kind.Calm ∧ ∀ snap, c.kind ≠ .restic (.restore snap))
    (h : w.Untouched) (hs : (reviving req).serve w c r w') : w'.Untouched := by
  have hdrift := reviving_drift hk.1.1 hk.1.2.1 hk.1.2.2 hs
  exact ⟨early_serve hk.1 h.toEarly hs, (hdrift.overwritten hk.2).trans h.overwritten⟩

theorem feeding_serve {dumps : List (String × String)} (hk : c.kind.Calm ∧ ¬ c.kind.Stops)
    (h : w.Feeding dumps) (hs : (reviving req).serve w c r w') : w'.Feeding dumps := by
  obtain ⟨⟨hup, hrelease, hclaims⟩, hstop⟩ := hk
  have hdrift := reviving_drift hup hrelease hclaims hs
  exact ⟨hdrift.dbStarted.trans h.dbStarted, hdrift.lastStart.trans h.lastStart,
    hdrift.violated.trans h.violated, (hdrift.stopped (.inl hstop)).trans h.stopped,
    fun dump hdump => hdrift.restored dump (h.restored dump hdump)⟩

/-- Nothing is out of order as long as the last start exits well. -/
def Revival.Sound (w : Revival) : Prop := w.StartedWell → w.violated = false

theorem Revival.Early.sound (h : w.Early) : w.Sound := fun _ => h.violated

theorem Revival.Feeding.sound {dumps : List (String × String)} (h : w.Feeding dumps) : w.Sound :=
  fun _ => h.violated

end Frames

/-! ## The dumps -/

section Dumps
variable {req : RestoreRequest} {w : Revival}

/-- **A pipe both ends of which exit with 0 has restored its dump.** -/
theorem pipe_restored {env : List (String × String)} {snapshot file containerId : String}
    {argv : List String} :
    (pipe (.restic ⟨env, .dump snapshot file, [], false⟩) (.dockerExec containerId argv true)).Yields
      (reviving req) (fun ends w' => ends.1.returncode = 0 → ends.2.returncode = 0 →
        (snapshot, file) ∈ w'.restored) w := by
  unfold pipe
  refine (Action.yields_trivial _ _).bind fun _ w₁ _ => ?_
  refine (Action.yields_trivial _ _).bind fun _ w₂ _ => ?_
  have hends : Action.Yields (reviving req) (fun (ends : Ended × Ended) w' =>
      ends.1.returncode = 0 → ends.2.returncode = 0 → (snapshot, file) ∈ w'.restored) (do
        let consumed ← call (.await (.dockerExec containerId argv true))
        let produced ← call (.await (.restic ⟨env, .dump snapshot file, [], false⟩))
        return (consumed, produced)) w₂ := by
    refine (Action.yields_perform (P := fun (e : Ended) (w : Revival) =>
      w.consumed = some e.returncode) ?_).bind fun consumed w₃ hconsumed => ?_
    · intro e w₃ hs
      obtain ⟨code, rfl⟩ := hs
      rfl
    refine (Action.yields_perform (P := fun (e : Ended) (w : Revival) =>
      consumed.returncode = 0 → e.returncode = 0 → (snapshot, file) ∈ w.restored) ?_).bind
      fun produced w₄ hproduced => Action.yields_pure hproduced
    intro e w₄ hs hzero hcode
    obtain ⟨code, rfl⟩ := hs
    show (snapshot, file) ∈ (w₃.dumpEnded (snapshot, file) e.returncode).restored
    unfold Revival.dumpEnded
    rw [if_pos ⟨hcode, hconsumed.trans (congrArg some hzero)⟩]
    exact List.mem_cons_self
  refine hends.tryExcept fun e w => ?_
  refine (Prog.Always.returning (Action.yields_trivial _ w) abandon_returns).mono ?_
  intro r w' _ hr a ha
  exact absurd ha (hr.1 a)

/-- **A dump counts as restored only when it is.** -/
theorem restoreDatabase_restored {settings : Settings} {containerId snapshot file : String}
    {argv : List String} :
    (restoreDatabase settings containerId argv snapshot file).Yields (reviving req)
      (fun _ w' => (snapshot, file) ∈ w'.restored) w := by
  unfold restoreDatabase
  refine (Action.yields_trivial _ _).bind fun env w₁ _ => ?_
  refine pipe_restored.bind fun ends w₂ hends => ?_
  -- the producer's exit code is looked at first, then the consumer's
  by_cases hproduced : ends.2.returncode = 0
  · by_cases hconsumed : ends.1.returncode = 0
    · simp only [ne_eq, hproduced, hconsumed, not_true_eq_false, if_false]
      exact Action.yields_pure (hends hconsumed hproduced)
    · simp only [ne_eq, hproduced, hconsumed, not_true_eq_false, not_false_eq_true, if_false, if_true]
      exact Action.yields_raise _
  · simp only [ne_eq, hproduced, not_false_eq_true, if_true]
    exact Action.yields_raise _

theorem feeding_within {dumps : List (String × String)} {α : Type} {m : Job α}
    (hm : Within (fun k => k.Calm ∧ ¬ k.Stops) m) (h : w.Feeding dumps) :
    m.Always (reviving req) (Revival.Feeding dumps) (fun _ _ => True) w :=
  (hm.always (fun _ _ _ _ hk hI hs => feeding_serve hk hI hs) h).mono fun _ _ _ _ => trivial

theorem calm_look : Kind.look.Calm ∧ ¬ Kind.look.Stops := ⟨⟨by simp, by simp, id⟩, by simp⟩

theorem calm_exists (file : FileRef) : (Kind.exists file).Calm := ⟨by simp, by simp, id⟩

theorem calm_exec : Kind.exec.Calm ∧ ¬ Kind.exec.Stops := ⟨⟨by simp, by simp, id⟩, by simp⟩

theorem calm_restic (command : ResticCommand) :
    (Kind.restic command).Calm ∧ ¬ (Kind.restic command).Stops := ⟨⟨by simp, by simp, id⟩, by simp⟩

variable (req) in
/-- **The loop of the dumps**: it goes on to the next only when one is restored. -/
theorem restoreDumps_feeding (artifacts : List (String × String)) {l : RestoreLocals}
    {dumps : List (String × String)} (h : w.Feeding dumps) :
    (req.restoreDumps artifacts).Always (reviving req) (Revival.Feeding dumps)
      (fun r _ w' => r = .ok true → ∀ a ∈ artifacts, req.dumpOf a ∈ w'.restored) l w := by
  induction artifacts generalizing w dumps with
  | nil =>
    refine ⟨h, fun _ => ?_⟩
    simp
  | cons artifact rest ih =>
    obtain ⟨service, snapshot⟩ := artifact
    have hstop : ∀ (code : ErrorCode) (w : Revival), w.Feeding dumps → (do
        Routine.assign (RestoreLocals.failWithSafety code)
        return false : RestoreSteps Bool).Always (reviving req) (Revival.Feeding dumps)
        (fun r _ w' => r = .ok true →
          ∀ a ∈ (service, snapshot) :: rest, req.dumpOf a ∈ w'.restored) l w := by
      intro code w hw
      rw [Routine.always_bind, Routine.always_assign]
      refine ⟨hw, hw, ?_⟩
      intro hx
      cases hx
    unfold RestoreRequest.restoreDumps
    rw [Routine.always_bind, Routine.always_monadLift]
    have hwait : Within (fun k => k.Calm ∧ ¬ k.Stops) (waitDbHealthy req.instanceId service) :=
      waitDbHealthy_within calm_look
    refine (feeding_within hwait h).mono fun r w₁ h₁ _ => ?_
    cases r with
    | error e =>
      intro hx
      cases hx
    | ok healthy =>
      rw [Routine.onOk_ok, Routine.always_ite]
      refine ⟨fun _ => hstop _ _ h₁, fun _ => ?_⟩
      rw [Routine.always_bind, Routine.always_monadLift]
      have hhook : Within (fun k => k.Calm ∧ ¬ k.Stops)
          (restoreHookForService req.instanceId service) := restoreHookForService_within calm_look
      refine (feeding_within hhook h₁).mono fun r w₂ h₂ _ => ?_
      cases r with
      | error e =>
        intro hx
        cases hx
      | ok hook =>
        cases hook with
        | none => exact hstop _ _ h₂
        | some hook =>
          obtain ⟨containerId, argv⟩ := hook
          rw [Routine.onOk_ok, Routine.always_bind, Routine.always_monadLift]
          have hrestore : Within (fun k => k.Calm ∧ ¬ k.Stops)
              (restoreDatabase req.settings containerId argv snapshot
                (req.instanceId ++ "/" ++ service ++ ".dump")) :=
            restoreDatabase_within calm_exec (calm_restic _)
          refine ((feeding_within hrestore h₂).yielding restoreDatabase_restored).mono
            fun r w₃ h₃ hr => ?_
          cases r with
          | error e =>
            intro hx
            cases hx
          | ok u =>
            -- the dump counts as restored for the rest of the loop
            have hdump : req.dumpOf (service, snapshot) ∈ w₃.restored := hr.2 u rfl
            have hfed : w₃.Feeding (req.dumpOf (service, snapshot) :: dumps) :=
              ⟨h₃.dbStarted, h₃.lastStart, h₃.violated, h₃.stopped,
                List.forall_mem_cons.mpr ⟨hdump, h₃.restored⟩⟩
            rw [Routine.onOk_ok]
            refine (ih hfed).imp (fun w hw => ?_) fun r l w hw hrest hall => ?_
            · exact ⟨hw.dbStarted, hw.lastStart, hw.violated, hw.stopped,
                fun dump hdump => hw.restored dump (List.mem_cons_of_mem _ hdump)⟩
            · exact List.forall_mem_cons.mpr
                ⟨hw.restored _ List.mem_cons_self, hrest hall⟩

end Dumps

/-! ## The job -/

/-- How the `try` block leaves a restore that is not back: nothing was started in full, and
once the database services were started the job knows it. -/
structure Unfinished (l : RestoreLocals) (w : Revival) : Prop where
  lastStart : w.lastStart = none
  violated : w.violated = false
  claims : ¬ l.payload.ClaimsRunning
  started : w.dbStarted = true → l.dbStarted = true ∧ l.payload.status ≠ .success
  overwritten : l.overwriteStarted = false → w.overwritten = false ∧ w.dbStarted = false

/-- How it leaves a restore whose last start has exited, with whatever code. -/
structure Finished (req : RestoreRequest) (l : RestoreLocals) (w : Revival) : Prop where
  lastStart : ∃ code, w.lastStart = some code
  allRestored : req.AllRestored w
  dbStarted : w.dbStarted = true
  violated : w.violated = false
  stopped : w.stopped = false
  claims : l.payload.ClaimsRunning

/-- The variables of a job that has not succeeded. -/
def RestoreLocals.Failing (overwriting : Bool) (l : RestoreLocals) : Prop :=
  l.payload.status ≠ .success ∧ l.overwriteStarted = overwriting

theorem failing_kept (overwriting : Bool) :
    RestoreRequest.KeptByFailure (RestoreLocals.Failing overwriting) where
  fail _ _ h := h
  failWithSafety _ _ h := ⟨by simp [RestoreLocals.failWithSafety], h.2⟩
  safetyId _ _ h := h

/-- … and that has started the database services. -/
def RestoreLocals.Serving (l : RestoreLocals) : Prop := l.Failing true ∧ l.dbStarted = true

theorem serving_kept : RestoreRequest.KeptByFailure RestoreLocals.Serving where
  fail code l h := ⟨(failing_kept true).fail code l h.1, h.2⟩
  failWithSafety code l h := ⟨(failing_kept true).failWithSafety code l h.1, h.2⟩
  safetyId id l h := ⟨(failing_kept true).safetyId id l h.1, h.2⟩

section Job
variable (req : RestoreRequest) {l : RestoreLocals} {w : Revival}

theorem unfinished_of_early {overwriting : Bool} (hl : l.Failing overwriting) (h : w.Early)
    (hover : overwriting = false → w.overwritten = false) : Unfinished l w where
  lastStart := h.lastStart
  violated := h.violated
  claims hclaims := hl.1 hclaims.1
  started hstarted := by simp [h.dbStarted] at hstarted
  overwritten hfalse := ⟨hover (hl.2.symm.trans hfalse), h.dbStarted⟩

theorem unfinished_of_serving (hl : l.Serving) (hstart : w.lastStart = none)
    (hviolated : w.violated = false) : Unfinished l w where
  lastStart := hstart
  violated := hviolated
  claims hclaims := hl.1.1 hclaims.1
  started _ := ⟨hl.2, hl.1.1⟩
  overwritten hfalse := by simp [hl.1.2] at hfalse

/-- The full start comes in order when every database is there. -/
theorem startAll_violated {answered : Bool} {code : Int} (hall : req.AllRestored w)
    (h : w.violated = false) : (w.startAll req answered code).violated = false := by
  simp [Revival.startAll, h, hall]

/-- **Once the database services are started**, the job ends with all databases fed and the
whole instance started, or knows that it has to stop it. -/
theorem restoreDatabases_order (hl : l.Failing true) (h : w.Early) :
    req.restoreDatabases.Always (reviving req) Revival.Sound
      (fun _ l' w' => Unfinished l' w' ∨ Finished req l' w') l w := by
  unfold RestoreRequest.restoreDatabases
  rw [Routine.always_ite]
  constructor
  · intro hnone
    rw [Routine.always_bind, Routine.always_assign]
    refine ⟨h.sound, h.sound, .inl ?_⟩
    refine ⟨h.lastStart, h.violated, ?_, ?_, ?_⟩
    · simp [RestorePayload.ClaimsRunning, RestoreLocals.succeed]
    · intro hstarted
      simp [h.dbStarted] at hstarted
    · intro hfalse
      simp [RestoreLocals.succeed, hl.2] at hfalse
  · intro hsome
    have hserving : RestoreLocals.Serving { l with dbStarted := true } := ⟨hl, rfl⟩
    rw [Routine.always_bind, Routine.always_assign]
    refine ⟨h.sound, ?_⟩
    rw [Routine.onOk_ok, Routine.always_bind, Routine.always_monadLift]
    refine ⟨h.sound, fun r w₁ hs => ?_⟩
    -- The database services are up, and no dump has been fed yet.
    have h₁ : w₁.Feeding [] := by
      obtain ⟨code, rfl⟩ := hs
      cases hservices : req.artifacts.map Prod.fst with
      | nil => simp [List.map_eq_nil_iff.mp hservices] at hsome
      | cons service rest => exact ⟨rfl, h.lastStart, h.violated, h.stopped, by simp⟩
    refine ⟨h₁.sound, ?_⟩
    cases r with
    | error e => exact .inl (unfinished_of_serving hserving h₁.lastStart h₁.violated)
    | ok u =>
      rw [Routine.onOk_ok, Routine.always_bind]
      refine ((restoreDumps_feeding req req.artifacts h₁).returning
        (req.restoreDumps_keeps serving_kept req.artifacts _ hserving)).imp
        (fun w hw => hw.sound) ?_
      intro r l₂ w₂ h₂ hr
      obtain ⟨hl₂, hrestored⟩ := hr
      cases r with
      | error e => exact .inl (unfinished_of_serving hl₂ h₂.lastStart h₂.violated)
      | ok done =>
        cases done with
        | false =>
          exact ⟨h₂.sound, .inl (unfinished_of_serving hl₂ h₂.lastStart h₂.violated)⟩
        | true =>
          -- Every dump has been restored; only then is the instance started.
          have hall : req.AllRestored w₂ := hrestored rfl
          simp only [Routine.onOk_ok, Bool.not_true, Bool.false_eq_true, if_false]
          rw [Routine.always_bind, Routine.always_monadLift]
          refine ⟨h₂.sound, fun r w₃ hs => ?_⟩
          obtain ⟨code, rfl⟩ := hs
          cases r with
          | error e =>
            have hviolated : (w₂.startAll req false code).violated = false :=
              startAll_violated req hall h₂.violated
            have hstart : (w₂.startAll req false code).lastStart = none := by
              simp [Revival.startAll, h₂.lastStart]
            exact ⟨fun _ => hviolated, .inl (unfinished_of_serving hl₂ hstart hviolated)⟩
          | ok u =>
            have hviolated : (w₂.startAll req true code).violated = false :=
              startAll_violated req hall h₂.violated
            have hstart : (w₂.startAll req true code).lastStart = some code := by
              simp [Revival.startAll, h₂.dbStarted]
            refine ⟨fun _ => hviolated, ?_⟩
            dsimp only
            rw [Routine.onOk_ok, Routine.always_bind, Routine.always_assign]
            refine ⟨fun _ => hviolated, fun _ => hviolated, .inr ?_⟩
            exact ⟨⟨code, hstart⟩, hall, h₂.dbStarted, hviolated, h₂.stopped, rfl, rfl⟩

/-- What the `try` block leaves. -/
def Tried (l : RestoreLocals) (w : Revival) : Prop := Unfinished l w ∨ Finished req l w

theorem tried_sound (h : Tried req l w) : w.Sound := by
  intro _
  rcases h with h | h
  · exact h.violated
  · exact h.violated

/-- Retention changes nothing of that. -/
theorem tried_serve {c : BackupCall} {r : Raises Answer JobError c} {w' : Revival}
    (hk : c.kind.Calm ∧ ¬ c.kind.Stops ∧ ∀ snap, c.kind ≠ .restic (.restore snap))
    (h : Tried req l w) (hs : (reviving req).serve w c r w') : Tried req l w' := by
  obtain ⟨⟨hup, hrelease, hclaims⟩, hstop, hrestore⟩ := hk
  have hdrift := reviving_drift hup hrelease hclaims hs
  rcases h with h | h
  · refine .inl ⟨hdrift.lastStart.trans h.lastStart, hdrift.violated.trans h.violated, h.claims,
      fun hstarted => h.started (hdrift.dbStarted ▸ hstarted), fun hfalse => ?_⟩
    obtain ⟨hover, hdb⟩ := h.overwritten hfalse
    exact ⟨(hdrift.overwritten hrestore).trans hover, hdrift.dbStarted.trans hdb⟩
  · obtain ⟨code, hcode⟩ := h.lastStart
    exact .inr ⟨⟨code, hdrift.lastStart.trans hcode⟩,
      fun a ha => hdrift.restored _ (h.allRestored a ha), hdrift.dbStarted.trans h.dbStarted,
      hdrift.violated.trans h.violated, (hdrift.stopped (.inl hstop)).trans h.stopped, h.claims⟩

/-- **The overwrite**, from data that nothing has touched. -/
theorem overwrite_order {mounts : List Mount} (hl : l.payload.status ≠ .success)
    (h : w.Early) :
    (req.overwrite mounts).Always (reviving req) Revival.Sound (fun _ l' w' => Tried req l' w')
      l w := by
  -- Until the databases, no service has been started.
  have hearly : ∀ {α : Type} {m : RestoreSteps α} {l : RestoreLocals} {w : Revival},
      RWithin Kind.Calm m → m.Keeps (RestoreLocals.Failing true) → l.Failing true → w.Early →
      m.Always (reviving req) Revival.Early (fun _ l' _ => l'.Failing true ∧ True) l w := by
    intro α m l w hm hkeeps hl hw
    exact ((hm.always (fun _ _ _ _ hk hI hs => early_serve hk hI hs) hw).mono
      fun _ _ _ _ _ => trivial).returning (hkeeps l hl)
  have hstart : RestoreLocals.Failing true { l with overwriteStarted := true } := ⟨hl, rfl⟩
  have hover : ∀ {l : RestoreLocals} {w : Revival}, l.Failing true → w.Early → Tried req l w :=
    fun hl hw => .inl (unfinished_of_early hl hw (by simp))
  unfold RestoreRequest.overwrite
  rw [Routine.always_bind, Routine.always_assign]
  refine ⟨h.sound, ?_⟩
  rw [Routine.onOk_ok, Routine.always_bind]
  refine (hearly (req.dataMounts_within calm_look.1 (calm_exists _))
    (req.dataMounts_keeps (failing_kept true)) hstart h).imp (fun w hw => hw.sound)
    fun r l₁ w₁ h₁ hr => ?_
  obtain ⟨hl₁, -⟩ := hr
  cases r with
  | error e => exact hover hl₁ h₁
  | ok mounts =>
    cases mounts with
    | none => exact ⟨h₁.sound, hover hl₁ h₁⟩
    | some mounts =>
      rw [Routine.onOk_ok, Routine.always_bind]
      refine (hearly (req.overwriteData_within fun _ => (calm_restic _).1)
        (req.overwriteData_keeps (failing_kept true)) hl₁ h₁).imp (fun w hw => hw.sound)
        fun r l₂ w₂ h₂ hr => ?_
      obtain ⟨hl₂, -⟩ := hr
      cases r with
      | error e => exact hover hl₂ h₂
      | ok done =>
        cases done with
        | false => exact ⟨h₂.sound, hover hl₂ h₂⟩
        | true =>
          simp only [Routine.onOk_ok, Bool.not_true, Bool.false_eq_true, if_false]
          rw [Routine.always_bind]
          refine (restoreDatabases_order req hl₂ h₂).mono fun r l₃ w₃ _ htried => ?_
          cases r with
          | error e => exact htried
          | ok done =>
            rw [Routine.onOk_ok, Routine.always_ite]
            refine ⟨fun _ => ?_, fun _ => ⟨tried_sound req htried, htried⟩⟩
            -- what is left is to forget the safety snapshot
            have hforget : Within (fun k => k.Calm ∧ ¬ k.Stops ∧
                ∀ snap, k ≠ .restic (.restore snap)) (forget req.settings req.instanceId true) :=
              forget_within fun _ _ => ⟨(calm_restic _).1, by simp, by simp⟩
            rw [Routine.always_monadLift]
            exact (hforget.always (I := Tried req l₃)
              (fun _ _ _ _ hk hI hs => tried_serve req hk hI hs) htried).imp
              (fun w hw => tried_sound req hw) fun _ _ _ hw => hw

/-- **The `try` block**, from data that nothing has touched. -/
theorem body_order {started : Bool} (hl : l.Failing false) (h : w.Untouched) :
    (req.body started).Always (reviving req) Revival.Sound (fun _ l' w' => Tried req l' w') l w := by
  -- Until the overwrite only calm calls are made, and none of them restores.
  have huntouched : ∀ {α : Type} {m : RestoreSteps α} {l : RestoreLocals} {w : Revival},
      RWithin (fun k => k.Calm ∧ ∀ snap, k ≠ .restic (.restore snap)) m →
      m.Keeps (RestoreLocals.Failing false) → l.Failing false → w.Untouched →
      m.Always (reviving req) Revival.Untouched (fun _ l' _ => l'.Failing false ∧ True) l w := by
    intro α m l w hm hkeeps hl hw
    exact ((hm.always (fun _ _ _ _ hk hI hs => untouched_serve hk hI hs) hw).mono
      fun _ _ _ _ _ => trivial).returning (hkeeps l hl)
  have hover : ∀ {l : RestoreLocals} {w : Revival}, l.Failing false → w.Untouched → Tried req l w :=
    fun hl hw => .inl (unfinished_of_early hl hw.toEarly fun _ => hw.overwritten)
  have hsound : ∀ w : Revival, w.Untouched → w.Sound := fun w hw => hw.toEarly.sound
  have hlook : Kind.look.Calm ∧ ∀ snap, Kind.look ≠ .restic (.restore snap) :=
    ⟨calm_look.1, by simp⟩
  unfold RestoreRequest.body
  rw [Routine.always_bind]
  refine (huntouched (req.quiesce_within hlook ⟨⟨by simp, by simp, id⟩, by simp⟩)
    (req.quiesce_keeps (failing_kept false)) hl h).imp hsound fun r l₁ w₁ h₁ hr => ?_
  obtain ⟨hl₁, -⟩ := hr
  cases r with
  | error e => exact hover hl₁ h₁
  | ok rests =>
    rw [Routine.onOk_ok, Routine.always_ite]
    refine ⟨fun _ => ⟨hsound _ h₁, hover hl₁ h₁⟩, fun _ => ?_⟩
    rw [Routine.always_bind]
    have hrepo : Within (fun k => k.Calm ∧ ∀ snap, k ≠ .restic (.restore snap))
        (ensureRepo req.settings) := by
      refine ensureRepo_within ?_ ?_ ?_
      all_goals exact ⟨(calm_restic _).1, by simp⟩
    refine (huntouched (lift_within hrepo) Routine.keeps_lift hl₁ h₁).imp hsound
      fun r l₂ w₂ h₂ hr => ?_
    obtain ⟨hl₂, -⟩ := hr
    cases r with
    | error e => exact hover hl₂ h₂
    | ok u =>
      rw [Routine.onOk_ok, Routine.always_ite]
      refine ⟨fun _ => ?_, fun _ => ?_⟩
      · rw [Routine.always_bind, Routine.always_assign]
        exact ⟨hsound _ h₂, hsound _ h₂, hover ((failing_kept false).fail _ _ hl₂) h₂⟩
      rw [Routine.always_bind]
      refine (huntouched (lift_within (backupMounts_within hlook ⟨calm_exists _, by simp⟩))
        Routine.keeps_lift hl₂ h₂).imp hsound fun r l₃ w₃ h₃ hr => ?_
      obtain ⟨hl₃, -⟩ := hr
      cases r with
      | error e => exact hover hl₃ h₃
      | ok mounts =>
        rw [Routine.onOk_ok, Routine.always_bind]
        have hsafety : RWithin (fun k => k.Calm ∧ ∀ snap, k ≠ .restic (.restore snap))
            (req.takeSafety mounts) := by
          refine req.takeSafety_within ⟨(calm_restic _).1, by simp⟩ fun safetyId => ?_
          refine ⟨⟨by simp, by simp, fun hclaims => ?_⟩, by simp⟩
          cases hclaims.1
        refine (huntouched hsafety (req.takeSafety_keeps (failing_kept false)) hl₃ h₃).imp hsound
          fun r l₄ w₄ h₄ hr => ?_
        obtain ⟨hl₄, -⟩ := hr
        cases r with
        | error e => exact hover hl₄ h₄
        | ok done =>
          rw [Routine.onOk_ok, Routine.always_ite]
          exact ⟨fun _ => overwrite_order req hl₄.1 h₄.toEarly, fun _ => ⟨hsound _ h₄, hover hl₄ h₄⟩⟩

/-- A handler keeps the outcome: it names an error, and leaves the status. -/
theorem handler_order {e : JobError} (h : Tried req l w) :
    (RestoreRequest.handler e).Always (reviving req) Revival.Sound
      (fun _ l' w' => Tried req l' w') l w := by
  have hnamed : ∀ l' : RestoreLocals, l'.payload.status = l.payload.status →
      l'.payload.alreadyRunning = l.payload.alreadyRunning → l'.dbStarted = l.dbStarted →
      l'.overwriteStarted = l.overwriteStarted → Tried req l' w := by
    intro l' hstatus hrunning hdb hover
    have hclaims : l'.payload.ClaimsRunning ↔ l.payload.ClaimsRunning := by
      rw [RestorePayload.ClaimsRunning, hstatus, hrunning, RestorePayload.ClaimsRunning]
    rcases h with h | h
    · refine .inl ⟨h.lastStart, h.violated, fun hc => h.claims (hclaims.mp hc), ?_, ?_⟩
      · rw [hdb, hstatus]
        exact h.started
      · rw [hover]
        exact h.overwritten
    · exact .inr { h with claims := hclaims.mpr h.claims }
  cases e <;> exact ⟨tried_sound req h, hnamed _ rfl rfl rfl rfl⟩

end Job

/-! ## The end of the job -/

/-- What the cleanup leaves when the instance is not back: the services are stopped, if
they were started. -/
structure Closed (w : Revival) : Prop where
  lastStart : w.lastStart = none
  violated : w.violated = false
  stopped : w.dbStarted = true → w.stopped = true

/-- What it leaves after a last start that has exited with `code`. -/
structure Left (req : RestoreRequest) (code : Int) (w : Revival) : Prop where
  lastStart : w.lastStart = some code
  allRestored : req.AllRestored w
  dbStarted : w.dbStarted = true
  stopped : w.stopped = false
  violated : code = 0 → w.violated = false

theorem Closed.sound {w : Revival} (h : Closed w) : w.Sound := fun _ => h.violated

theorem Left.sound {req : RestoreRequest} {code : Int} {w : Revival}
    (h : Left req code w) : w.Sound :=
  fun hwell => h.violated (hwell code h.lastStart)

theorem eq_releaseLock {c : BackupCall} (h : c.kind = .release) : c = .releaseLock := by
  cases c with
  | releaseLock => rfl
  | start child => cases child <;> cases h
  | await child => cases child <;> cases h
  | kill child => cases child <;> cases h
  | _ => cases h

section End
variable {req : RestoreRequest} {w w' : Revival} {c : BackupCall} {r : Raises Answer JobError c}

theorem serve_release (hk : c.kind = .release) (hs : (reviving req).serve w c r w') :
    w' = { w with violated := w.violated || decide (¬ req.Settled w) } := by
  obtain rfl := eq_releaseLock hk
  obtain ⟨code, rfl⟩ := hs
  cases r <;> rfl

theorem serve_claims (hk : c.kind.ClaimsRunning) (hs : (reviving req).serve w c r w') :
    ∃ p, w' = w.report p := by
  obtain ⟨code, rfl⟩ := hs
  cases c with
  | writeText file content =>
    cases content with
    | marker id => exact hk.elim
    | state p => exact ⟨p, rfl⟩
  | post i result =>
    cases result with
    | backup p => exact hk.elim
    | restore p => exact ⟨p, rfl⟩
  | start child => cases child <;> exact hk.elim
  | await child => cases child <;> exact hk.elim
  | kill child => cases child <;> exact hk.elim
  | _ => exact hk.elim

theorem closed_serve (hup : ¬ c.kind.Ups) (hclaims : ¬ c.kind.ClaimsRunning)
    (h : Closed w) (hs : (reviving req).serve w c r w') : Closed w' := by
  by_cases hrelease : c.kind = .release
  · obtain rfl := serve_release hrelease hs
    have hsettled : req.Settled w := fun hdb => .inl (h.stopped hdb)
    exact ⟨h.lastStart, by simp [h.violated, hsettled], h.stopped⟩
  · have hdrift := reviving_drift hup hrelease hclaims hs
    refine ⟨hdrift.lastStart.trans h.lastStart, hdrift.violated.trans h.violated, fun hdb => ?_⟩
    exact hdrift.halted (h.stopped (hdrift.dbStarted ▸ hdb))

theorem left_serve {code : Int} (hup : ¬ c.kind.Ups) (hstop : ¬ c.kind.Stops)
    (h : Left req code w) (hs : (reviving req).serve w c r w') : Left req code w' := by
  have hzero : code = 0 → w.lastStart = some 0 := fun hcode => hcode ▸ h.lastStart
  by_cases hrelease : c.kind = .release
  · obtain rfl := serve_release hrelease hs
    refine ⟨h.lastStart, h.allRestored, h.dbStarted, h.stopped, fun hcode => ?_⟩
    have hsettled : req.Settled w := fun _ => .inr ⟨h.allRestored, hzero hcode⟩
    simp [h.violated hcode, hsettled]
  · by_cases hclaims : c.kind.ClaimsRunning
    · obtain ⟨p, rfl⟩ := serve_claims hclaims hs
      refine ⟨h.lastStart, h.allRestored, h.dbStarted, h.stopped, fun hcode => ?_⟩
      simp [Revival.report, h.violated hcode, hzero hcode]
    · have hdrift := reviving_drift hup hrelease hclaims hs
      exact ⟨hdrift.lastStart.trans h.lastStart,
        fun a ha => hdrift.restored _ (h.allRestored a ha), hdrift.dbStarted.trans h.dbStarted,
        (hdrift.stopped (.inl hstop)).trans h.stopped,
        fun hcode => hdrift.violated.trans (h.violated hcode)⟩

/-- How the job ends. -/
def Over (req : RestoreRequest) (w : Revival) : Prop := Closed w ∨ ∃ code, Left req code w

/-- **A restore that is over is in order exactly when its last start exited well.** -/
theorem over_iff (h : Over req w) :
    (w.violated = false ∧ req.Settled w) ↔ w.StartedWell := by
  rcases h with h | ⟨code, h⟩
  · refine ⟨fun _ code hcode => ?_, fun _ => ⟨h.violated, fun hdb => .inl (h.stopped hdb)⟩⟩
    rw [h.lastStart] at hcode
    cases hcode
  · constructor
    · intro ⟨_, hsettled⟩ code' hcode'
      rcases hsettled h.dbStarted with hstopped | ⟨_, hzero⟩
      · rw [h.stopped] at hstopped
        cases hstopped
      · exact Option.some.inj (hcode'.symm.trans hzero)
    · intro hwell
      obtain rfl := hwell code h.lastStart
      exact ⟨h.violated rfl, fun _ => .inr ⟨h.allRestored, h.lastStart⟩⟩

end End

section Cleanup
variable (req : RestoreRequest) {l : RestoreLocals} {w : Revival}

/-- **The teardown attempts a stop**, whatever becomes of it. -/
theorem teardown_order (hstart : w.lastStart = none) (hviolated : w.violated = false) :
    req.teardown.Always (reviving req) Revival.Sound (fun _ w' => Closed w') w := by
  have hclosed : ∀ {α : Type} {m : Job α} {w : Revival},
      Within (fun k => ¬ k.Ups ∧ ¬ k.ClaimsRunning) m → Closed w →
      m.Always (reviving req) Closed (fun _ _ => True) w := by
    intro α m w hm hw
    exact (hm.always (fun _ _ _ _ hk hI hs => closed_serve hk.1 hk.2 hI hs) hw).mono
      fun _ _ _ _ => trivial
  unfold RestoreRequest.teardown
  rw [Action.always_bind]
  refine ⟨fun _ => hviolated, fun r w₁ hs => ?_⟩
  have h₁ : Closed w₁ := by
    obtain ⟨code, rfl⟩ := hs
    refine ⟨hstart, hviolated, fun hdb => ?_⟩
    have hdb' : w.dbStarted = true := hdb
    simp [Revival.after, hdb']
  refine ⟨h₁.sound, ?_⟩
  cases r with
  | error e => exact h₁
  | ok u =>
    have htrack : Within (fun k => ¬ k.Ups ∧ ¬ k.ClaimsRunning)
        (call (.trackComposeChild req.instanceId)) := call_within ⟨by simp [BackupCall.kind], id⟩
    have hwait : Within (fun k => ¬ k.Ups ∧ ¬ k.ClaimsRunning)
        (waitStopped req.instanceId req.settings.backupStopTimeoutSeconds true) :=
      waitStopped_within ⟨by simp, id⟩
    have hrest : Within (fun k => ¬ k.Ups ∧ ¬ k.ClaimsRunning) (do
        call (.trackComposeChild req.instanceId)
        let _ ← waitStopped req.instanceId req.settings.backupStopTimeoutSeconds true) :=
      htrack.bind fun _ => hwait.bind fun _ => Action.uses_pure _
    exact (hclosed hrest h₁).imp (fun w hw => hw.sound) fun _ _ hw _ => hw

/-- **The cleanup** restarts what nothing has touched, and stops what the database phase
has left. -/
theorem cleanup_order {started : Bool} (h : Tried req l w) :
    (req.cleanup started).Always (reviving req) Revival.Sound
      (fun _ l' w' => l' = l ∧ (Closed w' ∧ ¬ l.payload.ClaimsRunning ∨ ∃ code, Left req code w'))
      l w := by
  have hwrite : Within (· = .write req.stateFile (.state l.payload))
      (writeJson req.stateFile (.state l.payload)) := writeJson_within rfl
  have hclosed : ∀ w : Revival, Closed w → ¬ l.payload.ClaimsRunning →
      (writeJson req.stateFile (.state l.payload) : RestoreSteps Unit).Always (reviving req)
        Revival.Sound (fun _ l' w' => l' = l ∧
          (Closed w' ∧ ¬ l.payload.ClaimsRunning ∨ ∃ code, Left req code w')) l w := by
    intro w hw hclaims
    rw [Routine.always_monadLift]
    refine (hwrite.always (I := Closed) (fun w c r w' hk hI hs => ?_) hw).imp
      (fun w hw => hw.sound) fun _ _ _ hw => ⟨rfl, .inl ⟨hw, hclaims⟩⟩
    exact closed_serve (by simp [hk]) (by rw [hk]; exact hclaims) hI hs
  unfold RestoreRequest.cleanup
  rw [Routine.always_bind, Routine.always_locals]
  refine ⟨tried_sound req h, ?_⟩
  dsimp only [Routine.onOk]
  rw [Routine.always_ite]
  rcases h with h | h
  · constructor
    · -- the restart: nothing was overwritten, and no database service was started
      intro hguard
      simp only [Bool.and_eq_true, Bool.not_eq_true', bne_iff_ne, ne_eq] at hguard
      obtain ⟨hover, hdb⟩ := h.overwritten hguard.1.2
      rw [Routine.always_bind, Routine.always_monadLift, Action.always_outcome]
      refine ⟨fun _ => h.violated, fun r w' hs => ?_⟩
      have hclosed' : Closed w' := by
        have hstart : ∀ answered code, Closed (w.startAll req answered code) := by
          intro answered code
          refine ⟨?_, ?_, fun hx => ?_⟩
          · simp [Revival.startAll, hdb, h.lastStart]
          · simp [Revival.startAll, hdb, hover, h.violated]
          · simp [Revival.startAll, hdb] at hx
        obtain ⟨code, rfl⟩ := hs
        cases r <;> exact hstart _ _
      exact ⟨hclosed'.sound, hclosed w' hclosed' h.claims⟩
    · intro _
      rw [Routine.always_ite]
      constructor
      · -- the stop, however it ends
        intro _
        rw [Routine.always_bind, Routine.always_monadLift, Action.always_outcome]
        exact (teardown_order req h.lastStart h.violated).mono fun r w' _ hw =>
          hclosed w' hw h.claims
      · intro hguard
        refine hclosed w ⟨h.lastStart, h.violated, fun hstarted => ?_⟩ h.claims
        obtain ⟨hknown, hstatus⟩ := h.started hstarted
        simp [hknown, hstatus] at hguard
  · have hsuccess : l.payload.status = .success := h.claims.1
    simp only [hsuccess, bne_self_eq_false, Bool.and_false, Bool.false_eq_true, if_false,
      false_implies, not_false_eq_true, true_implies, true_and]
    obtain ⟨code, hcode⟩ := h.lastStart
    rw [Routine.always_monadLift]
    have hleft : Left req code w := ⟨hcode, h.allRestored, h.dbStarted, h.stopped, fun _ => h.violated⟩
    refine (hwrite.always (I := Left req code) (fun w c r w' hk hI hs => ?_) hleft).imp
      (fun w hw => hw.sound) fun _ _ _ hw => ⟨rfl, .inr ⟨code, hw⟩⟩
    exact left_serve (by simp [hk]) (by simp [hk]) hI hs

/-- **The report** claims what the cleanup has left. -/
theorem report_order {release : Bool}
    (h : Closed w ∧ ¬ l.payload.ClaimsRunning ∨ ∃ code, Left req code w) :
    (req.report release).Always (reviving req) Revival.Sound (fun _ _ w' => Over req w') l w := by
  rcases h with ⟨h, hclaims⟩ | ⟨code, h⟩
  · have huses : (req.report release l).Uses
        fun c => ¬ c.kind.Ups ∧ ¬ c.kind.ClaimsRunning :=
      req.report_uses (K := fun k => ¬ k.Ups ∧ ¬ k.ClaimsRunning) l ⟨by simp, id⟩ ⟨by simp, id⟩
        ⟨by simp, id⟩ ⟨by simp, hclaims⟩ ⟨by simp, id⟩
    exact (huses.always (I := Closed) (fun _ _ _ _ hk hI hs => closed_serve hk.1 hk.2 hI hs) h).imp
      (fun w hw => hw.sound) fun _ _ _ hw => .inl hw
  · have huses : (req.report release l).Uses
        fun c => ¬ c.kind.Ups ∧ ¬ c.kind.Stops :=
      req.report_uses (K := fun k => ¬ k.Ups ∧ ¬ k.Stops) l ⟨by simp, by simp⟩
        ⟨by simp, by simp⟩ ⟨by simp, by simp⟩ ⟨by simp, by simp⟩ ⟨by simp, by simp⟩
    exact (huses.always (I := Left req code) (fun _ _ _ _ hk hI hs => left_serve hk.1 hk.2 hI hs) h).imp
      (fun w hw => hw.sound) fun _ _ _ hw => .inr ⟨code, hw⟩

theorem finally_order {started release : Bool} (h : Tried req l w) :
    (do req.cleanup started; req.report release : RestoreSteps Unit).Always (reviving req)
      Revival.Sound (fun _ _ w' => Over req w') l w := by
  rw [Routine.always_bind]
  refine (cleanup_order req h).mono fun r l₁ w₁ _ hr => ?_
  obtain ⟨rfl, hleft⟩ := hr
  cases r with
  | error e => exact hleft.imp_left And.left
  | ok u => exact report_order req hleft

end Cleanup

/-! ## When a restore keeps the order -/

/-- The request that the job works with. -/
def restoreRequest (settings : Settings) (instanceId resticSnapshotId restoreId : String)
    (destination : Option Destination) (manifest volumeClasses : Option (List (String × String))) :
    RestoreRequest :=
  ⟨effectiveSettings settings destination instanceId, instanceId, resticSnapshotId, restoreId,
    manifest, volumeClasses⟩

section Restore
variable (settings : Settings) (instanceId resticSnapshotId restoreId : String)
  (destination : Option Destination) (manifest volumeClasses : Option (List (String × String)))
  (releaseLock : Bool) (l : RestoreLocals)

/-- **The whole job**, in any environment. -/
theorem restoreInstance_order {w : Revival} (h : w.Untouched) :
    let req := restoreRequest settings instanceId resticSnapshotId restoreId destination manifest
      volumeClasses
    (restoreInstance settings instanceId resticSnapshotId restoreId destination manifest
      volumeClasses releaseLock).Always (reviving req) Revival.Sound (fun _ _ w' => Over req w')
      l w := by
  intro req
  have hover : ∀ {w : Revival}, w.Untouched → Over req w := by
    intro w hw
    refine .inl ⟨hw.lastStart, hw.violated, fun hdb => ?_⟩
    rw [hw.dbStarted] at hdb
    cases hdb
  have hlook : Within (fun k => k.Calm ∧ ∀ snap, k ≠ .restic (.restore snap))
      (getStatus instanceId) := getStatus_within ⟨calm_look.1, by simp⟩
  unfold restoreInstance
  rw [Routine.always_bind, Routine.always_assign]
  refine ⟨h.toEarly.sound, ?_⟩
  rw [Routine.onOk_ok, Routine.always_bind, Routine.always_monadLift]
  refine (hlook.always (I := Revival.Untouched)
    (fun _ _ _ _ hk hI hs => untouched_serve hk hI hs) h).imp
    (fun w hw => hw.toEarly.sound) fun r w₁ h₁ _ => ?_
  cases r with
  | error e => exact hover h₁
  | ok st =>
    rw [Routine.onOk_ok, Routine.always_tryFinally, Routine.always_tryExcept]
    have hfailing : RestoreLocals.Failing false { payload :=
        { restoreId := restoreId, status := .failed, errorCode := some .restoreFailed } } :=
      ⟨by simp, rfl⟩
    refine (body_order _ hfailing h₁).mono fun r l₂ w₂ _ htried => ?_
    cases r with
    | error e =>
      refine (handler_order _ htried).mono fun r l₃ w₃ _ htried' => ?_
      refine (finally_order _ htried').mono fun r' l₄ w₄ _ hdone => ?_
      cases r' <;> exact hdone
    | ok u =>
      refine (finally_order _ htried).mono fun r' l₄ w₄ _ hdone => ?_
      cases r' <;> exact hdone

/-- **A database restore keeps its order exactly when its last start exits well.**  As long
as the last start, if it was issued and ran to its end, exited with 0: the whole instance is
started only after every artifact was restored with both ends at 0, no success that needs
no start is reported without it, and the lock is not given back over services that were
neither brought back nor told to stop.  A job that is over and has kept this order has seen
its last start exit with 0, if there was one. -/
theorem db_restore_order :
    (∀ w' q,
      Run (reviving (restoreRequest settings instanceId resticSnapshotId restoreId destination
          manifest volumeClasses)) {}
        (restoreInstance settings instanceId resticSnapshotId restoreId destination manifest
          volumeClasses releaseLock l) w' q →
      w'.StartedWell → w'.violated = false) ∧
    ∀ w' r,
      Run (reviving (restoreRequest settings instanceId resticSnapshotId restoreId destination
          manifest volumeClasses)) {}
        (restoreInstance settings instanceId resticSnapshotId restoreId destination manifest
          volumeClasses releaseLock l) w' (.pure r) →
      ((w'.violated = false ∧
          (restoreRequest settings instanceId resticSnapshotId restoreId destination manifest
            volumeClasses).Settled w') ↔
        w'.StartedWell) := by
  have hfresh : ({} : Revival).Untouched := ⟨⟨rfl, rfl, rfl, rfl⟩, rfl⟩
  have hall := restoreInstance_order settings instanceId resticSnapshotId restoreId destination
    manifest volumeClasses releaseLock l hfresh
  constructor
  · intro w' q run
    exact (Prog.always_iff_runs.mp hall w' q run).1
  · intro w' r run
    exact over_iff (Prog.Always.at_return (Q := fun _ w' => Over _ w') hall run)

end Restore

/-- A database service that is healthy and can be restored. -/
def readyDatabase : Container :=
  { id := "c1", name := "i-db-1",
    labels := [("com.docker.compose.service", "db"), ("com.greffon.backup.restore", "pg_restore")],
    status := "running", stateStatus := some "running", exitCode := none,
    policyName := some "always", health := some "healthy", volumeMounts := [] }

/-- An evening on which every command succeeds, except that start commands exit with
`code`. -/
def evening (req : RestoreRequest) (code : Int) (w : Revival) (c : BackupCall) :
    Raises Answer JobError c × Revival :=
  let answer : Raises Answer JobError c :=
    match c with
    | .listInstanceContainers _ => .ok [readyDatabase]
    | c => c.eventless
  (answer, w.after req code c answer)

/-- A restore of one database. -/
def oneDatabase : RestoreRequest :=
  restoreRequest ownRepository "i" "snap" "r" none (some [("db:db", "dump")])
    (some [("i_pg", "db-service")])

def restoreOneDatabase : Prog (Raises Answer JobError) (Except JobError Unit × RestoreLocals) :=
  restoreInstance ownRepository "i" "snap" "r" none (some [("db:db", "dump")])
    (some [("i_pg", "db-service")]) true { payload := { restoreId := "r", status := .failed } }

theorem reviving_evening (req : RestoreRequest) (code : Int) (w : Revival) (c : BackupCall) :
    (reviving req).serve w c (evening req code w c).1 (evening req code w c).2 := ⟨code, rfl⟩

/-- With a last start that exits with 0 the database is back, and the success is true. -/
theorem db_restore_order_succeeds : ∃ w' r,
    Run (reviving oneDatabase) {} restoreOneDatabase w' (.pure r) ∧ w'.lastStart = some 0 ∧
      w'.violated = false ∧ oneDatabase.Settled w' := by
  refine ⟨_, _, Prog.run_evalFor (h := evening oneDatabase 0) (reviving_evening _ _) 40 _ _,
    by rfl, ?_⟩
  refine ((db_restore_order ownRepository "i" "snap" "r" none (some [("db:db", "dump")])
    (some [("i_pg", "db-service")]) true { payload := { restoreId := "r", status := .failed } }).2 _ _
    (Prog.run_evalFor (h := evening oneDatabase 0) (reviving_evening _ _) 40 _ _)).mpr ?_
  intro code hcode
  exact (Option.some.inj hcode).symm

/-- **A last start that fails is a success all the same**: the instance is reported as
running, and nothing is stopped. -/
theorem failed_start_reported_running : ∃ w' r,
    Run (reviving oneDatabase) {} restoreOneDatabase w' (.pure r) ∧ w'.lastStart = some 1 ∧
      w'.stopped = false ∧ w'.violated = true :=
  ⟨_, _, Prog.run_evalFor (h := evening oneDatabase 1) (reviving_evening _ _) 40 _ _,
    by rfl, by rfl, by rfl⟩

end Greffer.Backup

import Greffer.Backup.Footprints

/-! # The pointer to the safety snapshot

What `restore_status` can say of a restore, at every point at which the greffer
may be stopped.  From the start of the first command that overwrites data until
the manager's acknowledgement **the state file is the only thing that names the
safety snapshot**: it is written before the overwrite, rewritten with the result,
and removed once the result is acknowledged.

Two things are proved and then put together.  Along the overwrite the file is not
touched at all, whatever else happens (a frame).  And whatever ends the overwrite —
a `return`, an exception, success — the payload that is then written names the
snapshot the first write named (`Ends`).  What is left are the writes themselves,
and the id that restic reports: the conditions of `KeepsPointer`.
-/
namespace Greffer.Backup
open Effects

/-- What is on disk under the name of the state file. -/
inductive StateFile where
  | absent
  | holds (payload : RestorePayload)
  /-- What a write left behind that did not end: no JSON. -/
  | damaged

/-- What `restore_status` returns. -/
inductive RestoreStatus where
  /-- `{"status": "unknown"}`. -/
  | unknown
  | payload (p : RestorePayload)

/-- `restore_status`. -/
def restoreStatus : StateFile → RestoreStatus
  | .absent => .unknown
  | .damaged => .unknown
  | .holds p => .payload p

/-- The state file of one restore; whether a command that overwrites data has been
started; whether the manager has acknowledged the result. -/
structure Disk where
  file : StateFile
  overwriting : Bool := false
  acked : Bool := false

/-- `restic restore`, or a database's restore command. -/
def Child.overwrites : Child → Bool
  | .restic ⟨_, .restore _, _, _⟩ => true
  | .restic _ => false
  | .dockerExec _ _ _ => true

/-- What the calls do to the file.  **A write that does not succeed leaves it as it
was, or damaged**; a crash during a write is such a step, and the last one. -/
def disk (stateFile : FileRef) : Machine (Raises Answer JobError) Disk where
  serve w c r w' :=
    match c, r with
    | .writeText file (.state p), .ok () =>
      w' = if file = stateFile then { w with file := .holds p } else w
    | .writeText file (.state _), .error _ =>
      w' = w ∨ file = stateFile ∧ w' = { w with file := .damaged }
    | .unlink file, .ok () => w' = if file = stateFile then { w with file := .absent } else w
    | .start child, .ok () => w' = { w with overwriting := w.overwriting || child.overwrites }
    | .post _ _, .ok status =>
      w' = { w with acked := w.acked || decide (200 ≤ status ∧ status < 300) }
    | _, _ => w' = w

/-- The steps that keep the pointer: restic names the safety snapshot it has taken;
the write before the overwrite does not fail with an `OSError`, which would be
swallowed; and no write damages the file once the overwrite has begun. -/
def KeepsPointer (instanceId : String) (stateFile : FileRef) (w : Disk) (c : BackupCall)
    (r : Raises Answer JobError c) (w' : Disk) : Prop :=
  match c, r with
  | .await (.restic run), .ok ended =>
    run.command = .backup (safetyTag instanceId) → ended.returncode = 0 →
      ∀ summary, parseSummary ended.stdout = .ok summary → summary.1 ≠ ""
  | .writeText file (.state p), r => file = stateFile →
    (p.status = .overwriting → ∀ text, r ≠ .error (.raised (.osError text))) ∧
    (w.overwriting = true → ∀ e, r = .error e → w' = w)
  | _, _ => True

/-- The environment all of whose steps keep the pointer. -/
abbrev keeping (instanceId : String) (stateFile : FileRef) :
    Machine (Raises Answer JobError) Disk :=
  (disk stateFile).restrict (KeepsPointer instanceId stateFile)

/-! ## What a step does -/

/-- The kinds of calls that touch the file. -/
def Kind.touches (stateFile : FileRef) : Kind → Prop
  | .write file _ => file = stateFile
  | .unlink file => file = stateFile
  | _ => False

/-- The kinds of calls that overwrite data. -/
def Kind.overwrites : Kind → Prop
  | .restic (.restore _) => True
  | .exec => True
  | _ => False

section Steps
variable {stateFile : FileRef} {w w' : Disk} {c : BackupCall} {r : Raises Answer JobError c}

theorem disk_file (hs : (disk stateFile).serve w c r w') (hkind : ¬ c.kind.touches stateFile) :
    w'.file = w.file := by
  cases c with
  | writeText file content =>
    have hother : file ≠ stateFile := hkind
    cases content with
    | marker b => rw [show w' = w from hs]
    | state p =>
      cases r with
      | ok u => rw [show w' = _ from hs, if_neg hother]
      | error e =>
        rcases (hs : w' = w ∨ _) with rfl | ⟨rfl, -⟩
        · rfl
        · exact absurd rfl hother
  | unlink file =>
    cases r with
    | ok u => rw [show w' = _ from hs, if_neg (show file ≠ stateFile from hkind)]
    | error e => rw [show w' = w from hs]
  | start child => cases r <;> rw [show w' = _ from hs]
  | post i result => cases r <;> rw [show w' = _ from hs]
  | _ => rw [show w' = w from hs]

theorem disk_overwriting (hs : (disk stateFile).serve w c r w') (hkind : ¬ c.kind.overwrites) :
    w'.overwriting = w.overwriting := by
  cases c with
  | writeText file content =>
    cases content with
    | marker b => rw [show w' = w from hs]
    | state p =>
      cases r with
      | ok u =>
        rw [show w' = _ from hs]
        split <;> rfl
      | error e => rcases (hs : w' = w ∨ _) with rfl | ⟨-, rfl⟩ <;> rfl
  | unlink file =>
    cases r with
    | ok u =>
      rw [show w' = _ from hs]
      split <;> rfl
    | error e => rw [show w' = w from hs]
  | start child =>
    cases r with
    | ok u =>
      have hno : child.overwrites = false := by
        match child with
        | .restic ⟨_, command, _, _⟩ =>
          cases command with
          | restore snap => exact absurd trivial hkind
          | _ => rfl
        | .dockerExec _ _ _ => exact absurd trivial hkind
      rw [show w' = _ from hs, hno]
      exact Bool.or_false _
    | error e => rw [show w' = w from hs]
  | post i result => cases r <;> rw [show w' = _ from hs]
  | _ => rw [show w' = w from hs]

theorem disk_acked (hs : (disk stateFile).serve w c r w') (h : w.acked = true) :
    w'.acked = true := by
  cases c with
  | writeText file content =>
    cases content with
    | marker b => rwa [show w' = w from hs]
    | state p =>
      cases r with
      | ok u =>
        rw [show w' = _ from hs]
        split <;> exact h
      | error e => rcases (hs : w' = w ∨ _) with rfl | ⟨-, rfl⟩ <;> exact h
  | unlink file =>
    cases r with
    | ok u =>
      rw [show w' = _ from hs]
      split <;> exact h
    | error e => rwa [show w' = w from hs]
  | start child => cases r <;> rwa [show w' = _ from hs]
  | post i result =>
    cases r with
    | ok status =>
      rw [show w' = _ from hs, h]
      rfl
    | error e => rwa [show w' = w from hs]
  | _ => rwa [show w' = w from hs]

end Steps

/-! ## The variables along the overwrite -/

/-- The payload names the safety snapshot. -/
def RestoreLocals.Named (l : RestoreLocals) : Prop :=
  l.payload.safetyResticSnapshotId = some l.safetyId

theorem RestoreLocals.failWithSafety_named (code : ErrorCode) (l : RestoreLocals) :
    (l.failWithSafety code).Named := rfl

theorem RestoreLocals.succeed_named (running : Bool) (l : RestoreLocals) :
    (l.succeed running).Named := rfl

/-- A block ended: it left the id alone, and if it ended the job (`done`) the payload
names the snapshot. -/
def Ends {α : Type} (done : α → Prop) (id : String) (r : Except JobError α)
    (l : RestoreLocals) : Prop :=
  l.safetyId = id ∧ ∀ a, r = .ok a → done a → l.Named

theorem Ends.error {α : Type} {done : α → Prop} {id : String} {e : JobError} {l : RestoreLocals}
    (h : l.safetyId = id) : Ends done id (.error e) l := ⟨h, fun _ hx => by cases hx⟩

theorem Ends.ok {α : Type} {done : α → Prop} {id : String} {a : α} {l : RestoreLocals}
    (h : l.safetyId = id) (hnamed : done a → l.Named) : Ends done id (.ok a) l :=
  ⟨h, fun _ hx hdone => hnamed (by cases hx; exact hdone)⟩

section Blocks
variable (req : RestoreRequest) {l : RestoreLocals}

/-- The judgement of the variables at the end of a block. -/
abbrev EndsWith {α : Type} (done : α → Prop) (m : RestoreSteps α) (l : RestoreLocals) : Prop :=
  m.Returns (Ends done l.safetyId) l

theorem endsWith_lift {α β : Type} {m : Job β} {f : β → RestoreSteps α} {done : α → Prop}
    (h : ∀ b, EndsWith done (f b) l) : EndsWith done ((monadLift m : RestoreSteps β) >>= f) l := by
  rw [EndsWith, Routine.returns_bind]
  refine Routine.returns_lift_of ?_
  rintro (e | b)
  · exact Ends.error rfl
  · exact h b

theorem endsWith_bind {α β : Type} {m : RestoreSteps β} {f : β → RestoreSteps α}
    {ends : β → Prop} {done : α → Prop} (hm : EndsWith ends m l)
    (hf : ∀ b l', l'.safetyId = l.safetyId → (ends b → l'.Named) → EndsWith done (f b) l') :
    EndsWith done (m >>= f) l := by
  rw [EndsWith, Routine.returns_bind]
  refine hm.mono ?_
  rintro (e | b) l' ⟨hid, hnamed⟩
  · exact Ends.error hid
  · refine (hf b l' hid (hnamed b rfl)).mono fun r l'' hends => ?_
    exact ⟨hends.1.trans hid, hends.2⟩

/-- A block that ends the job by a failure after the safety snapshot. -/
theorem endsWith_fail {α : Type} {done : α → Prop} (code : ErrorCode) (a : α) :
    EndsWith done (do Routine.assign (RestoreLocals.failWithSafety code); pure a) l :=
  Ends.ok rfl fun _ => l.failWithSafety_named code

theorem endsWith_pure {α : Type} {done : α → Prop} {a : α} (h : done a → l.Named) :
    EndsWith done (pure a) l := Ends.ok rfl h

theorem dataMounts_ends {mounts : List Mount} :
    EndsWith (· = none) (req.dataMounts mounts) l := by
  unfold RestoreRequest.dataMounts
  split
  · exact endsWith_pure fun h => by cases h
  refine endsWith_lift fun mounts => endsWith_lift fun vols => ?_
  split
  · exact endsWith_fail _ _
  · exact endsWith_pure fun h => by cases h

theorem overwriteData_ends {mounts : List Mount} :
    EndsWith (· = false) (req.overwriteData mounts) l := by
  unfold RestoreRequest.overwriteData
  split
  · exact endsWith_pure fun h => by cases h
  refine endsWith_lift fun ended => ?_
  split
  · exact endsWith_fail _ _
  · exact endsWith_pure fun h => by cases h

theorem restoreDumps_ends (artifacts : List (String × String)) (l : RestoreLocals) :
    EndsWith (· = false) (req.restoreDumps artifacts) l := by
  induction artifacts generalizing l with
  | nil => exact endsWith_pure fun h => by cases h
  | cons artifact rest ih =>
    obtain ⟨service, snapshot⟩ := artifact
    refine endsWith_lift fun healthy => ?_
    split
    · exact endsWith_fail _ _
    refine endsWith_lift fun hook => ?_
    cases hook with
    | none => exact endsWith_fail _ _
    | some hook => exact endsWith_lift fun _ => ih l

/-- **However the databases end, the payload names the snapshot.** -/
theorem restoreDatabases_ends : EndsWith (fun _ => True) req.restoreDatabases l := by
  unfold RestoreRequest.restoreDatabases
  split
  · exact Ends.ok rfl fun _ => l.succeed_named false
  rw [EndsWith, Routine.returns_bind, Routine.returns_assign]
  refine endsWith_lift (l := { l with dbStarted := true }) fun _ => ?_
  refine endsWith_bind (restoreDumps_ends req _ _) fun done l' hid hnamed => ?_
  cases done with
  | false => exact endsWith_pure fun _ => hnamed rfl
  | true => exact endsWith_lift fun _ => Ends.ok rfl fun _ => l'.succeed_named true

/-- **However the overwrite ends, the payload names the snapshot**, or an exception is
on its way to the handler, which names it. -/
theorem overwrite_ends {mounts : List Mount} :
    EndsWith (fun _ => True) (req.overwrite mounts) l := by
  unfold RestoreRequest.overwrite
  rw [EndsWith, Routine.returns_bind, Routine.returns_assign]
  refine endsWith_bind (l := { l with overwriteStarted := true }) (dataMounts_ends req)
    fun mounts l₁ hid hnamed => ?_
  cases mounts with
  | none => exact endsWith_pure fun _ => hnamed rfl
  | some mounts =>
    refine endsWith_bind (overwriteData_ends req) fun done l₂ _ hnamed => ?_
    cases done with
    | false => exact endsWith_pure fun _ => hnamed rfl
    | true =>
      refine endsWith_bind (restoreDatabases_ends req) fun done l₃ _ hnamed => ?_
      cases done with
      | false => exact endsWith_pure fun _ => hnamed trivial
      | true =>
        refine Routine.returns_lift_of ?_
        rintro (e | ⟨⟩)
        · exact Ends.error rfl
        · exact Ends.ok rfl fun _ => hnamed trivial

end Blocks

/-! ## The file along the job -/

/-- The payload names a safety snapshot. -/
def RestorePayload.NamesSafety (p : RestorePayload) : Prop :=
  ∃ id, p.safetyResticSnapshotId = some id ∧ id ≠ ""

namespace Disk

/-- The file names a safety snapshot. -/
def Pointed (w : Disk) : Prop := ∃ p, w.file = .holds p ∧ p.NamesSafety

/-- Once begun, the overwrite has its pointer, and the payload would be another. -/
def Ready (p : RestorePayload) (w : Disk) : Prop :=
  w.overwriting = true → w.Pointed ∧ p.NamesSafety

/-- Between the begin of the overwrite and the acknowledgement there is a pointer. -/
def Kept (w : Disk) : Prop := w.overwriting = true → w.acked = true ∨ w.Pointed

theorem Ready.kept {p : RestorePayload} {w : Disk} (h : w.Ready p) : w.Kept :=
  fun hover => .inr (h hover).1

theorem kept_of_idle {w : Disk} (h : w.overwriting = false) : w.Kept :=
  fun hover => absurd (h.symm.trans hover) (by decide)

end Disk

section Frames
variable {instanceId : String} {stateFile : FileRef} {w : Disk} {L α : Type} {l : L}

theorem idle_within {m : Routine Answer JobError L α} (hm : RWithin (fun k => ¬ k.overwrites) m)
    (h : w.overwriting = false) :
    m.Always (keeping instanceId stateFile) (fun w => w.overwriting = false)
      (fun _ _ _ => True) l w := by
  refine (hm.always (I := fun w : Disk => w.overwriting = false)
    (fun w c r w' hk hI hs => ?_) h).mono fun _ _ _ _ _ => trivial
  exact (disk_overwriting hs.1 hk).trans hI

theorem pointed_within {m : Routine Answer JobError L α}
    (hm : RWithin (fun k => ¬ k.touches stateFile) m) (h : w.Pointed) :
    m.Always (keeping instanceId stateFile) Disk.Pointed (fun _ _ _ => True) l w := by
  refine (hm.always (fun w c r w' hk hI hs => ?_) h).mono fun _ _ _ _ _ => trivial
  obtain ⟨p, hp, hnames⟩ := hI
  exact ⟨p, (disk_file hs.1 hk).trans hp, hnames⟩

/-- What neither touches the file nor overwrites data changes nothing of this. -/
theorem ready_serve {p : RestorePayload} {w' : Disk} {c : BackupCall}
    {r : Raises Answer JobError c} (hs : (keeping instanceId stateFile).serve w c r w')
    (h : w.Ready p) (hk : ¬ c.kind.touches stateFile ∧ ¬ c.kind.overwrites) : w'.Ready p := by
  intro hover
  obtain ⟨⟨q, hq, hnames⟩, hp⟩ := h ((disk_overwriting hs.1 hk.2).symm.trans hover)
  exact ⟨⟨q, (disk_file hs.1 hk.1).trans hq, hnames⟩, hp⟩

theorem ready_within {p : RestorePayload} {m : Job α}
    (hm : Within (fun k => ¬ k.touches stateFile ∧ ¬ k.overwrites) m) (h : w.Ready p) :
    m.Always (keeping instanceId stateFile) (Disk.Ready p) (fun _ _ => True) w :=
  (hm.always (fun _ _ _ _ hk hI hs => ready_serve hs hI hk) h).mono fun _ _ _ _ => trivial

end Frames

section Job
variable (req : RestoreRequest) {w : Disk} {l : RestoreLocals}

/-- Restic names the safety snapshot it has taken. -/
theorem runRestic_names {settings : Settings} {mounts : List Mount} {stateFile : FileRef}
    {instanceId : String} (h : w.overwriting = false) :
    (runRestic settings (.backup (safetyTag instanceId)) mounts true).Always
      (keeping instanceId stateFile) (fun w => w.overwriting = false)
      (fun r _ => ∀ ended, r = .ok ended → ended.returncode = 0 →
        ∀ summary, parseSummary ended.stdout = .ok summary → summary.1 ≠ "") w := by
  unfold runRestic
  cases resticEnv settings with
  | error e => exact ⟨h, fun _ hx => by cases hx⟩
  | ok env =>
    rw [Action.always_bind]
    refine ⟨h, ?_⟩
    rw [onOk_ok, Action.always_bind]
    refine ⟨h, ?_⟩
    rintro (e | ⟨⟩) w₁ hs
    · exact ⟨(disk_overwriting hs.1 fun hk => hk).trans h, fun _ hx => by cases hx⟩
    have h₁ : w₁.overwriting = false := (disk_overwriting hs.1 fun hk => hk).trans h
    refine ⟨h₁, h₁, ?_⟩
    rintro (e | ended) w₂ hs
    · exact ⟨(disk_overwriting hs.1 fun hk => hk).trans h₁, fun _ hx => by cases hx⟩
    refine ⟨(disk_overwriting hs.1 fun hk => hk).trans h₁, fun _ hx => ?_⟩
    cases hx
    exact hs.2 rfl

/-- **The pointer is on disk before the overwrite begins.** -/
theorem takeSafety_points {mounts : List Mount} (h : w.overwriting = false) :
    (req.takeSafety mounts).Always (keeping req.instanceId req.stateFile)
      (fun w => w.overwriting = false)
      (fun r l' w' => r = .ok true → l'.safetyId ≠ "" ∧ w'.Pointed) l w := by
  unfold RestoreRequest.takeSafety
  rw [Routine.always_bind, Routine.always_monadLift]
  refine (runRestic_names h).mono ?_
  rintro (e | ended) w₁ h₁ hid
  · exact fun hx => by cases hx
  rw [Routine.onOk_ok, Routine.always_ite]
  refine ⟨fun _ => ⟨h₁, fun hx => by cases hx⟩, fun hrc => ?_⟩
  rw [Routine.always_bind, Routine.always_monadLift, Action.always_ofExcept]
  refine ⟨h₁, ?_⟩
  cases hparse : parseSummary ended.stdout with
  | error e => exact fun hx => by cases hx
  | ok summary =>
    obtain ⟨safetyId, added⟩ := summary
    have hne : safetyId ≠ "" := hid ended rfl (by simpa using hrc) _ hparse
    rw [Routine.onOk_ok, Routine.always_bind, Routine.always_assign]
    refine ⟨h₁, ?_⟩
    rw [Routine.onOk_ok, Routine.always_bind, Routine.always_monadLift]
    unfold writeJson ignoringOSError
    rw [Action.always_tryExcept]
    refine ⟨h₁, ?_⟩
    rintro (e | ⟨⟩) w₂ hs
    · have h₂ : w₂.overwriting = false := (disk_overwriting hs.1 fun hk => hk).trans h₁
      refine ⟨h₂, ?_⟩
      have hraised := (hs.2 rfl).1 rfl
      dsimp only
      split
      · rename_i text
        exact absurd rfl (hraised text)
      · exact ⟨h₂, fun hx => by cases hx⟩
    · have h₂ : w₂.overwriting = false := (disk_overwriting hs.1 fun hk => hk).trans h₁
      refine ⟨h₂, h₂, fun _ => ⟨hne, ?_⟩⟩
      rw [show w₂ = _ from hs.1, if_pos rfl]
      exact ⟨_, rfl, safetyId, rfl, hne⟩

/-- Where the `try` block ends, an overwrite that has begun is guarded, and its
snapshot known to what is written next. -/
def Settled (r : Except JobError Unit) (l : RestoreLocals) (w : Disk) : Prop :=
  w.overwriting = true → w.Pointed ∧ l.safetyId ≠ "" ∧ (r = .ok () → l.Named)

theorem Settled.of_idle {r : Except JobError Unit} (h : w.overwriting = false) : Settled r l w :=
  fun hover => absurd (h.symm.trans hover) (by decide)

theorem body_settled {started : Bool} (h : w.overwriting = false) :
    (req.body started).Always (keeping req.instanceId req.stateFile) Disk.Kept Settled l w := by
  have hidle : ∀ w : Disk, w.overwriting = false → w.Kept := fun _ => Disk.kept_of_idle
  unfold RestoreRequest.body
  rw [Routine.always_bind]
  refine (idle_within (req.quiesce_within (fun hk => hk) fun hk => hk) h).imp hidle ?_
  rintro (e | rests) l₁ w₁ h₁ -
  · exact .of_idle h₁
  rw [Routine.onOk_ok, Routine.always_ite]
  refine ⟨fun _ => ⟨hidle _ h₁, .of_idle h₁⟩, fun _ => ?_⟩
  rw [Routine.always_bind]
  refine (idle_within (lift_within (ensureRepo_within (fun hk => hk) (fun hk => hk)
    fun hk => hk)) h₁).imp hidle ?_
  rintro (e | ⟨⟩) l₂ w₂ h₂ -
  · exact .of_idle h₂
  rw [Routine.onOk_ok, Routine.always_ite]
  refine ⟨fun _ => ⟨hidle _ h₂, .of_idle h₂⟩, fun _ => ?_⟩
  rw [Routine.always_bind]
  refine (idle_within (lift_within (backupMounts_within (fun hk => hk) fun hk => hk)) h₂).imp hidle ?_
  rintro (e | mounts) l₃ w₃ h₃ -
  · exact .of_idle h₃
  rw [Routine.onOk_ok, Routine.always_bind]
  refine (takeSafety_points req h₃).imp hidle ?_
  rintro (e | done) l₄ w₄ h₄ hpoints
  · exact .of_idle h₄
  rw [Routine.onOk_ok, Routine.always_ite]
  refine ⟨fun hdone => ?_, fun _ => ⟨hidle _ h₄, .of_idle h₄⟩⟩
  obtain ⟨hne, hpointed⟩ := hpoints (by rw [hdone])
  -- the frame of the overwrite, and what its variables are at its end
  have hfootprint : RWithin (fun k => ¬ k.touches req.stateFile) (req.overwrite mounts) := by
    refine req.overwrite_within ?_ ?_ ?_ ?_ (fun _ _ => ?_) (fun _ => ?_) fun _ _ => ?_
    all_goals exact fun hk => hk
  have hframe := @pointed_within req.instanceId _ _ _ _ l₄ _ hfootprint hpointed
  refine (hframe.returning (overwrite_ends req)).imp (fun _ h _ => .inr h) ?_
  rintro r l₅ w₅ hpointed ⟨⟨hid, hnamed⟩, -⟩ -
  exact ⟨hpointed, by rwa [hid], fun hr => hnamed () hr trivial⟩

/-- The handler names what the block left open. -/
theorem try_ready {started : Bool} (h : w.overwriting = false) :
    (Routine.tryExcept (req.body started) RestoreRequest.handler).Always
      (keeping req.instanceId req.stateFile) Disk.Kept (fun _ l w => w.Ready l.payload) l w := by
  rw [Routine.always_tryExcept]
  refine (body_settled req h).mono ?_
  rintro (e | ⟨⟩) l₁ w₁ h₁ hsettled
  · have hready : ∀ p : RestorePayload, p.safetyResticSnapshotId = some l₁.safetyId →
        w₁.Ready p := by
      intro p hp hover
      obtain ⟨hpointed, hne, -⟩ := hsettled hover
      exact ⟨hpointed, _, hp, hne⟩
    cases e <;> exact ⟨h₁, hready _ rfl⟩
  · intro hover
    obtain ⟨hpointed, hne, hnamed⟩ := hsettled hover
    exact ⟨hpointed, _, hnamed rfl, hne⟩

/-- The last write replaces one pointer by another, or leaves it. -/
theorem writeResult_ready (h : w.Ready l.payload) :
    (writeJson req.stateFile (.state l.payload)).Always (keeping req.instanceId req.stateFile)
      (Disk.Ready l.payload) (fun _ _ => True) w := by
  unfold writeJson ignoringOSError
  rw [Action.always_tryExcept]
  refine ⟨h, ?_⟩
  rintro (e | ⟨⟩) w₁ hs
  · have hready : w₁.Ready l.payload := by
      intro hover
      have hbefore : w.overwriting = true := (disk_overwriting hs.1 fun hk => hk).symm.trans hover
      rw [(hs.2 rfl).2 hbefore e rfl]
      exact h hbefore
    refine ⟨hready, ?_⟩
    dsimp only
    split <;> exact ⟨hready, trivial⟩
  · have hready : w₁.Ready l.payload := by
      intro hover
      have hbefore : w.overwriting = true := (disk_overwriting hs.1 fun hk => hk).symm.trans hover
      rw [show w₁ = _ from hs.1, if_pos rfl]
      exact ⟨⟨_, rfl, (h hbefore).2⟩, (h hbefore).2⟩
    exact ⟨hready, trivial⟩

/-- A result taken for acknowledged is acknowledged. -/
theorem postCallback_acked {settings : Settings} {instanceId : String} {p : RestorePayload}
    (h : w.Ready p) :
    (postCallback settings instanceId (.restore p)).Always (keeping req.instanceId req.stateFile)
      (Disk.Ready p) (fun r w' => r = .ok true → w'.acked = true) w := by
  have hsend : ∀ w : Disk, w.Ready p → (do
      let status ← call (.post instanceId (.restore p))
      return decide (200 ≤ status ∧ status < 300) : Job Bool).Always
      (keeping req.instanceId req.stateFile) (Disk.Ready p)
      (fun r w' => r = .ok true → w'.acked = true) w := by
    intro w hw
    rw [Action.always_bind]
    refine ⟨hw, ?_⟩
    rintro (e | status) w₁ hs
    · exact ⟨ready_serve hs hw ⟨fun hk => hk, fun hk => hk⟩, fun hx => by cases hx⟩
    have h₁ := ready_serve hs hw ⟨fun hk => hk, fun hk => hk⟩
    refine ⟨h₁, h₁, fun hx => ?_⟩
    rw [show w₁ = _ from hs.1]
    exact (Bool.or_eq_true _ _).mpr (.inr (Except.ok.inj hx))
  unfold postCallback
  rw [Action.always_tryExcept]
  refine Action.Always.mono (Q := fun r w' => r = .ok true → w'.acked = true) ?_ ?_
  · rw [Action.always_ite]
    refine ⟨fun _ => ?_, fun _ => hsend w h⟩
    rw [Action.always_bind]
    refine ⟨h, ?_⟩
    rintro (e | token) w₁ hs
    · exact ⟨ready_serve hs h ⟨fun hk => hk, fun hk => hk⟩, fun hx => by cases hx⟩
    · have h₁ := ready_serve hs h ⟨fun hk => hk, fun hk => hk⟩
      exact ⟨h₁, hsend w₁ h₁⟩
  · rintro (e | acked) w₁ h₁ hacked
    · dsimp only
      split <;> exact ⟨h₁, fun hx => by cases hx⟩
    · exact hacked

/-- The cleanup keeps the pointer, and the payload. -/
theorem cleanup_ready {started : Bool} (h : w.Ready l.payload) :
    (req.cleanup started).Always (keeping req.instanceId req.stateFile) (Disk.Ready l.payload)
      (fun _ l' _ => l' = l) l w := by
  have hlast : ∀ w : Disk, w.Ready l.payload →
      (writeJson req.stateFile (.state l.payload) : RestoreSteps Unit).Always
        (keeping req.instanceId req.stateFile) (Disk.Ready l.payload) (fun _ l' _ => l' = l) l w :=
    fun w hw => Routine.always_monadLift.mpr
      ((writeResult_ready req hw).mono fun _ _ _ _ => rfl)
  have hfirst : ∀ {m : Job (Except JobError Unit)},
      Within (fun k => ¬ k.touches req.stateFile ∧ ¬ k.overwrites) m →
      ((monadLift m : RestoreSteps _) >>= fun _ =>
        (writeJson req.stateFile (.state l.payload) : RestoreSteps Unit)).Always
        (keeping req.instanceId req.stateFile) (Disk.Ready l.payload) (fun _ l' _ => l' = l) l w :=
    fun hm => Routine.lift_bind_frame (fun _ hw => hw) (ready_within hm h) (fun _ _ _ => rfl)
      fun _ => hlast
  unfold RestoreRequest.cleanup
  rw [Routine.always_bind]
  refine ⟨h, ?_⟩
  dsimp only [Routine.onOk]
  split
  · refine hfirst (Action.Uses.outcome (Action.uses_perform ?_))
    exact ⟨fun hk => hk, fun hk => hk⟩
  · split
    · refine hfirst (Action.Uses.outcome ?_)
      refine req.teardown_within (K := fun k => ¬ k.touches req.stateFile ∧ ¬ k.overwrites) ?_ ?_ ?_
      all_goals exact ⟨fun hk => hk, fun hk => hk⟩
    · exact hlast w h

/-- **The file goes only after the acknowledgement.** -/
theorem report_kept {release : Bool} (h : w.Ready l.payload) :
    (req.report release).Always (keeping req.instanceId req.stateFile) Disk.Kept
      (fun _ _ _ => True) l w := by
  have hkept : ∀ w : Disk, w.Ready l.payload → w.Kept := fun _ hw => hw.kept
  have hremove : ∀ w : Disk, w.acked = true → (remove req.stateFile : RestoreSteps Unit).Always
      (keeping req.instanceId req.stateFile) Disk.Kept (fun _ _ _ => True) l w := by
    intro w hw
    have huses : RWithin (fun _ => True) (remove req.stateFile : RestoreSteps Unit) :=
      lift_within (remove_within trivial)
    refine Routine.Always.imp (huses.always (M := keeping req.instanceId req.stateFile)
      (I := fun w : Disk => w.acked = true) (fun w c r w' _ hI hs => disk_acked hs.1 hI) hw) ?_ ?_
    · exact fun _ hw _ => .inl hw
    · exact fun _ _ _ _ _ => trivial
  have hsend : ∀ w : Disk, w.Ready l.payload → (do
      if ← postCallback req.settings req.instanceId (.restore l.payload) then
        remove req.stateFile : RestoreSteps Unit).Always
      (keeping req.instanceId req.stateFile) Disk.Kept (fun _ _ _ => True) l w := by
    intro w hw
    rw [Routine.always_bind, Routine.always_monadLift]
    refine (postCallback_acked req hw).imp hkept ?_
    rintro (e | acked) w₁ h₁ hacked
    · trivial
    rw [Routine.onOk_ok, Routine.always_ite]
    exact ⟨fun hyes => hremove w₁ (hacked (by rw [hyes])), fun _ => ⟨h₁.kept, trivial⟩⟩
  have hfree : ∀ w : Disk, w.Ready l.payload → (do
      if release then
        call .releaseLock
      if ← postCallback req.settings req.instanceId (.restore l.payload) then
        remove req.stateFile : RestoreSteps Unit).Always
      (keeping req.instanceId req.stateFile) Disk.Kept (fun _ _ _ => True) l w := by
    intro w hw
    split
    · exact Routine.lift_bind_frame hkept (ready_within (call_within ⟨fun hk => hk, fun hk => hk⟩)
        hw) (fun _ _ _ => trivial) fun _ => hsend
    · exact hsend w hw
  unfold RestoreRequest.report
  rw [Routine.always_bind]
  refine ⟨h.kept, ?_⟩
  dsimp only [Routine.onOk]
  split
  · exact Routine.lift_bind_frame hkept (ready_within (call_within ⟨fun hk => hk, fun hk => hk⟩)
      h) (fun _ _ _ => trivial) fun _ => hfree
  · exact hfree w h

end Job

/-! ## When there is a pointer -/

/-- The state file of the restore. -/
abbrev stateFileOf (instanceId restoreId : String) : FileRef := .restoreState instanceId restoreId

theorem restoreInstance_kept (settings : Settings) (instanceId resticSnapshotId restoreId : String)
    (destination : Option Destination) (manifest volumeClasses : Option (List (String × String)))
    (releaseLock : Bool) (l : RestoreLocals) {w : Disk} (h : w.overwriting = false) :
    (restoreInstance settings instanceId resticSnapshotId restoreId destination manifest
      volumeClasses releaseLock).Always (keeping instanceId (stateFileOf instanceId restoreId))
      Disk.Kept (fun _ _ _ => True) l w := by
  set req : RestoreRequest := ⟨effectiveSettings settings destination instanceId, instanceId,
    resticSnapshotId, restoreId, manifest, volumeClasses⟩
  have hidle : ∀ w : Disk, w.overwriting = false → w.Kept := fun _ => Disk.kept_of_idle
  unfold restoreInstance
  rw [Routine.always_bind, Routine.always_assign]
  refine ⟨hidle _ h, ?_⟩
  rw [Routine.onOk_ok, Routine.always_bind]
  refine (idle_within (lift_within (getStatus_within fun hk => hk)) h).imp hidle ?_
  rintro (e | st) l₁ w₁ h₁ -
  · trivial
  rw [Routine.onOk_ok, Routine.always_tryFinally]
  refine (try_ready req h₁).mono fun r l₂ w₂ _ hready => ?_
  rw [Routine.always_bind]
  refine (cleanup_ready req hready).imp (fun _ h => h.kept) ?_
  rintro (e | ⟨⟩) l₃ w₃ h₃ rfl
  · trivial
  · rw [Routine.onOk_ok]
    refine (report_kept req h₃).mono ?_
    rintro (e | ⟨⟩) l₄ w₄ - - <;> trivial

/-- **In every run whose steps keep the pointer there is one**: wherever the greffer is
stopped after the overwrite has begun and before the result is acknowledged,
`restore_status` names a safety snapshot. -/
theorem restore_leaves_pointer (settings : Settings)
    (instanceId resticSnapshotId restoreId : String) (destination : Option Destination)
    (manifest volumeClasses : Option (List (String × String))) (releaseLock : Bool)
    (l : RestoreLocals) (before : StateFile) (w' : Disk)
    (q : Prog (Raises Answer JobError) (Except JobError Unit × RestoreLocals))
    (run : Run (keeping instanceId (stateFileOf instanceId restoreId)) { file := before }
      (restoreInstance settings instanceId resticSnapshotId restoreId destination manifest
        volumeClasses releaseLock l) w' q)
    (hbegun : w'.overwriting = true) (hopen : w'.acked = false) :
    ∃ p id, restoreStatus w'.file = .payload p ∧ p.safetyResticSnapshotId = some id ∧ id ≠ "" := by
  have hkept := (restoreInstance_kept settings instanceId resticSnapshotId restoreId destination
    manifest volumeClasses releaseLock l (w := { file := before }) rfl).at_stop run
  obtain hacked | ⟨p, hfile, id, hid, hne⟩ := hkept hbegun
  · rw [hopen] at hacked
    cases hacked
  · exact ⟨p, id, by rw [hfile]; rfl, hid, hne⟩

/-! ### A day on which everything succeeds, except perhaps the writes -/

/-- Restic names each snapshot; a write succeeds, or the disk is full. -/
def smooth (stateFile : FileRef) (full : Bool) (w : Disk) (c : BackupCall) :
    Raises Answer JobError c × Disk :=
  match c with
  | .writeText file (.state p) =>
    if full then (.error (.raised (.osError "No space left on device")), w)
    else (.ok (), if file = stateFile then { w with file := .holds p } else w)
  | .unlink file => (.ok (), if file = stateFile then { w with file := .absent } else w)
  | .start child => (.ok (), { w with overwriting := w.overwriting || child.overwrites })
  | .post _ _ => (.ok 200, { w with acked := true })
  | .await _ => (.ok { returncode := 0, stdout := [.object { summary := some ("5afe", some 1) }] }, w)
  | .listVolumes i => (.ok [i ++ "_data"], w)
  | c => (c.eventless, w)

theorem disk_smooth (stateFile : FileRef) (full : Bool) (w : Disk) (c : BackupCall) :
    (disk stateFile).serve w c (smooth stateFile full w c).1 (smooth stateFile full w c).2 := by
  cases c with
  | writeText file content =>
    cases content with
    | marker b => rfl
    | state p =>
      cases full with
      | false => rfl
      | true => exact .inl rfl
  | post i result =>
    show _ = _
    simp [smooth]
  | _ => rfl

theorem keeping_smooth (instanceId : String) (stateFile : FileRef) (w : Disk) (c : BackupCall) :
    (keeping instanceId stateFile).serve w c (smooth stateFile false w c).1
      (smooth stateFile false w c).2 := by
  refine ⟨disk_smooth stateFile false w c, ?_⟩
  cases c with
  | writeText file content =>
    cases content with
    | marker b => trivial
    | state p => exact fun _ => ⟨fun _ _ hx => (by cases hx), fun _ _ hx => (by cases hx)⟩
  | await child =>
    cases child with
    | restic run =>
      rintro - - summary hsummary
      cases hsummary
      exact (by decide : "5afe" ≠ "")
    | dockerExec _ _ _ => trivial
  | _ => trivial

/-- A greffer with a repository. -/
def withRepository : Settings :=
  { grefferBackupRepo := some "/backups", resticPassword := some "secret", grefferId := "g" }

/-- A restore that is about to start. -/
def freshRestore : RestoreLocals := { payload := { restoreId := "r", status := .failed } }

theorem restore_leaves_pointer_midway : ∃ p id,
    restoreStatus (Prog.evalFor (smooth (stateFileOf "i" "r") false) 11
      (restoreInstance withRepository "i" "snap" "r" none none none true freshRestore)
      { file := .absent }).1.file = .payload p ∧ p.safetyResticSnapshotId = some id ∧ id ≠ "" :=
  restore_leaves_pointer withRepository "i" "snap" "r" none none none true freshRestore
    .absent _ _ (Prog.run_evalFor (keeping_smooth "i" (stateFileOf "i" "r")) 11 _ _)
    (by rfl) (by rfl)

/-- **A full disk**: the write of the pointer fails, the failure is swallowed, and the
overwrite begins with nothing to go back to. -/
theorem full_disk_leaves_no_pointer : ∃ w' q,
    Run (disk (stateFileOf "i" "r")) { file := .absent }
      (restoreInstance withRepository "i" "snap" "r" none none none true freshRestore) w' q ∧
    w'.overwriting = true ∧ w'.acked = false ∧ restoreStatus w'.file = .unknown :=
  ⟨_, _, Prog.run_evalFor (h := smooth (stateFileOf "i" "r") true)
    (disk_smooth (stateFileOf "i" "r") true) 11 _ _, by rfl, by rfl, by rfl⟩

end Greffer.Backup

import Greffer.Backup.Footprints

/-! # Nothing is overwritten under a running container

Whether `restoreInstance` starts the safety snapshot or a `restic restore` while a
container of the instance runs.  The job decides by the one word of
`getStatus`: it stops the instance if the word is `running`, and otherwise takes
it to be at rest.  **A mix of running and resting containers reads `unknow`**, and
nothing stops it.

The daemon may change the containers after every call; `OnlySettles` is the
condition that none comes up by itself, only through `docker-compose up`.
Under it the job is safe exactly for the container lists that are no mix — or if
it gets no further than the repository.
-/
namespace Greffer.Backup
open Effects Docker

/-- The containers the daemon lists for the instance, and whether a guarded command
was started while one of them ran. -/
structure Scene where
  containers : List Container
  violated : Bool

namespace Scene

/-- No container that counts runs. -/
def Quiet (w : Scene) : Prop := ∀ c ∈ w.containers, ¬ Active c

/-- Whether a container that counts runs. -/
def busy (w : Scene) : Bool := w.containers.any fun c => !c.ignoredForStatus && c.isRunning

end Scene

/-- The commands that must not run beside a container of the instance: the
pre-restore safety snapshot, and the overwrite. -/
def guarded (instanceId : String) : ResticCommand → Bool
  | .restore _ => true
  | .backup tag => tag == safetyTag instanceId
  | _ => false

/-- The daemon.  A listing shows the containers as they are; after any call they may
be different. -/
def daemon (instanceId : String) : Machine (Raises Answer JobError) Scene where
  serve w c r w' :=
    match c, r with
    | .listContainers _, .ok listed => listed = w.containers ∧ w'.violated = w.violated
    | .start (.restic run), .ok () =>
      w'.violated = (w.violated || (guarded instanceId run.command && w.busy))
    | _, _ => w'.violated = w.violated

/-- No container comes up except through `docker-compose up`. -/
def OnlySettles (w : Scene) (c : BackupCall) (_ : Raises Answer JobError c) (w' : Scene) : Prop :=
  match c with
  | .composeUp _ _ => True
  | _ => ∀ c' ∈ w'.containers, Active c' → ∃ c ∈ w.containers, Active c ∧ c.id = c'.id

/-- The daemon whose containers only settle. -/
abbrev steady (instanceId : String) : Machine (Raises Answer JobError) Scene :=
  (daemon instanceId).restrict OnlySettles

/-- Nothing guarded was started beside a running container. -/
def Safe (w : Scene) : Prop := w.violated = false

section Frames
variable {instanceId : String} {w w' : Scene} {L α : Type} {l : L}

/-- The kinds that start no guarded command. -/
def Harmless (instanceId : String) (k : Kind) : Prop :=
  ∀ cmd, k = .restic cmd → guarded instanceId cmd = false

end Frames

/-! ## The decision at entry -/

section Entry
variable {instanceId : String} {w : Scene}

end Entry

/-! ## The job -/

section Job
variable (req : RestoreRequest) {w : Scene} {l : RestoreLocals}

end Job

/-! ## Days on which restic ends well -/

section Obliging
variable {W : Type} {answer : W → (c : BackupCall) → Raises Answer JobError c × W}
  {started : W → ResticCommand → W} {settings : Settings} {w : W} {I : W → Prop}

/-- Every restic command ends well, and is all that leaves a trace (`started`); there is nothing to
mount. -/
structure Obliging (answer : W → (c : BackupCall) → Raises Answer JobError c × W)
    (started : W → ResticCommand → W) : Prop where
  start : ∀ w run, answer w (.start (.restic run)) = (.ok (), started w run.command)
  await : ∀ w child, answer w (.await child) = (.ok { returncode := 0 }, w)
  volumeless : ∀ w instanceId, answer w (.listVolumes instanceId) = (.ok [], w)
  portless : ∀ w ref, answer w (.exists ref) = (.ok false, w)
  /-- Opening the repository is not what is looked for. -/
  opens : ∀ w, started w .catConfig = w ∧ started w .unlock = w

theorem Obliging.runRestic (hob : Obliging answer started) {env : List (String × String)}
    {command : ResticCommand} {mounts : List Mount} {readOnly : Bool}
    {Q : Except JobError Ended → W → Prop} (henv : resticEnv settings = .ok env)
    (h : (Backup.runRestic settings command mounts readOnly).Always (.definite answer) I Q w) :
    I (started w command) ∧ Q (.ok { returncode := 0 }) (started w command) := by
  unfold Backup.runRestic at h
  rw [henv, Action.always_bind] at h
  obtain ⟨-, h⟩ := h
  rw [onOk_ok, Action.always_bind] at h
  obtain ⟨-, hstarted, h⟩ := (Action.always_perform_definite _).mp h
  rw [hob.start] at hstarted h
  have hend := ((Action.always_perform_definite _).mp h).2.2
  rw [hob.await] at hend
  exact ⟨hstarted, hend⟩

theorem Obliging.ensureRepo (hob : Obliging answer started) {env : List (String × String)}
    {Q : Except JobError Unit → W → Prop} (henv : resticEnv settings = .ok env)
    (h : (Backup.ensureRepo settings).Always (.definite answer) I Q w) : Q (.ok ()) w := by
  unfold Backup.ensureRepo at h
  rw [Action.always_bind] at h
  obtain ⟨-, h⟩ := hob.runRestic henv h
  rw [onOk_ok, (hob.opens w).1] at h
  simp only [ne_eq, not_true_eq_false, if_false, Action.always_bind] at h
  obtain ⟨-, h⟩ := hob.runRestic henv h
  rw [onOk_ok, (hob.opens w).2] at h
  exact h.2

theorem Obliging.backupMounts (hob : Obliging answer started) {instanceId : String}
    {Q : Except JobError (List Mount) → W → Prop}
    (h : (Backup.backupMounts settings instanceId).Always (.definite answer) I Q w) :
    Q (.ok []) w := by
  unfold Backup.backupMounts dataVolumes withL4Ports at h
  simp only [Action.always_bind] at h
  obtain ⟨-, -, h⟩ := (Action.always_perform_definite _).mp h
  rw [hob.volumeless] at h
  obtain ⟨-, h⟩ := h
  rw [onOk_ok] at h
  obtain ⟨-, -, h⟩ := (Action.always_perform_definite _).mp h
  rw [hob.portless] at h
  exact h.2

end Obliging

/-! ## A calm day

The environment in which restic succeeds and the containers stay as they are. -/

/-- The world after a command has been started. -/
def Scene.started (instanceId : String) (command : ResticCommand) (w : Scene) : Scene :=
  { w with violated := w.violated || (guarded instanceId command && w.busy) }

/-- Every command succeeds, without output, and no container changes. -/
def calm (instanceId : String) (w : Scene) (c : BackupCall) : Raises Answer JobError c × Scene :=
  match c with
  | .start (.restic run) => (.ok (), w.started instanceId run.command)
  | .listContainers _ | .listInstanceContainers _ => (.ok w.containers, w)
  | c => (c.eventless, w)

/-- A web container that runs, beside a worker that has crashed. -/
def liveWeb : Container :=
  { id := "c1", name := "i-web-1", labels := [("com.docker.compose.service", "web")],
    status := "running", stateStatus := some "running", exitCode := some 0,
    policyName := some "always", health := none, volumeMounts := ["i_data"] }

def crashedWorker : Container :=
  { id := "c2", name := "i-worker-1", labels := [("com.docker.compose.service", "worker")],
    status := "exited", stateStatus := some "exited", exitCode := some 1,
    policyName := some "no", health := none, volumeMounts := ["i_data"] }

/-- A greffer with a repository of its own. -/
def ownRepository : Settings :=
  { grefferBackupRepo := some "/backups", resticPassword := some "secret", grefferId := "g" }

end Greffer.Backup

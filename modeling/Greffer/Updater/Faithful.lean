import Greffer.Updater.Carried

/-! # Whether a rollback is faithful

A rollback recreates a container from its own report, on the image it came from.  What docker does not
take from the image comes back as it was (`Expressible`).  What it does take is carried **only where
it differs from the image**, and left to the image's default where it does not, or where it is empty.
That is right field by field, and wrong across fields: an entrypoint that is given clears the
image's command, and then a command that was left out for being the image's is gone.

`rollback_faithful_iff` says exactly which containers come back (`Recoverable`).
-/
namespace Greffer.Updater
open Effects

/-! ## Which containers come back -/

/-- The entrypoint and the command come back: either the entrypoint is the image's, and no command
was emptied, or it is another one, and the command was not left out for being the image's. -/
def CommandKept (c image : Config) : Prop :=
  (c.entrypoint = image.entrypoint ∧ (c.cmd = [] → image.cmd = [])) ∨
    c.entrypoint ≠ image.entrypoint ∧ c.entrypoint ≠ [] ∧ (c.cmd = image.cmd → c.cmd = [])

/-- The times of a healthcheck come back: none was reset to zero, and its start interval, for which no
option is given, is the image's. -/
structure TimesKept (c image : Healthcheck) : Prop where
  interval : c.interval = 0 → image.interval = 0
  timeout : c.timeout = 0 → image.timeout = 0
  startPeriod : c.startPeriod = 0 → image.startPeriod = 0
  startInterval : c.startInterval = image.startInterval
  retries : c.retries = 0 → image.retries = 0

/-- **The condition on a container and its image.** -/
structure Recoverable (c : Config) (image : Baked) : Prop where
  /-- No variable of the image was removed. -/
  env : ∀ k, (kvListToDict c.env).lookup k = none → image.env k = none
  /-- No label of the image was removed. -/
  label : ∀ k, c.labels.lookup k = none → image.label k = none
  /-- A label that differs from the image's can be set by an option. -/
  plain : ∀ e ∈ c.labels, image.label e.1 ≠ some e.2 → '=' ∉ e.1.toList
  command : CommandKept c image.config
  user : c.user = "" → image.config.user = ""
  workingDir : c.workingDir = "" → image.config.workingDir = ""
  stopSignal : c.stopSignal = "" → image.config.stopSignal = ""
  times : effectiveHealthcheck c.healthcheck ≠ none →
    TimesKept c.healthcheck image.config.healthcheck

/-! ## One field -/

/-- A difference that is laid over what it was taken from gives what it was taken of, unless an entry
was removed. -/
theorem override_delta_iff {K V : Type} [DecidableEq V] (top base : K → Option V) :
    Layers.override base (Layers.delta top base) = top ↔ ∀ k, top k = none → base k = none := by
  constructor
  · intro h k hnone
    have hk := congrFun h k
    simpa [Layers.override, Layers.delta, hnone] using hk
  · intro h
    funext k
    cases htop : top k with
    | none => simp [Layers.override, Layers.delta, htop, h k htop]
    | some v =>
      by_cases hbase : base k = some v
      · simp [Layers.override, Layers.delta, htop, hbase, Option.filter]
      · simp [Layers.override, Layers.delta, htop, Option.filter, bne_iff_ne.mpr hbase]

section Fields
variable {c : Inspected} {baked : Baked} (image : ImageId) (imageRef : ImageRef) (service : String)

theorem env_iff :
    (created image baked (buildCreateArgv c baked.config imageRef service).options).envMap =
        (fun k => (kvListToDict c.config.env).lookup k) ↔
      ∀ k, (kvListToDict c.config.env).lookup k = none → baked.env k = none := by
  rw [created_envDelta]
  exact override_delta_iff _ _

theorem label_iff (hdistinct : (c.config.labels.map Prod.fst).Nodup) :
    (created image baked (buildCreateArgv c baked.config imageRef service).options).label =
        (fun k => c.config.labels.lookup k) ↔
      (∀ k, c.config.labels.lookup k = none → baked.label k = none) ∧
        ∀ e ∈ c.config.labels, baked.label e.1 ≠ some e.2 → '=' ∉ e.1.toList := by
  by_cases hplain : ∀ e ∈ c.config.labels, baked.label e.1 ≠ some e.2 → '=' ∉ e.1.toList
  · rw [created_dictDelta image baked c baked imageRef service hdistinct hplain,
      override_delta_iff]
    exact ⟨fun h => ⟨h, hplain⟩, fun h => h.1⟩
  · refine iff_of_false (fun heq => hplain fun e he hdiffers hmem => ?_) fun h => hplain h.2
    -- no option sets the label, so that it is the image's
    have hlabel := congrFun heq e.1
    rw [created_label, Layers.override, kvListToDict_plain hmem,
      Option.none_or] at hlabel
    exact hdiffers (hlabel.trans (lookup_entry hdistinct he))

theorem scalar_gives {flag : String} (cont oldImg : String) (hflag : flag ≠ "--no-healthcheck") :
    Gives flag (scalarArg flag cont oldImg) (if cont ≠ "" ∧ cont ≠ oldImg then [cont] else []) := by
  unfold scalarArg
  split
  · exact Gives.own _ hflag
  · exact Gives.nil

theorem scalar_other {flag option : String} (cont oldImg : String) (hne : option ≠ flag)
    (hword : option ≠ "--no-healthcheck") : Gives flag (scalarArg option cont oldImg) [] :=
  Gives.ite (Gives.other _ hne hword) Gives.nil

/-- **A scalar field** comes back unless it was emptied. -/
theorem scalar_iff (cont oldImg : String) :
    orBaked (if cont ≠ "" ∧ cont ≠ oldImg then [cont] else []).getLast? oldImg = cont ↔
      (cont = "" → oldImg = "") := by
  by_cases hempty : cont = ""
  · rw [if_neg fun h => h.1 hempty, hempty]
    exact ⟨fun h _ => h, fun h => h rfl⟩
  · by_cases hsame : cont = oldImg
    · rw [if_neg fun h => h.2 hsame]
      exact ⟨fun _ h => absurd h hempty, fun _ => hsame.symm⟩
    · rw [if_pos ⟨hempty, hsame⟩, List.getLast?_singleton, orBaked, Option.filter_some,
        if_pos (bne_iff_ne.mpr hempty)]
      exact ⟨fun _ h => absurd h hempty, fun _ => rfl⟩

theorem scalars_iff :
    (orBaked (lastOption "--user" (buildCreateArgv c baked.config imageRef service).options)
        baked.config.user = c.config.user ↔ (c.config.user = "" → baked.config.user = "")) ∧
      (orBaked (lastOption "--workdir" (buildCreateArgv c baked.config imageRef service).options)
        baked.config.workingDir = c.config.workingDir ↔
          (c.config.workingDir = "" → baked.config.workingDir = "")) ∧
      (orBaked (lastOption "--stop-signal" (buildCreateArgv c baked.config imageRef service).options)
        baked.config.stopSignal = c.config.stopSignal ↔
          (c.config.stopSignal = "" → baked.config.stopSignal = "")) := by
  refine ⟨?_, ?_, ?_⟩
  · rw [lastOption, words_scalars c baked.config imageRef service (by decide)
      (((scalar_gives _ _ (by decide)).append (scalar_other _ _ (by decide) (by decide))).append
        (scalar_other _ _ (by decide) (by decide))), List.append_nil, List.append_nil]
    exact scalar_iff _ _
  · rw [lastOption, words_scalars c baked.config imageRef service (by decide)
      (((scalar_other _ _ (by decide) (by decide)).append (scalar_gives _ _ (by decide))).append
        (scalar_other _ _ (by decide) (by decide))), List.append_nil, List.nil_append]
    exact scalar_iff _ _
  · rw [lastOption, words_scalars c baked.config imageRef service (by decide)
      (((scalar_other _ _ (by decide) (by decide)).append
        (scalar_other _ _ (by decide) (by decide))).append (scalar_gives _ _ (by decide))),
      List.nil_append, List.nil_append]
    exact scalar_iff _ _

/-- **The entrypoint and the command.** -/
theorem command_iff (readDuration : String → Nat) (hlength : c.config.entrypoint.length ≤ 1) :
    ((createdConfig readDuration image baked
          (buildCreateArgv c baked.config imageRef service)).entrypoint = c.config.entrypoint ∧
        (createdConfig readDuration image baked
          (buildCreateArgv c baked.config imageRef service)).cmd = c.config.cmd) ↔
      CommandKept c.config baked.config := by
  have hwords : lastOption "--entrypoint"
      (buildCreateArgv c baked.config imageRef service).options =
        entrypointOverride c.config.entrypoint baked.config.entrypoint := by
    rw [lastOption, words_entrypoint]
    cases entrypointOverride c.config.entrypoint baked.config.entrypoint <;> rfl
  have hcommand : (buildCreateArgv c baked.config imageRef service).command =
      cmdOverride c.config.cmd baked.config.cmd := rfl
  rw [createdConfig]
  dsimp only
  rw [hwords, hcommand]
  unfold CommandKept entrypointOverride cmdOverride
  by_cases hentry : c.config.entrypoint = baked.config.entrypoint
  · -- no entrypoint is given, so that an empty command is the image's
    rw [if_pos hentry]
    by_cases hcmd : c.config.cmd = baked.config.cmd
    · simp [hentry, hcmd]
    · by_cases hempty : c.config.cmd = []
      · simp [hentry, hempty, Ne.symm]
      · simp [hentry, hcmd, hempty]
  · rw [if_neg hentry]
    cases hentrypoint : c.config.entrypoint with
    | nil =>
      -- an entrypoint that was emptied is not given
      rw [hentrypoint] at hentry
      refine iff_of_false (fun h => hentry h.1.symm) ?_
      rintro (⟨heq, -⟩ | ⟨-, hne, -⟩)
      · exact hentry heq
      · exact hne rfl
    | cons e rest =>
      have hrest : rest = [] := by
        rw [hentrypoint, List.length_cons] at hlength
        exact List.length_eq_zero_iff.mp (by omega)
      subst hrest
      -- it is given, and clears the image's command
      rw [hentrypoint] at hentry
      by_cases hcmd : c.config.cmd = baked.config.cmd
      · simp [hentry, hcmd, eq_comm]
      · simp [hentry, hcmd, eq_comm]

end Fields

/-! ## The healthcheck -/

/-- Options none of which switches the healthcheck off. -/
def Quiet (args : List String) : Prop :=
  ∀ rest, disablesHealthcheck (args ++ rest) = disablesHealthcheck rest

namespace Quiet
variable {args args' : List String}

theorem nil : Quiet [] := fun _ => rfl

theorem append (h : Quiet args) (h' : Quiet args') : Quiet (args ++ args') := by
  intro rest
  rw [List.append_assoc, h, h']

theorem option {o : String} (word : String) (hne : o ≠ "--no-healthcheck") : Quiet [o, word] := by
  intro rest
  exact if_neg hne

theorem ite {p : Prop} [Decidable p] (h : Quiet args) (h' : Quiet args') :
    Quiet (if p then args else args') := by
  split
  · exact h
  · exact h'

theorem flatMap {α : Type} {f : α → List String} (l : List α) (h : ∀ a, Quiet (f a)) :
    Quiet (l.flatMap f) := by
  induction l with
  | nil => exact nil
  | cons a rest ih =>
    rw [List.flatMap_cons]
    exact (h a).append ih

theorem scalarArg {flag : String} (cont oldImg : String) (hne : flag ≠ "--no-healthcheck") :
    Quiet (scalarArg flag cont oldImg) := ite (option _ hne) nil

theorem durationFlag {flag : String} (ns : Nat) (hne : flag ≠ "--no-healthcheck") :
    Quiet (durationFlag flag ns) := ite (option _ hne) nil

end Quiet

section Health
variable {c : Inspected} {baked : Baked} (imageRef : ImageRef) (service : String)

/-- Only the options of the healthcheck can switch it off. -/
theorem disables_eq :
    disablesHealthcheck (buildCreateArgv c baked.config imageRef service).options =
      disablesHealthcheck (healthcheckArgs c.config.healthcheck baked.config.healthcheck ++
        (scalarDeltaArgs c.config baked.config ++
          ((entrypointOverride c.config.entrypoint baked.config.entrypoint).map
            fun e => ["--entrypoint", e]).getD [])) := by
  have hnetwork : Quiet (networkArgs c.hostConfig service) :=
    .ite (.option _ (by decide)) (.ite (.option _ (by decide)) (.ite .nil
      ((Quiet.option _ (by decide)).append (.ite (.option _ (by decide)) .nil))))
  have hrestart : Quiet (restartArgs c.hostConfig) :=
    .ite .nil (.ite (.option _ (by decide)) (.option _ (by decide)))
  have hlog : Quiet (logArgs c.hostConfig) :=
    .ite .nil ((Quiet.option _ (by decide)).append (.flatMap _ fun _ => .option _ (by decide)))
  have hhosts : Quiet (c.hostConfig.extraHosts.flatMap fun h => ["--add-host", h]) :=
    .flatMap _ fun _ => .option _ (by decide)
  have henv : Quiet ((envDelta c.config.env baked.config.env).flatMap
      fun e => ["-e", e.1 ++ "=" ++ e.2]) := .flatMap _ fun _ => .option _ (by decide)
  have hlabels : Quiet ((dictDelta c.config.labels baked.config.labels).flatMap
      fun e => ["--label", e.1 ++ "=" ++ e.2]) := .flatMap _ fun _ => .option _ (by decide)
  have hmounts : Quiet (mountArgs c.mounts) :=
    .flatMap _ fun _ => .ite .nil (.option _ (by decide))
  have hports : Quiet (portArgs c.hostConfig.portBindings) :=
    .flatMap _ fun e => .flatMap e.2 fun _ => .option _ (by decide)
  have hbefore := ((((((hnetwork.append hrestart).append hlog).append hhosts).append henv).append
    hlabels).append hmounts).append hports
  have hall := hbefore (healthcheckArgs c.config.healthcheck baked.config.healthcheck ++
    (scalarDeltaArgs c.config baked.config ++
      ((entrypointOverride c.config.entrypoint baked.config.entrypoint).map
        fun e => ["--entrypoint", e]).getD []))
  rw [← hall]
  simp only [buildCreateArgv, List.append_assoc]

theorem quiet_rest : Quiet (scalarDeltaArgs c.config baked.config ++
    ((entrypointOverride c.config.entrypoint baked.config.entrypoint).map
      fun e => ["--entrypoint", e]).getD []) := by
  refine Quiet.append (((Quiet.scalarArg _ _ (by decide)).append
    (Quiet.scalarArg _ _ (by decide))).append (Quiet.scalarArg _ _ (by decide))) ?_
  cases entrypointOverride c.config.entrypoint baked.config.entrypoint with
  | none => exact .nil
  | some e => exact .option _ (by decide)

/-- Quiet options of the healthcheck leave it on. -/
theorem disables_of_quiet
    (h : Quiet (healthcheckArgs c.config.healthcheck baked.config.healthcheck)) :
    disablesHealthcheck (buildCreateArgv c baked.config imageRef service).options = false := by
  have hall := (h.append (@quiet_rest c baked)) []
  rw [List.append_nil] at hall
  rw [disables_eq, hall]
  rfl

theorem durationFlag_gives {flag : String} (ns : Nat) (hne : flag ≠ "--no-healthcheck") :
    Gives flag (durationFlag flag ns) (if ns ≠ 0 then [duration ns] else []) := by
  unfold durationFlag
  split
  · exact Gives.own _ hne
  · exact Gives.nil

/-- **A number** comes back unless it was reset to zero. -/
theorem number_iff {read : String → Nat} {text : String} {n : Nat} (hread : n ≠ 0 → read text = n)
    (oldImg : Nat) :
    numberOrBaked ((if n ≠ 0 then [text] else []).getLast?.map read) oldImg = n ↔
      (n = 0 → oldImg = 0) := by
  by_cases hzero : n = 0
  · rw [if_neg (not_not_intro hzero), hzero]
    exact ⟨fun h _ => h, fun h => h rfl⟩
  · rw [if_pos hzero, List.getLast?_singleton, Option.map_some, hread hzero, numberOrBaked,
      Option.filter_some, if_pos (bne_iff_ne.mpr hzero)]
    exact ⟨fun _ h => absurd h hzero, fun _ => rfl⟩

/-- A healthcheck in the shell form, or none. -/
def ShellForm (h : Healthcheck) : Prop :=
  h.test = [] ∨ h.test = ["NONE"] ∨ ∃ script, h.test = ["CMD-SHELL", script]

/-- The times of a healthcheck are read by docker as they were meant. -/
def ReadsBack (readDuration : String → Nat) (h : Healthcheck) : Prop :=
  ∀ ns ∈ [h.interval, h.timeout, h.startPeriod], ns ≠ 0 → readDuration (duration ns) = ns

/-- The healthcheck of a container for which no option of it was given. -/
theorem createdHealthcheck_none {readDuration : String → Nat}
    (h : healthcheckArgs c.config.healthcheck baked.config.healthcheck = []) :
    createdHealthcheck readDuration baked (buildCreateArgv c baked.config imageRef service) =
      baked.config.healthcheck := by
  have hwords (flag : String) :
      Gives flag (healthcheckArgs c.config.healthcheck baked.config.healthcheck) [] := by
    rw [h]
    exact Gives.nil
  have hquiet : Quiet (healthcheckArgs c.config.healthcheck baked.config.healthcheck) := by
    rw [h]
    exact Quiet.nil
  unfold createdHealthcheck
  rw [disables_of_quiet imageRef service hquiet]
  unfold lastOption
  rw [words_health c _ imageRef service (by decide) (hwords "--health-cmd"),
    words_health c _ imageRef service (by decide) (hwords "--health-interval"),
    words_health c _ imageRef service (by decide) (hwords "--health-timeout"),
    words_health c _ imageRef service (by decide) (hwords "--health-start-period"),
    words_health c _ imageRef service (by decide) (hwords "--health-retries")]
  rfl

theorem healthcheck_eq_iff {h h' : Healthcheck} :
    h = h' ↔ h.test = h'.test ∧ h.interval = h'.interval ∧ h.timeout = h'.timeout ∧
      h.startPeriod = h'.startPeriod ∧ h.startInterval = h'.startInterval ∧
      h.retries = h'.retries := by
  obtain ⟨test, interval, timeout, startPeriod, startInterval, retries⟩ := h
  obtain ⟨test', interval', timeout', startPeriod', startInterval', retries'⟩ := h'
  rw [Healthcheck.mk.injEq]

theorem shell_on {h : Healthcheck} {script : String} (hscript : h.test = ["CMD-SHELL", script]) :
    ¬ (h.test = [] ∨ h.test = ["NONE"]) := by
  rw [hscript]
  rintro (heq | heq)
  · cases heq
  · exact absurd (List.cons.inj heq).1 (by decide)

section Shell
variable {script : String} (hsame : c.config.healthcheck ≠ baked.config.healthcheck)
  (hscript : c.config.healthcheck.test = ["CMD-SHELL", script])
include hsame hscript

theorem healthcheckArgs_shell :
    healthcheckArgs c.config.healthcheck baked.config.healthcheck =
      ["--health-cmd", script] ++ durationFlag "--health-interval" c.config.healthcheck.interval ++
        durationFlag "--health-timeout" c.config.healthcheck.timeout ++
        durationFlag "--health-start-period" c.config.healthcheck.startPeriod ++
        if c.config.healthcheck.retries ≠ 0
          then ["--health-retries", toString c.config.healthcheck.retries] else [] := by
  rw [healthcheckArgs, if_neg hsame, if_neg (shell_on hscript), hscript]
  rfl

theorem shell_gives {flag : String} {cmd interval timeout start retries : List String}
    (hcmd : Gives flag ["--health-cmd", script] cmd)
    (hinterval : Gives flag (durationFlag "--health-interval" c.config.healthcheck.interval) interval)
    (htimeout : Gives flag (durationFlag "--health-timeout" c.config.healthcheck.timeout) timeout)
    (hstart : Gives flag (durationFlag "--health-start-period" c.config.healthcheck.startPeriod) start)
    (hretries : Gives flag (if c.config.healthcheck.retries ≠ 0
      then ["--health-retries", toString c.config.healthcheck.retries] else []) retries) :
    Gives flag (healthcheckArgs c.config.healthcheck baked.config.healthcheck)
      (cmd ++ interval ++ timeout ++ start ++ retries) := by
  rw [healthcheckArgs_shell hsame hscript]
  exact (((hcmd.append hinterval).append htimeout).append hstart).append hretries

/-- The healthcheck of a container whose own is given in the shell form. -/
theorem createdHealthcheck_shell {readDuration : String → Nat} :
    createdHealthcheck readDuration baked (buildCreateArgv c baked.config imageRef service) =
      { test := ["CMD-SHELL", script]
        interval := numberOrBaked ((if c.config.healthcheck.interval ≠ 0
          then [duration c.config.healthcheck.interval] else []).getLast?.map readDuration)
            baked.config.healthcheck.interval
        timeout := numberOrBaked ((if c.config.healthcheck.timeout ≠ 0
          then [duration c.config.healthcheck.timeout] else []).getLast?.map readDuration)
            baked.config.healthcheck.timeout
        startPeriod := numberOrBaked ((if c.config.healthcheck.startPeriod ≠ 0
          then [duration c.config.healthcheck.startPeriod] else []).getLast?.map readDuration)
            baked.config.healthcheck.startPeriod
        startInterval := baked.config.healthcheck.startInterval
        retries := numberOrBaked ((if c.config.healthcheck.retries ≠ 0
          then [toString c.config.healthcheck.retries] else []).getLast?.map readNumber)
            baked.config.healthcheck.retries } := by
  have hother {flag option : String} (ns : Nat) (hne : option ≠ flag)
      (hword : option ≠ "--no-healthcheck") : Gives flag (durationFlag option ns) [] :=
    Gives.ite (Gives.other _ hne hword) Gives.nil
  have htries {flag : String} (hne : "--health-retries" ≠ flag) :
      Gives flag (if c.config.healthcheck.retries ≠ 0
        then ["--health-retries", toString c.config.healthcheck.retries] else []) [] :=
    Gives.ite (Gives.other _ hne (by decide)) Gives.nil
  -- Each option is given by its own words, and by none of the others.
  have hcmd := shell_gives hsame hscript (Gives.own script (by decide))
    (hother _ (by decide) (by decide)) (hother _ (by decide) (by decide))
    (hother _ (by decide) (by decide)) (htries (by decide))
  have hinterval := shell_gives hsame hscript (Gives.other _ (by decide) (by decide))
    (durationFlag_gives c.config.healthcheck.interval (by decide))
    (hother _ (by decide) (by decide)) (hother _ (by decide) (by decide)) (htries (by decide))
  have htimeout := shell_gives hsame hscript (Gives.other _ (by decide) (by decide))
    (hother _ (by decide) (by decide))
    (durationFlag_gives c.config.healthcheck.timeout (by decide))
    (hother _ (by decide) (by decide)) (htries (by decide))
  have hstart := shell_gives hsame hscript (Gives.other _ (by decide) (by decide))
    (hother _ (by decide) (by decide)) (hother _ (by decide) (by decide))
    (durationFlag_gives c.config.healthcheck.startPeriod (by decide)) (htries (by decide))
  have hcount : Gives "--health-retries" (if c.config.healthcheck.retries ≠ 0
      then ["--health-retries", toString c.config.healthcheck.retries] else [])
        (if c.config.healthcheck.retries ≠ 0
          then [toString c.config.healthcheck.retries] else []) := by
    split
    · exact Gives.own _ (by decide)
    · exact Gives.nil
  have hretries := shell_gives hsame hscript (Gives.other _ (by decide) (by decide))
    (hother _ (by decide) (by decide)) (hother _ (by decide) (by decide))
    (hother _ (by decide) (by decide)) hcount
  have hquiet : Quiet (healthcheckArgs c.config.healthcheck baked.config.healthcheck) := by
    rw [healthcheckArgs_shell hsame hscript]
    exact ((((Quiet.option _ (by decide)).append (.durationFlag _ (by decide))).append
      (.durationFlag _ (by decide))).append (.durationFlag _ (by decide))).append
        (.ite (.option _ (by decide)) .nil)
  simp only [List.nil_append, List.append_nil] at hcmd hinterval htimeout hstart hretries
  unfold createdHealthcheck
  rw [disables_of_quiet imageRef service hquiet]
  unfold lastOption
  rw [words_health c _ imageRef service (by decide) hcmd,
    words_health c _ imageRef service (by decide) hinterval,
    words_health c _ imageRef service (by decide) htimeout,
    words_health c _ imageRef service (by decide) hstart,
    words_health c _ imageRef service (by decide) hretries]
  rfl

end Shell

/-- A healthcheck that is off stays off: nothing is given where the image has none either. -/
theorem health_off {readDuration : String → Nat}
    (hsame : c.config.healthcheck ≠ baked.config.healthcheck)
    (hoff : c.config.healthcheck.test = [] ∨ c.config.healthcheck.test = ["NONE"]) :
    effectiveHealthcheck
      (createdHealthcheck readDuration baked (buildCreateArgv c baked.config imageRef service)) =
        none := by
  by_cases hbare : baked.config.healthcheck = {}
  · have hnone : healthcheckArgs c.config.healthcheck baked.config.healthcheck = [] := by
      rw [healthcheckArgs, if_neg hsame, if_pos hoff, if_neg (not_not_intro hbare)]
    rw [createdHealthcheck_none imageRef service hnone, hbare]
    rfl
  · have hargs : healthcheckArgs c.config.healthcheck baked.config.healthcheck =
        ["--no-healthcheck"] := by
      rw [healthcheckArgs, if_neg hsame, if_pos hoff, if_pos hbare]
    have hdisables : disablesHealthcheck
        (buildCreateArgv c baked.config imageRef service).options = true := by
      rw [disables_eq, hargs]
      -- what is given behind it makes no difference
      cases scalarDeltaArgs c.config baked.config ++
        ((entrypointOverride c.config.entrypoint baked.config.entrypoint).map
          fun e => ["--entrypoint", e]).getD [] with
      | nil => rfl
      | cons => rfl
    rw [createdHealthcheck, if_pos hdisables]
    rfl

/-- **The healthcheck** comes back, or is off as it was, unless one of its times is lost. -/
theorem health_iff {readDuration : String → Nat} (hshell : ShellForm c.config.healthcheck)
    (hread : ReadsBack readDuration c.config.healthcheck) :
    effectiveHealthcheck
        (createdHealthcheck readDuration baked (buildCreateArgv c baked.config imageRef service)) =
        effectiveHealthcheck c.config.healthcheck ↔
      (effectiveHealthcheck c.config.healthcheck ≠ none →
        TimesKept c.config.healthcheck baked.config.healthcheck) := by
  by_cases hsame : c.config.healthcheck = baked.config.healthcheck
  · have hnone : healthcheckArgs c.config.healthcheck baked.config.healthcheck = [] := if_pos hsame
    rw [createdHealthcheck_none imageRef service hnone, hsame]
    exact iff_of_true rfl fun _ => ⟨id, id, id, rfl, id⟩
  · by_cases hoff : c.config.healthcheck.test = [] ∨ c.config.healthcheck.test = ["NONE"]
    · have heffective : effectiveHealthcheck c.config.healthcheck = none := if_pos hoff
      rw [heffective]
      exact iff_of_true (health_off imageRef service hsame hoff) fun h => absurd rfl h
    · obtain ⟨script, hscript⟩ : ∃ script, c.config.healthcheck.test = ["CMD-SHELL", script] := by
        rcases hshell with h | h | h
        · exact absurd (.inl h) hoff
        · exact absurd (.inr h) hoff
        · exact h
      have heffective (h : Healthcheck) (htest : h.test = ["CMD-SHELL", script]) :
          effectiveHealthcheck h = some h := if_neg (shell_on htest)
      have hinterval := number_iff (hread c.config.healthcheck.interval (by simp))
        baked.config.healthcheck.interval
      have htimeout := number_iff (hread c.config.healthcheck.timeout (by simp))
        baked.config.healthcheck.timeout
      have hstart := number_iff (hread c.config.healthcheck.startPeriod (by simp))
        baked.config.healthcheck.startPeriod
      have hretries := number_iff (fun _ => readNumber_toString c.config.healthcheck.retries)
        baked.config.healthcheck.retries
      rw [createdHealthcheck_shell imageRef service hsame hscript, heffective _ rfl,
        heffective _ hscript, Option.some_inj, healthcheck_eq_iff]
      dsimp only
      rw [hinterval, htimeout, hstart, hretries]
      constructor
      · rintro ⟨-, h₁, h₂, h₃, h₄, h₅⟩ -
        exact ⟨h₁, h₂, h₃, h₄.symm, h₅⟩
      · intro h
        obtain ⟨h₁, h₂, h₃, h₄, h₅⟩ := h (Option.some_ne_none _)
        exact ⟨hscript.symm, h₁, h₂, h₃, h₄.symm, h₅⟩

end Health

/-! ## The whole container -/

/-- **The container that a recreation makes**, on the image that it came from. -/
theorem recreation_iff {c : Inspected} {baked : Baked} (image : ImageId) (imageRef : ImageRef)
    (service : String) {readDuration : String → Nat} (hc : Expressible c)
    (hshell : ShellForm c.config.healthcheck) (hread : ReadsBack readDuration c.config.healthcheck) :
    effective (dockerCreate readDuration image baked
        (buildCreateArgv c baked.config imageRef service)) = effective c ↔
      Recoverable c.config baked := by
  have hnetwork := @network_carried c baked.config imageRef service
  have hhosts := @hosts_carried c baked.config imageRef service
  have hrestart := restart_carried baked.config imageRef service hc
  have hlog := log_carried baked.config imageRef service hc
  have hports := ports_carried baked.config imageRef service hc
  have hmounts := mounts_carried baked.config imageRef service hc
  have henv := @env_iff c baked image imageRef service
  have hlabel := @label_iff c baked image imageRef service hc.labels
  have hscalars := @scalars_iff c baked imageRef service
  have hcommand := @command_iff c baked image imageRef service readDuration hc.entrypoint
  have hhealth := @health_iff c baked imageRef service readDuration hshell hread
  -- from here on the command line is any that these hold of
  generalize buildCreateArgv c baked.config imageRef service = args at *
  unfold effective
  rw [Effective.mk.injEq]
  constructor
  · rintro ⟨henv', hlabel', hentry, hcmd, huser, hdir, hstop, hcheck, -⟩
    exact {
      env := henv.mp henv'
      label := (hlabel.mp hlabel').1
      plain := (hlabel.mp hlabel').2
      command := hcommand.mp ⟨hentry, hcmd⟩
      user := hscalars.1.mp huser
      workingDir := hscalars.2.1.mp hdir
      stopSignal := hscalars.2.2.mp hstop
      times := hhealth.mp hcheck }
  · intro h
    obtain ⟨hentry, hcmd⟩ := hcommand.mpr h.command
    have hname : (createdHostConfig args).restartName ≠ "" := by
      rw [(Prod.mk.inj hrestart).1]
      split
      case isTrue => decide
      case isFalse hne => exact hne
    have hpolicy : (if (createdHostConfig args).restartName = "" then "no"
          else (createdHostConfig args).restartName, (createdHostConfig args).maximumRetryCount) =
        (if c.hostConfig.restartName = "" then "no" else c.hostConfig.restartName,
          c.hostConfig.maximumRetryCount) := by
      rw [if_neg hname]
      exact hrestart
    exact ⟨henv.mpr h.env, hlabel.mpr ⟨h.label, h.plain⟩, hentry, hcmd, hscalars.1.mpr h.user,
      hscalars.2.1.mpr h.workingDir, hscalars.2.2.mpr h.stopSignal, hhealth.mpr h.times, hnetwork,
      hpolicy, hlog.1, funext hlog.2, hhosts, funext hports, hmounts⟩

/-! ## The run of a rollback -/

section Rollback
variable (readDuration : String → Nat) (config : ImageId → Baked)

/-- Docker as a machine.  It has the one container, if it is there, and the local images; an image
that is there can be inspected, and what fails or raises may leave any container behind. -/
def createMachine : Machine (Raises Command.Answer UpdateError) (Option Inspected) where
  serve w c r w' := match c, r with
    | .imageInspectConfig i, r => w' = w ∧
      ∀ h : i ≠ "", r = .ok ⟨0, some (config ⟨i, h⟩).config, ""⟩
    | .rm _, r => ∀ res, r = .ok res → res.ok = true → w' = none
    | .create args, r => ∀ res, r = .ok res → res.ok = true →
      ∀ image : ImageId, args.image = .id image.val →
        w' = some (dockerCreate readDuration image (config image) args)
    | _, _ => w' = w

/-- **What a rollback that succeeds leaves.** -/
theorem rollbackOne_yields (sc : StackContainer) (c : Inspected) (image : ImageId)
    (w : Option Inspected) :
    (rollbackOne sc c image.val).Yields (createMachine readDuration config)
      (fun ok w => ok = true → w = some (dockerCreate readDuration image (config image)
        (buildCreateArgv c (config image).config (.id image.val) sc.service))) w := by
  have hsome : nonEmpty (some image.val) = some image.val := by
    rw [nonEmpty, Option.filter_some, if_pos (bne_iff_ne.mpr image.property)]
  have hbaseline : (baselineConfig (some image.val)).Yields (createMachine readDuration config)
      (fun cfg _ => cfg = (config image).config) w := by
    have hinspect : (run (.imageInspectConfig image.val)).Yields (createMachine readDuration config)
        (fun res _ => res = ⟨0, some (config image).config, ""⟩) w :=
      Action.yields_perform fun res w' hs => Except.ok.inj (hs.2 image.property)
    unfold baselineConfig
    rw [hsome]
    refine hinspect.bind fun res w hres => ?_
    subst hres
    exact Action.yields_pure rfl
  unfold rollbackOne doRecreate
  -- the image is on the node, so that the difference is taken to its own config
  refine hbaseline.bind fun oldCfg w hcfg => ?_
  subst hcfg
  refine Action.yields_ite (fun _ => Action.yields_pure (by simp)) fun _ => ?_
  unfold replaceContainer
  -- whatever becomes of the old container, the new one is what `create` makes
  refine (Action.yields_trivial _ w).bind fun _ w _ => ?_
  refine (Action.yields_trivial _ w).bind fun removed w _ => ?_
  refine Action.yields_ite (fun _ => Action.yields_pure (by simp)) fun _ => ?_
  have hcreate : (run (.create (buildCreateArgv c (config image).config (.id image.val)
      sc.service))).Yields (createMachine readDuration config)
      (fun res w => res.ok = true → w = some (dockerCreate readDuration image (config image)
        (buildCreateArgv c (config image).config (.id image.val) sc.service))) w :=
    Action.yields_perform fun res w' hs hok => hs res rfl hok image rfl
  refine hcreate.bind fun res w hmade => ?_
  refine Action.yields_ite (fun _ => Action.yields_pure (by simp)) fun hok => ?_
  have hstart : (run (.start c.bareName)).Yields (createMachine readDuration config)
      (fun _ w => w = some (dockerCreate readDuration image (config image)
        (buildCreateArgv c (config image).config (.id image.val) sc.service))) w := by
    refine Action.yields_perform fun _ w' hs => ?_
    rw [show w' = w from hs]
    exact hmade (by simpa using hok)
  exact hstart.bind fun started w hw => Action.yields_pure fun _ => hw

/-- **When a rollback is faithful**: the container that it leaves runs with what the one it was taken
of ran with. -/
theorem rollback_faithful_iff {sc : StackContainer} {c c' : Inspected} {image : ImageId}
    (hc : Expressible c) (hshell : ShellForm c.config.healthcheck)
    (hread : ReadsBack readDuration c.config.healthcheck)
    (hrun : Run (createMachine readDuration config) (some c) (rollbackOne sc c image.val) (some c')
      (.pure (.ok true))) :
    effective c' = effective c ↔ Recoverable c.config (config image) := by
  have hmade := (rollbackOne_yields readDuration config sc c image (some c)).at_return hrun rfl
  rw [Option.some.inj hmade]
  exact recreation_iff image (.id image.val) sc.service hc hshell hread

end Rollback

/-! ### A node's own container -/

/-- An image that has an entrypoint and a command. -/
def greffed : ImageId → Baked :=
  fun _ => ⟨{ env := ["PORT=80"], entrypoint := ["/entry.sh"], cmd := ["serve"] }, by decide⟩

/-- A container of it, with the entrypoint and the command given. -/
def greffer (entrypoint cmd : List String) : Inspected where
  name := some "/greffer-1"
  config := { env := ["PORT=80", "GREFFER_ID=g1"], entrypoint := entrypoint, cmd := cmd }
  hostConfig := { networkMode := "greffer_internal", restartName := "always", logType := "json-file",
                  portBindings := [("80/tcp", [{ hostPort := "8080" }])] }
  mounts := [{ destination := "/data", type := "volume", name := "greffer_data", rw := some true }]

theorem greffer_expressible (entrypoint cmd : List String) (h : entrypoint.length ≤ 1) :
    Expressible (greffer entrypoint cmd) where
  entrypoint := h
  labels := List.nodup_nil
  restart := ⟨show ':' ∉ "always".toList by decide, fun _ => rfl⟩
  log := fun h => absurd h (show "json-file" ≠ "" by decide)
  logOptions := ⟨List.nodup_nil, fun e he => absurd he List.not_mem_nil⟩
  ports := by
    refine ⟨List.nodup_singleton _, fun e he => ?_⟩
    rw [List.mem_singleton.mp he]
    refine ⟨⟨"80", "tcp", by decide, by decide, by decide, by decide, by decide⟩, fun b hb => ?_⟩
    rw [List.mem_singleton.mp hb]
    decide
  mounts := by
    intro m hm
    rw [List.mem_singleton.mp hm]
    exact ⟨.inl ⟨rfl, by decide, by decide, by decide⟩, by decide, by decide⟩

theorem greffer_shell (entrypoint cmd : List String) :
    ShellForm (greffer entrypoint cmd).config.healthcheck ∧
      ReadsBack readNumber (greffer entrypoint cmd).config.healthcheck := by
  refine ⟨.inl rfl, fun ns hns hne => absurd ?_ hne⟩
  simpa [greffer] using hns

theorem grefferImage_named : "sha256:0" ≠ "" := by decide

/-- The image of the containers. -/
def grefferImage : ImageId := ⟨"sha256:0", grefferImage_named⟩

/-- Docker where every command succeeds. -/
def succeeding (w : Option Inspected) :
    (c : Command) → Raises Command.Answer UpdateError c × Option Inspected
  | .imageInspectConfig i =>
    (.ok ⟨0, some (if h : i ≠ "" then (greffed ⟨i, h⟩).config else {}), ""⟩, w)
  | .rm _ => (.ok ⟨0, "", ""⟩, none)
  | .create args =>
    (.ok ⟨0, "", ""⟩, match args.image with
      | .id i => if h : i ≠ "" then some (dockerCreate readNumber ⟨i, h⟩ (greffed ⟨i, h⟩) args) else w
      | _ => w)
  | c => (c.silent, w)

theorem succeeding_serves (w : Option Inspected) (c : Command) :
    (createMachine readNumber greffed).serve w c (succeeding w c).1 (succeeding w c).2 := by
  cases c with
  | imageInspectConfig i =>
    refine ⟨rfl, fun h => ?_⟩
    simp [succeeding, h]
  | rm container => exact fun _ _ _ => rfl
  | create args =>
    intro _ _ _ image himage
    simp [succeeding, himage, image.property]
  | _ => rfl

theorem serviceRepo_greffer : serviceRepo "greffer" = some "greffon/greffer" := rfl

/-- The service of the containers. -/
def grefferContainer : StackContainer where
  service := "greffer"
  containerId := "gid"
  repo := "greffon/greffer"
  known := serviceRepo_greffer

/-- What a rollback leaves of such a container. -/
def rolledBack (c : Inspected) : Inspected :=
  dockerCreate readNumber grefferImage (greffed grefferImage)
    (buildCreateArgv c (greffed grefferImage).config (.id "sha256:0") "greffer")

/-- A container that kept the image's entrypoint and command. -/
theorem rollback_faithful_inherited :
    effective (rolledBack (greffer ["/entry.sh"] ["serve"])) =
        effective (greffer ["/entry.sh"] ["serve"]) ↔
      Recoverable (greffer ["/entry.sh"] ["serve"]).config (greffed grefferImage) :=
  rollback_faithful_iff readNumber greffed (greffer_expressible _ _ (by decide))
    (greffer_shell _ _).1 (greffer_shell _ _).2
    (Prog.run_evalFor succeeding_serves 8
      (rollbackOne grefferContainer (greffer ["/entry.sh"] ["serve"]) grefferImage.val) _)

/-- **An entrypoint of its own, and the image's command**: the rollback loses the command. -/
theorem command_lost :
    Expressible (greffer ["/debug.sh"] ["serve"]) ∧
      Run (createMachine readNumber greffed) (some (greffer ["/debug.sh"] ["serve"]))
        (rollbackOne grefferContainer (greffer ["/debug.sh"] ["serve"]) grefferImage.val)
        (some (rolledBack (greffer ["/debug.sh"] ["serve"]))) (.pure (.ok true)) ∧
      effective (rolledBack (greffer ["/debug.sh"] ["serve"])) ≠
        effective (greffer ["/debug.sh"] ["serve"]) := by
  refine ⟨greffer_expressible _ _ (by decide), Prog.run_evalFor succeeding_serves 8
    (rollbackOne grefferContainer (greffer ["/debug.sh"] ["serve"]) grefferImage.val) _,
    fun heq => ?_⟩
  have hcmd := congrArg Effective.cmd heq
  revert hcmd
  decide +kernel

end Greffer.Updater

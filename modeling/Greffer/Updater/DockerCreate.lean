import Mathlib.Data.List.Dedup
import Greffer.Compose.Yaml
import Greffer.Updater.OverlayChain

/-! # What docker makes of a command line

`docker create` as it is documented: an option overrides what the image bakes, what no option sets
comes from the image, and `--entrypoint` clears the image's command.  `dockerCreate` is the container
that `docker inspect` reports afterwards, and `effective` is what such a container runs with, read off
any report.

How docker reads a duration is its own affair: `readDuration`.
-/
namespace Greffer.Updater

/-! ## Words of options -/

/-- The word of an option: the last one stands. -/
def lastOption (flag : String) (options : List String) : Option String :=
  (optionValues flag options).getLast?

/-- The text that an option sets; an empty one is the image's. -/
def orBaked (given : Option String) (baked : String) : String :=
  (given.filter fun text => text != "").getD baked

/-- The number that an option sets; zero is the image's. -/
def numberOrBaked (given : Option Nat) (baked : Nat) : Nat :=
  (given.filter fun n => n != 0).getD baked

/-- The number that a text of digits stands for. -/
def readNumber (text : String) : Nat := Nat.ofDigitChars 10 text.toList 0

/-- Whether the healthcheck is switched off. -/
def disablesHealthcheck : List String → Bool
  | [] => false
  | [option] => option == "--no-healthcheck"
  | option :: _ :: rest =>
    if option = "--no-healthcheck" then true else disablesHealthcheck rest

/-- A port specification `[[ip:][hostPort]:]containerPort[/protocol]`: the container port and the
binding. -/
def readPort (spec : String) : String × PortBinding :=
  let (host, target) := Compose.rsplitOnce ':' spec
  let (port, _, proto) := partition '/' target
  let key := port ++ "/" ++ if proto = "" then "tcp" else proto
  match host with
  | none => (key, {})
  | some host =>
    match Compose.rsplitOnce ':' host with
    | (none, hostPort) => (key, { hostPort := hostPort })
    | (some hostIp, hostPort) => (key, { hostIp := hostIp, hostPort := hostPort })

/-- The bindings of each container port, in the order of the specifications. -/
def groupPorts (bindings : List (String × PortBinding)) : List (String × List PortBinding) :=
  (bindings.map Prod.fst).dedup.map fun key =>
    (key, (bindings.filter fun e => e.1 == key).map Prod.snd)

/-- A mount `source:destination[:ro]`; a source that is a path is a bind. -/
def readMount (spec : String) : Mount :=
  let (source, _, rest) := partition ':' spec
  let (destination, _, mode) := partition ':' rest
  if source.toList.head? = some '/' then
    { destination := destination, type := "bind", source := source, rw := some (mode != "ro") }
  else { destination := destination, type := "volume", name := source, rw := some (mode != "ro") }

/-- A restart policy `name[:count]`. -/
def readRestart (policy : String) : String × Nat :=
  let (name, _, count) := partition ':' policy
  (name, readNumber count)

/-! ## The container that is created -/

section Create
variable (readDuration : String → Nat) (image : ImageId) (baked : Baked) (args : CreateArgs)

/-- The healthcheck: what is not given comes from the image. -/
def createdHealthcheck : Healthcheck :=
  let given := baked.config.healthcheck
  if disablesHealthcheck args.options then { given with test := ["NONE"] }
  else
    { test := ((lastOption "--health-cmd" args.options).map fun c => ["CMD-SHELL", c]).getD given.test
      interval := numberOrBaked ((lastOption "--health-interval" args.options).map readDuration)
        given.interval
      timeout := numberOrBaked ((lastOption "--health-timeout" args.options).map readDuration)
        given.timeout
      startPeriod := numberOrBaked ((lastOption "--health-start-period" args.options).map readDuration)
        given.startPeriod
      startInterval := given.startInterval
      retries := numberOrBaked ((lastOption "--health-retries" args.options).map readNumber)
        given.retries }

/-- The `.Config` of the container. -/
def createdConfig : Config where
  env := (created image baked args.options).env
  labels := (created image baked args.options).labels
  healthcheck := createdHealthcheck readDuration baked args
  user := orBaked (lastOption "--user" args.options) baked.config.user
  workingDir := orBaked (lastOption "--workdir" args.options) baked.config.workingDir
  stopSignal := orBaked (lastOption "--stop-signal" args.options) baked.config.stopSignal
  entrypoint := ((lastOption "--entrypoint" args.options).map fun e => [e]).getD
    baked.config.entrypoint
  cmd := if args.command ≠ [] then args.command
    else if (lastOption "--entrypoint" args.options).isSome then [] else baked.config.cmd

/-- The `.HostConfig` of the container. -/
def createdHostConfig : HostConfig where
  networkMode := (lastOption "--network" args.options).getD "default"
  restartName := ((lastOption "--restart" args.options).map fun p => (readRestart p).1).getD "no"
  maximumRetryCount := ((lastOption "--restart" args.options).map fun p => (readRestart p).2).getD 0
  logType := (lastOption "--log-driver" args.options).getD ""
  logConfig := kvListToDict (optionValues "--log-opt" args.options)
  extraHosts := optionValues "--add-host" args.options
  portBindings := groupPorts ((optionValues "-p" args.options).map readPort)

/-- **The container that `docker create` makes.** -/
def dockerCreate : Inspected where
  name := some ("/" ++ args.name)
  image := some image.val
  config := createdConfig readDuration image baked args
  hostConfig := createdHostConfig args
  mounts := (optionValues "-v" args.options).map readMount

end Create

/-! ## What a container runs with -/

/-- A mount: its source, where it is mounted, and whether it can be written. -/
structure MountedAt where
  volume : Bool
  source : String
  destination : String
  writable : Bool
  deriving DecidableEq

/-- The effective values of a container. -/
structure Effective where
  env : String → Option String
  label : String → Option String
  entrypoint : List String
  cmd : List String
  user : String
  workingDir : String
  stopSignal : String
  /-- The healthcheck, unless it is off. -/
  healthcheck : Option Healthcheck
  network : String
  restart : String × Nat
  logType : String
  logOption : String → Option String
  extraHosts : List String
  ports : String → List PortBinding
  mounts : List MountedAt

/-- The default network has more than one name. -/
def effectiveNetwork (mode : String) : String :=
  if mode = "" ∨ mode = "bridge" then "default" else mode

/-- The healthcheck, unless it is off. -/
def effectiveHealthcheck (h : Healthcheck) : Option Healthcheck :=
  if h.test = [] ∨ h.test = ["NONE"] then none else some h

/-- The mount, as it takes effect. -/
def effectiveMount (m : Mount) : MountedAt where
  volume := m.type == "volume"
  source := if m.type = "volume" then m.name else m.source
  destination := m.destination
  writable := m.rw != some false

/-- What a container runs with. -/
def effective (c : Inspected) : Effective where
  env := fun k => (kvListToDict c.config.env).lookup k
  label := fun k => c.config.labels.lookup k
  entrypoint := c.config.entrypoint
  cmd := c.config.cmd
  user := c.config.user
  workingDir := c.config.workingDir
  stopSignal := c.config.stopSignal
  healthcheck := effectiveHealthcheck c.config.healthcheck
  network := effectiveNetwork c.hostConfig.networkMode
  restart := (if c.hostConfig.restartName = "" then "no" else c.hostConfig.restartName,
    c.hostConfig.maximumRetryCount)
  logType := c.hostConfig.logType
  logOption := fun k => c.hostConfig.logConfig.lookup k
  extraHosts := c.hostConfig.extraHosts
  ports := fun k => (c.hostConfig.portBindings.lookup k).getD []
  mounts := c.mounts.map effectiveMount

/-! ## Texts read back -/

theorem rsplitOnce_append {sep : Char} {after : String} (h : sep ∉ after.toList) (before : String) :
    Compose.rsplitOnce sep (before ++ String.singleton sep ++ after) = (some before, after) := by
  have hne : ∀ c ∈ after.toList.reverse, (c != sep) = true := by
    intro c hc
    exact bne_iff_ne.mpr fun heq => h (heq ▸ List.mem_reverse.mp hc)
  have htext : (before ++ String.singleton sep ++ after).toList.reverse =
      after.toList.reverse ++ sep :: before.toList.reverse := by simp
  unfold Compose.rsplitOnce
  rw [htext, List.takeWhile_append_of_pos hne, List.dropWhile_append_of_pos hne]
  simp

theorem rsplitOnce_none {sep : Char} {text : String} (h : sep ∉ text.toList) :
    Compose.rsplitOnce sep text = (none, text) := by
  have hall : text.toList.reverse.dropWhile (· != sep) = [] := by
    rw [List.dropWhile_eq_nil_iff]
    intro c hc
    exact bne_iff_ne.mpr fun heq => h (heq ▸ List.mem_reverse.mp hc)
  unfold Compose.rsplitOnce
  rw [hall]

/-- What stands before and after a colon. -/
theorem partition_colon {before : String} (h : ':' ∉ before.toList) (after : String) :
    partition ':' (before ++ ":" ++ after) = (before, true, after) := by
  have htext : String.singleton ':' = ":" := by decide
  rw [← htext]
  exact partition_append h after

theorem partition_slash {before : String} (h : '/' ∉ before.toList) (after : String) :
    partition '/' (before ++ "/" ++ after) = (before, true, after) := by
  have htext : String.singleton '/' = "/" := by decide
  rw [← htext]
  exact partition_append h after

theorem rsplitOnce_colon {after : String} (h : ':' ∉ after.toList) (before : String) :
    Compose.rsplitOnce ':' (before ++ ":" ++ after) = (some before, after) := by
  have htext : String.singleton ':' = ":" := by decide
  rw [← htext]
  exact rsplitOnce_append h before

theorem partition_none {sep : Char} {text : String} (h : sep ∉ text.toList) :
    partition sep text = (text, false, "") := by
  have hne : ∀ c ∈ text.toList, (c != sep) = true := by
    intro c hc
    exact bne_iff_ne.mpr fun heq => h (heq ▸ hc)
  have hall : text.toList.dropWhile (· != sep) = [] := List.dropWhile_eq_nil_iff.mpr hne
  have htake : text.toList.takeWhile (· != sep) = text.toList := List.takeWhile_eq_self_iff.mpr hne
  unfold partition
  rw [hall, htake]
  simp

theorem readNumber_toString (n : Nat) : readNumber (toString n) = n := by
  have hlist : (toString n).toList = Nat.toDigits 10 n := Nat.toList_repr
  rw [readNumber, hlist, Nat.ofDigitChars_ten_toDigits]

theorem readRestart_count (n : Nat) :
    readRestart ("on-failure:" ++ toString n) = ("on-failure", n) := by
  have htext : "on-failure" ++ ":" = "on-failure:" := by decide
  rw [← htext, readRestart, partition_colon (by decide)]
  exact congrArg (Prod.mk _) (readNumber_toString n)

/-- The bindings under a container port are those that were grouped there. -/
theorem lookup_groupPorts (bindings : List (String × PortBinding)) (key : String) :
    ((groupPorts bindings).lookup key).getD [] =
      (bindings.filter fun e => e.1 == key).map Prod.snd := by
  have hkeys (keys : List String) :
      (keys.map fun k => (k, (bindings.filter fun e => e.1 == k).map Prod.snd)).lookup key =
        if key ∈ keys then some ((bindings.filter fun e => e.1 == key).map Prod.snd) else none := by
    induction keys with
    | nil => rfl
    | cons k rest ih =>
      rw [List.map_cons, List.lookup_cons, ih]
      by_cases hk : key = k
      · simp [hk]
      · simp [hk, beq_eq_false_iff_ne.mpr hk]
  rw [groupPorts, hkeys]
  split
  case isTrue => rfl
  case isFalse hmem =>
    rw [List.mem_dedup, List.mem_map] at hmem
    have hnone : (bindings.filter fun e => e.1 == key) = [] := by
      refine List.filter_eq_nil_iff.mpr fun e he heq => hmem ⟨e, he, eq_of_beq heq⟩
    rw [hnone]
    rfl

end Greffer.Updater

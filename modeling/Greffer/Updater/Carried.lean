import Greffer.Updater.DockerCreate

/-! # The options that a recreation gives

For each option of `docker create`, the words that the command line of a recreation gives it, and
what docker reads in them.  **What is not influenced by the image is carried as it is**: restart
policy, log driver, hosts, ports, mounts and network read back as they were, of a container that
docker can report (`Expressible`).
-/
namespace Greffer.Updater

/-! ## The words of each option -/

section Words
variable {flag : String} {words : List String} (c : Inspected) (oldCfg : Config)
  (imageRef : ImageRef) (service : String)

theorem words_network (h : Gives "--network" (networkArgs c.hostConfig service) words) :
    optionValues "--network" (buildCreateArgv c oldCfg imageRef service).options = words :=
  words_of c oldCfg imageRef service ["--network", "--network-alias"] (by simp [optionGroups])
    (by decide) h

theorem words_restart (h : Gives "--restart" (restartArgs c.hostConfig) words) :
    optionValues "--restart" (buildCreateArgv c oldCfg imageRef service).options = words :=
  words_of c oldCfg imageRef service ["--restart"] (by simp [optionGroups]) (by decide) h

theorem words_log (hflag : flag ∈ ["--log-driver", "--log-opt"])
    (h : Gives flag (logArgs c.hostConfig) words) :
    optionValues flag (buildCreateArgv c oldCfg imageRef service).options = words :=
  words_of c oldCfg imageRef service _ (by simp [optionGroups]) hflag h

theorem words_hosts :
    optionValues "--add-host" (buildCreateArgv c oldCfg imageRef service).options =
      c.hostConfig.extraHosts := by
  have h : Gives "--add-host" (c.hostConfig.extraHosts.flatMap fun h => ["--add-host", h])
      (c.hostConfig.extraHosts.flatMap fun h => [h]) :=
    Gives.flatMap _ fun h => Gives.own h (by decide)
  rw [words_of c oldCfg imageRef service ["--add-host"] (by simp [optionGroups]) (by decide) h]
  simp

theorem words_mounts (h : Gives "-v" (mountArgs c.mounts) words) :
    optionValues "-v" (buildCreateArgv c oldCfg imageRef service).options = words :=
  words_of c oldCfg imageRef service ["-v"] (by simp [optionGroups]) (by decide) h

theorem words_ports (h : Gives "-p" (portArgs c.hostConfig.portBindings) words) :
    optionValues "-p" (buildCreateArgv c oldCfg imageRef service).options = words :=
  words_of c oldCfg imageRef service ["-p"] (by simp [optionGroups]) (by decide) h

theorem words_health (hflag : flag ∈ ["--health-cmd", "--health-interval", "--health-timeout",
      "--health-start-period", "--health-retries"])
    (h : Gives flag (healthcheckArgs c.config.healthcheck oldCfg.healthcheck) words) :
    optionValues flag (buildCreateArgv c oldCfg imageRef service).options = words :=
  words_of c oldCfg imageRef service _ (by simp [optionGroups]) hflag h

theorem words_scalars (hflag : flag ∈ ["--user", "--workdir", "--stop-signal"])
    (h : Gives flag (scalarDeltaArgs c.config oldCfg) words) :
    optionValues flag (buildCreateArgv c oldCfg imageRef service).options = words :=
  words_of c oldCfg imageRef service _ (by simp [optionGroups]) hflag h

theorem words_entrypoint :
    optionValues "--entrypoint" (buildCreateArgv c oldCfg imageRef service).options =
      (entrypointOverride c.config.entrypoint oldCfg.entrypoint).toList := by
  have h : Gives "--entrypoint"
      (((entrypointOverride c.config.entrypoint oldCfg.entrypoint).map
        fun e => ["--entrypoint", e]).getD [])
      (entrypointOverride c.config.entrypoint oldCfg.entrypoint).toList := by
    cases entrypointOverride c.config.entrypoint oldCfg.entrypoint with
    | none => exact Gives.nil
    | some e => exact Gives.own e (by decide)
  exact words_of c oldCfg imageRef service ["--entrypoint"] (by simp [optionGroups]) (by decide) h

end Words

/-! ## Containers that docker can report -/

/-- A container port, with its protocol. -/
def IsPortKey (key : String) : Prop :=
  ∃ port proto : String, key = port ++ "/" ++ proto ∧ ':' ∉ port.toList ∧ '/' ∉ port.toList ∧
    ':' ∉ proto.toList ∧ proto ≠ ""

/-- A named volume or a bind. -/
structure IsMount (m : Mount) : Prop where
  source : (m.type = "volume" ∧ m.name ≠ "" ∧ ':' ∉ m.name.toList ∧ m.name.toList.head? ≠ some '/') ∨
    m.type = "bind" ∧ ':' ∉ m.source.toList ∧ m.source.toList.head? = some '/'
  destination : m.destination ≠ "" ∧ ':' ∉ m.destination.toList

/-- What docker reports of any container, and what the updater can express: volumes and binds, and an
entrypoint of at most one word.  Docker has a retry count of `on-failure` alone, a log driver
wherever it has its options, and no name of an option with a `=`. -/
structure Expressible (c : Inspected) : Prop where
  entrypoint : c.config.entrypoint.length ≤ 1
  labels : (c.config.labels.map Prod.fst).Nodup
  restart : ':' ∉ c.hostConfig.restartName.toList ∧
    (c.hostConfig.restartName ≠ "on-failure" → c.hostConfig.maximumRetryCount = 0)
  log : c.hostConfig.logType = "" → c.hostConfig.logConfig = []
  logOptions : (c.hostConfig.logConfig.map Prod.fst).Nodup ∧
    ∀ e ∈ c.hostConfig.logConfig, '=' ∉ e.1.toList
  ports : (c.hostConfig.portBindings.map Prod.fst).Nodup ∧
    ∀ e ∈ c.hostConfig.portBindings, IsPortKey e.1 ∧ ∀ b ∈ e.2, ':' ∉ b.hostPort.toList
  mounts : ∀ m ∈ c.mounts, IsMount m

/-! ## What is carried as it is -/

section Verbatim
variable {c : Inspected} (oldCfg : Config) (imageRef : ImageRef) (service : String)

theorem network_carried :
    effectiveNetwork (createdHostConfig (buildCreateArgv c oldCfg imageRef service)).networkMode =
      effectiveNetwork c.hostConfig.networkMode := by
  by_cases hdefault : c.hostConfig.networkMode = "" ∨ c.hostConfig.networkMode = "default" ∨
      c.hostConfig.networkMode = "bridge"
  · have hwords : Gives "--network" (networkArgs c.hostConfig service) [] := by
      have hhost : c.hostConfig.networkMode ≠ "host" ∧ c.hostConfig.networkMode ≠ "none" := by
        rcases hdefault with h | h | h <;> rw [h] <;> decide
      rw [networkArgs, if_neg hhost.1, if_neg hhost.2, if_pos hdefault]
      exact Gives.nil
    rw [createdHostConfig]
    dsimp only
    rw [lastOption, words_network c oldCfg imageRef service hwords]
    rcases hdefault with h | h | h <;> rw [h] <;> decide
  · have hwords : Gives "--network" (networkArgs c.hostConfig service)
        [c.hostConfig.networkMode] := by
      unfold networkArgs
      split
      case isTrue hhost =>
        rw [hhost]
        exact Gives.own _ (by decide)
      case isFalse =>
        split
        case isTrue hnone =>
          rw [hnone]
          exact Gives.own _ (by decide)
        case isFalse =>
          refine (Gives.own _ (by decide)).append (Gives.ite ?_ Gives.nil)
          exact Gives.other _ (by decide) (by decide)
    rw [createdHostConfig]
    dsimp only
    rw [lastOption, words_network c oldCfg imageRef service hwords]
    rfl

theorem hosts_carried :
    (createdHostConfig (buildCreateArgv c oldCfg imageRef service)).extraHosts =
      c.hostConfig.extraHosts := words_hosts c oldCfg imageRef service

theorem restart_carried (hc : Expressible c) :
    ((createdHostConfig (buildCreateArgv c oldCfg imageRef service)).restartName,
        (createdHostConfig (buildCreateArgv c oldCfg imageRef service)).maximumRetryCount) =
      (if c.hostConfig.restartName = "" then "no" else c.hostConfig.restartName,
        c.hostConfig.maximumRetryCount) := by
  obtain ⟨hplain, hcount⟩ := hc.restart
  have hnone : partition ':' c.hostConfig.restartName = (c.hostConfig.restartName, false, "") :=
    partition_none hplain
  rw [createdHostConfig]
  dsimp only
  -- `no` is never written, and a count only where there is one to write.
  by_cases hno : c.hostConfig.restartName = "" ∨ c.hostConfig.restartName = "no"
  · have hwords : Gives "--restart" (restartArgs c.hostConfig) [] := by
      rw [restartArgs, if_pos hno]
      exact Gives.nil
    have hzero : c.hostConfig.maximumRetryCount = 0 := by
      refine hcount fun hname => ?_
      rw [hname] at hno
      exact absurd hno (by decide)
    rw [lastOption, words_restart c oldCfg imageRef service hwords, hzero]
    rcases hno with h | h <;> rw [h] <;> rfl
  · have hne : c.hostConfig.restartName ≠ "" := fun h => hno (.inl h)
    rw [if_neg hne]
    by_cases hfailure : c.hostConfig.restartName = "on-failure" ∧ c.hostConfig.maximumRetryCount ≠ 0
    · have hwords : Gives "--restart" (restartArgs c.hostConfig)
          ["on-failure:" ++ toString c.hostConfig.maximumRetryCount] := by
        rw [restartArgs, if_neg hno, if_pos hfailure.1, if_pos hfailure.2]
        exact Gives.own _ (by decide)
      rw [lastOption, words_restart c oldCfg imageRef service hwords]
      dsimp only [List.getLast?_singleton, Option.map_some, Option.getD_some]
      rw [readRestart_count, hfailure.1]
    · have hwords : Gives "--restart" (restartArgs c.hostConfig) [c.hostConfig.restartName] := by
        rw [restartArgs, if_neg hno]
        split
        case isTrue hname =>
          rw [if_neg fun hcount => hfailure ⟨hname, hcount⟩, hname]
          exact Gives.own _ (by decide)
        case isFalse => exact Gives.own _ (by decide)
      have hzero : c.hostConfig.maximumRetryCount = 0 := by
        by_cases hname : c.hostConfig.restartName = "on-failure"
        · by_contra hcount
          exact hfailure ⟨hname, hcount⟩
        · exact hcount hname
      have hread : readRestart c.hostConfig.restartName = (c.hostConfig.restartName, 0) := by
        rw [readRestart, hnone]
        rfl
      rw [lastOption, words_restart c oldCfg imageRef service hwords]
      dsimp only [List.getLast?_singleton, Option.map_some, Option.getD_some]
      rw [hread, hzero]

theorem log_carried (hc : Expressible c) :
    (createdHostConfig (buildCreateArgv c oldCfg imageRef service)).logType =
        c.hostConfig.logType ∧
      ∀ k, (createdHostConfig (buildCreateArgv c oldCfg imageRef service)).logConfig.lookup k =
        c.hostConfig.logConfig.lookup k := by
  rw [createdHostConfig]
  dsimp only
  by_cases htype : c.hostConfig.logType = ""
  · have hwords (flag : String) : Gives flag (logArgs c.hostConfig) [] := by
      rw [logArgs, if_pos htype]
      exact Gives.nil
    rw [lastOption, words_log c oldCfg imageRef service (by decide) (hwords "--log-driver"),
      words_log c oldCfg imageRef service (by decide) (hwords "--log-opt"), htype, hc.log htype]
    exact ⟨rfl, fun _ => rfl⟩
  · have hdriver : Gives "--log-driver" (logArgs c.hostConfig) [c.hostConfig.logType] := by
      rw [logArgs, if_neg htype]
      exact (Gives.own _ (by decide)).append
        (Gives.otherEntries _ _ (by decide) (by decide) _)
    have hopts : Gives "--log-opt" (logArgs c.hostConfig) (c.hostConfig.logConfig.map entryText) := by
      rw [logArgs, if_neg htype]
      exact (Gives.other _ (by decide) (by decide)).append (Gives.entries _ (by decide) _)
    rw [lastOption, words_log c oldCfg imageRef service (by decide) hdriver,
      words_log c oldCfg imageRef service (by decide) hopts]
    exact ⟨rfl, kvListToDict_texts hc.logOptions.1 hc.logOptions.2⟩

/-! ## Mounts -/

/-- The specification of a mount. -/
def mountText (m : Mount) : String :=
  (if m.type = "volume" then m.name else m.source) ++ ":" ++ m.destination ++
    if m.rw = some false then ":ro" else ""

theorem mountArg_eq {m : Mount} (hm : IsMount m) : mountArg m = ["-v", mountText m] := by
  have hsource : (if m.type = "volume" then m.name else if m.type = "bind" then m.source else "") =
      (if m.type = "volume" then m.name else m.source) ∧
        (if m.type = "volume" then m.name else m.source) ≠ "" := by
    rcases hm.source with ⟨htype, hname, -, -⟩ | ⟨htype, -, hpath⟩
    · rw [if_pos htype, if_pos htype]
      exact ⟨rfl, hname⟩
    · have hne : m.type ≠ "volume" := by
        rw [htype]
        decide
      rw [if_neg hne, if_pos htype, if_neg hne]
      refine ⟨rfl, fun hempty => ?_⟩
      rw [hempty] at hpath
      cases hpath
  unfold mountArg mountText
  dsimp only
  rw [hsource.1, if_neg (not_or.mpr ⟨hm.destination.1, hsource.2⟩)]

theorem readMount_text {m : Mount} (hm : IsMount m) :
    effectiveMount (readMount (mountText m)) = effectiveMount m := by
  have hrest : partition ':' (m.destination ++ if m.rw = some false then ":ro" else "") =
      (m.destination, decide (m.rw = some false), if m.rw = some false then "ro" else "") := by
    by_cases hro : m.rw = some false
    · have hpart := partition_colon hm.destination.2 "ro"
      have htext : ":" ++ "ro" = ":ro" := by decide
      rw [String.append_assoc, htext] at hpart
      rw [if_pos hro, if_pos hro, decide_eq_true hro]
      exact hpart
    · rw [if_neg hro, if_neg hro, decide_eq_false hro, String.append_empty]
      exact partition_none hm.destination.2
  have hwritable : ((if m.rw = some false then "ro" else "") != "ro") = (m.rw != some false) := by
    by_cases hro : m.rw = some false
    · rw [if_pos hro, hro]
      rfl
    · rw [if_neg hro, bne_iff_ne.mpr hro]
      rfl
  have hspec (source : String) (hplain : ':' ∉ source.toList) :
      partition ':' (source ++ ":" ++ m.destination ++ if m.rw = some false then ":ro" else "") =
        (source, true, m.destination ++ if m.rw = some false then ":ro" else "") := by
    rw [String.append_assoc]
    exact partition_colon hplain _
  have hflag : (some (m.rw != some false) != some false) = (m.rw != some false) := by
    cases m.rw != some false <;> rfl
  unfold mountText readMount
  rcases hm.source with ⟨htype, -, hplain, hname⟩ | ⟨htype, hplain, hpath⟩
  · rw [if_pos htype, hspec _ hplain]
    dsimp only
    rw [hrest, if_neg hname, hwritable, effectiveMount, effectiveMount, hflag, htype]
    rfl
  · have hne : m.type ≠ "volume" := by
      rw [htype]
      decide
    rw [if_neg hne, hspec _ hplain]
    dsimp only
    rw [hrest, if_pos hpath, hwritable, effectiveMount, effectiveMount, hflag, htype]
    rfl

theorem mounts_carried (hc : Expressible c) :
    ((optionValues "-v" (buildCreateArgv c oldCfg imageRef service).options).map readMount).map
        effectiveMount = c.mounts.map effectiveMount := by
  have hargs : mountArgs c.mounts = c.mounts.flatMap fun m => ["-v", mountText m] :=
    List.flatMap_congr fun m hm => mountArg_eq (hc.mounts m hm)
  have hwords : Gives "-v" (mountArgs c.mounts) (c.mounts.map mountText) := by
    rw [hargs, List.map_eq_flatMap]
    exact Gives.flatMap _ fun m => Gives.own _ (by decide)
  rw [words_mounts c oldCfg imageRef service hwords, List.map_map, List.map_map]
  exact List.map_congr_left fun m hm => readMount_text (hc.mounts m hm)

/-! ## Ports -/

/-- The specification of a binding. -/
def portText (containerPort : String) (b : PortBinding) : String :=
  let (cp, _, proto) := partition '/' containerPort
  let spec := if b.hostIp ≠ "" then b.hostIp ++ ":" ++ b.hostPort ++ ":" ++ cp
    else if b.hostPort ≠ "" then b.hostPort ++ ":" ++ cp
    else cp
  if proto ≠ "" ∧ proto ≠ "tcp" then spec ++ "/" ++ proto else spec

/-- The container port of a specification, with the protocol that is not the default one. -/
def portTail (port proto : String) : String := port ++ if proto ≠ "tcp" then "/" ++ proto else ""

theorem colon_portTail {port proto : String} (hport : ':' ∉ port.toList)
    (hproto : ':' ∉ proto.toList) : ':' ∉ (portTail port proto).toList := by
  intro hmem
  rw [portTail, String.toList_append] at hmem
  rcases List.mem_append.mp hmem with h | h
  · exact hport h
  · split at h
    · rw [String.toList_append] at h
      rcases List.mem_append.mp h with h | h
      · exact absurd h (by decide)
      · exact hproto h
    · exact absurd h (by decide)

theorem partition_portTail {port : String} (hslash : '/' ∉ port.toList) (proto : String) :
    ∃ found, partition '/' (portTail port proto) =
      (port, found, if proto = "tcp" then "" else proto) := by
  unfold portTail
  by_cases htcp : proto = "tcp"
  · rw [if_neg (not_not_intro htcp), if_pos htcp, String.append_empty]
    exact ⟨false, partition_none hslash⟩
  · have hpart := partition_slash hslash proto
    rw [String.append_assoc] at hpart
    rw [if_pos htcp, if_neg htcp]
    exact ⟨true, hpart⟩

/-- **A binding is read back.** -/
theorem readPort_text {key : String} {b : PortBinding} (hkey : IsPortKey key)
    (hhost : ':' ∉ b.hostPort.toList) : readPort (portText key b) = (key, b) := by
  obtain ⟨port, proto, rfl, hport, hslash, hproto, hne⟩ := hkey
  -- a specification is the host's part, and the container port at its end
  have htext : portText (port ++ "/" ++ proto) b =
      (if b.hostIp ≠ "" then b.hostIp ++ ":" ++ b.hostPort ++ ":"
        else if b.hostPort ≠ "" then b.hostPort ++ ":" else "") ++ portTail port proto := by
    unfold portText portTail
    rw [partition_slash hslash]
    dsimp only
    by_cases htcp : proto = "tcp"
    · rw [if_neg fun h => h.2 htcp, if_neg (not_not_intro htcp), String.append_empty]
      split
      · rfl
      · split
        · rfl
        · rw [String.empty_append]
    · rw [if_pos ⟨hne, htcp⟩, if_pos htcp]
      split
      · simp only [String.append_assoc]
      · split
        · simp only [String.append_assoc]
        · rw [String.empty_append, String.append_assoc]
  obtain ⟨found, htail⟩ := partition_portTail hslash proto
  have hkey : (port ++ "/" ++ if (if proto = "tcp" then "" else proto) = "" then "tcp"
      else if proto = "tcp" then "" else proto) = port ++ "/" ++ proto := by
    by_cases htcp : proto = "tcp"
    · rw [if_pos htcp, if_pos rfl, htcp]
    · rw [if_neg htcp, if_neg hne]
  have hclear := colon_portTail hport hproto
  rw [htext]
  unfold readPort
  -- `containerPort`, `hostPort:containerPort`, or `ip:hostPort:containerPort`
  by_cases hip : b.hostIp = ""
  · rw [if_neg (not_not_intro hip)]
    by_cases hhostPort : b.hostPort = ""
    · rw [if_neg (not_not_intro hhostPort), String.empty_append, rsplitOnce_none hclear]
      dsimp only
      rw [htail]
      dsimp only
      rw [hkey]
      obtain ⟨ip, hp⟩ := b
      cases hip
      cases hhostPort
      rfl
    · rw [if_pos hhostPort, rsplitOnce_colon hclear]
      dsimp only
      rw [htail, rsplitOnce_none hhost]
      dsimp only
      rw [hkey]
      obtain ⟨ip, hp⟩ := b
      cases hip
      rfl
  · rw [if_pos hip, rsplitOnce_colon hclear]
    dsimp only
    rw [htail, rsplitOnce_colon hhost]
    dsimp only
    rw [hkey]

theorem ports_carried (hc : Expressible c) (key : String) :
    (((createdHostConfig (buildCreateArgv c oldCfg imageRef service)).portBindings.lookup key).getD
      []) = (c.hostConfig.portBindings.lookup key).getD [] := by
  have hwords : Gives "-p" (portArgs c.hostConfig.portBindings)
      (c.hostConfig.portBindings.flatMap fun e => e.2.flatMap fun b => [portText e.1 b]) :=
    Gives.flatMap _ fun e => Gives.flatMap _ fun b => Gives.own _ (by decide)
  rw [createdHostConfig]
  dsimp only
  rw [words_ports c oldCfg imageRef service hwords, lookup_groupPorts]
  obtain ⟨hdistinct, hkeys⟩ := hc.ports
  clear hwords
  revert hdistinct hkeys
  generalize c.hostConfig.portBindings = table
  intro hdistinct hkeys
  induction table with
  | nil => rfl
  | cons e rest ih =>
    obtain ⟨name, bindings⟩ := e
    rw [List.map_cons, List.nodup_cons] at hdistinct
    rw [List.forall_mem_cons] at hkeys
    have hread : (bindings.flatMap fun b => [portText name b]).map readPort =
        bindings.map fun b => (name, b) := by
      rw [← List.map_eq_flatMap, List.map_map]
      exact List.map_congr_left fun b hb => readPort_text hkeys.1.1 (hkeys.1.2 b hb)
    rw [List.flatMap_cons, List.map_append, hread, List.filter_append, List.map_append,
      ih hdistinct.2 hkeys.2, List.lookup_cons]
    by_cases hname : key = name
    · have hnone : rest.lookup key = none := lookup_of_notMem (hname ▸ hdistinct.1)
      have hall : (bindings.map fun b => (name, b)).filter (fun e => e.1 == key) =
          bindings.map fun b => (name, b) :=
        List.filter_eq_self.mpr fun e he => by
          obtain ⟨b, -, rfl⟩ := List.mem_map.mp he
          exact beq_iff_eq.mpr hname.symm
      rw [hnone, hall, List.map_map, beq_iff_eq.mpr hname]
      exact (List.append_nil _).trans (List.map_id _)
    · have hnone : (bindings.map fun b => (name, b)).filter (fun e => e.1 == key) = [] :=
        List.filter_eq_nil_iff.mpr fun e he heq => by
          obtain ⟨b, -, rfl⟩ := List.mem_map.mp he
          exact hname (eq_of_beq heq).symm
      rw [hnone, beq_eq_false_iff_ne.mpr hname]
      rfl

end Verbatim

end Greffer.Updater

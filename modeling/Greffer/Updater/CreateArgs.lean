import Greffer.Updater.Commands

/-! # The `docker create` command line

A container is recreated from what `docker inspect` said of it.  Of the fields an
image also sets, only what **differs from the old image** is carried over, so that
the new image's own defaults come through; the others are carried as they are.
-/
namespace Greffer.Updater

/-- `_kv_list_to_dict`. -/
def kvListToDict (envList : List String) : List (String × String) :=
  envList.foldl (fun out item => upsert out (partition '=' item).1 (partition '=' item).2.2) []

/-- `_dict_delta`: the entries the image does not have identically. -/
def dictDelta (containerMap oldImageMap : List (String × String)) : List (String × String) :=
  containerMap.filter fun e => oldImageMap.lookup e.1 != some e.2

/-- `_env_delta`. -/
def envDelta (containerEnv oldImageEnv : List String) : List (String × String) :=
  dictDelta (kvListToDict containerEnv) (kvListToDict oldImageEnv)

/-- The decimal digits without the zeros at the end. -/
def significant (digits : List Char) : List Char :=
  (digits.reverse.dropWhile (· == '0')).reverse

/-- `str(ns / 1_000_000_000)`, for a value that is not whole, of up to fifteen
digits. -/
def secondsText (ns : Nat) : String :=
  let digits := (toString ns).toList
  if ns < 100000 then
    let exponent := "e-0" ++ toString (10 - digits.length)
    match significant digits with
    | [] => "0.0"
    | [d] => String.singleton d ++ exponent
    | d :: rest => String.singleton d ++ "." ++ String.ofList rest ++ exponent
  else
    let fraction := (toString (1000000000 + ns % 1000000000)).toList.drop 1
    toString (ns / 1000000000) ++ "." ++ String.ofList (significant fraction)

/-- `_duration`. -/
def duration (ns : Nat) : String :=
  if ns % 1000000000 = 0 then toString (ns / 1000000000) ++ "s" else secondsText ns ++ "s"

/-- `_network_args`. -/
def networkArgs (host : HostConfig) (service : String) : List String :=
  if host.networkMode = "host" then ["--network", "host"]
  else if host.networkMode = "none" then ["--network", "none"]
  else if host.networkMode = "" ∨ host.networkMode = "default" ∨ host.networkMode = "bridge" then []
  else ["--network", host.networkMode] ++
    if service ≠ "" then ["--network-alias", service] else []

/-- `_restart_args`. -/
def restartArgs (host : HostConfig) : List String :=
  if host.restartName = "" ∨ host.restartName = "no" then []
  else if host.restartName = "on-failure" then
    ["--restart", if host.maximumRetryCount ≠ 0
      then "on-failure:" ++ toString host.maximumRetryCount else "on-failure"]
  else ["--restart", host.restartName]

/-- `_log_args`. -/
def logArgs (host : HostConfig) : List String :=
  if host.logType = "" then []
  else ["--log-driver", host.logType] ++
    host.logConfig.flatMap fun e => ["--log-opt", e.1 ++ "=" ++ e.2]

/-- One mount of `_mount_args`: volumes by name, binds by source, the rest not at all. -/
def mountArg (m : Mount) : List String :=
  let src := if m.type = "volume" then m.name else if m.type = "bind" then m.source else ""
  if m.destination = "" ∨ src = "" then []
  else ["-v", src ++ ":" ++ m.destination ++ if m.rw = some false then ":ro" else ""]

/-- `_mount_args`. -/
def mountArgs (mounts : List Mount) : List String := mounts.flatMap mountArg

/-- One binding of `_port_args`. -/
def portArg (containerPort : String) (b : PortBinding) : List String :=
  let (cp, _, proto) := partition '/' containerPort
  let spec := if b.hostIp ≠ "" then b.hostIp ++ ":" ++ b.hostPort ++ ":" ++ cp
    else if b.hostPort ≠ "" then b.hostPort ++ ":" ++ cp
    else cp
  ["-p", if proto ≠ "" ∧ proto ≠ "tcp" then spec ++ "/" ++ proto else spec]

/-- `_port_args`. -/
def portArgs (portBindings : List (String × List PortBinding)) : List String :=
  portBindings.flatMap fun e => e.2.flatMap (portArg e.1)

/-- A flag with a duration, if the duration is set. -/
def durationFlag (flag : String) (ns : Nat) : List String :=
  if ns ≠ 0 then [flag, duration ns] else []

/-- `_healthcheck_args`. -/
def healthcheckArgs (cont oldImg : Healthcheck) : List String :=
  if cont = oldImg then []
  else if cont.test = [] ∨ cont.test = ["NONE"] then
    if oldImg ≠ {} then ["--no-healthcheck"] else []
  else
    let command := match cont.test with
      | "CMD-SHELL" :: script :: _ => script
      | "CMD" :: words => " ".intercalate words
      | words => " ".intercalate words
    ["--health-cmd", command] ++ durationFlag "--health-interval" cont.interval ++
      durationFlag "--health-timeout" cont.timeout ++
      durationFlag "--health-start-period" cont.startPeriod ++
      if cont.retries ≠ 0 then ["--health-retries", toString cont.retries] else []

/-- One field of `_scalar_delta_args`. -/
def scalarArg (flag cont oldImg : String) : List String :=
  if cont ≠ "" ∧ cont ≠ oldImg then [flag, cont] else []

/-- `_scalar_delta_args`. -/
def scalarDeltaArgs (cont oldImg : Config) : List String :=
  scalarArg "--user" cont.user oldImg.user ++
    scalarArg "--workdir" cont.workingDir oldImg.workingDir ++
    scalarArg "--stop-signal" cont.stopSignal oldImg.stopSignal

/-- `_entrypoint_override`: of several elements only the first can be expressed. -/
def entrypointOverride (cont oldImg : List String) : Option String :=
  if cont = oldImg then none else cont.head?

/-- `_cmd_override`. -/
def cmdOverride (cont oldImg : List String) : List String :=
  if cont = oldImg then [] else cont

/-- `build_create_argv`. -/
def buildCreateArgv (container : Inspected) (oldCfg : Config) (imageRef : ImageRef)
    (service : String) : CreateArgs :=
  let cfg := container.config
  let host := container.hostConfig
  { name := container.bareName
    options :=
      networkArgs host service ++ restartArgs host ++ logArgs host ++
      host.extraHosts.flatMap (fun h => ["--add-host", h]) ++
      (envDelta cfg.env oldCfg.env).flatMap (fun e => ["-e", e.1 ++ "=" ++ e.2]) ++
      (dictDelta cfg.labels oldCfg.labels).flatMap (fun e => ["--label", e.1 ++ "=" ++ e.2]) ++
      mountArgs container.mounts ++ portArgs host.portBindings ++
      healthcheckArgs cfg.healthcheck oldCfg.healthcheck ++ scalarDeltaArgs cfg oldCfg ++
      ((entrypointOverride cfg.entrypoint oldCfg.entrypoint).map
        fun e => ["--entrypoint", e]).getD []
    image := imageRef
    command := cmdOverride cfg.cmd oldCfg.cmd }

end Greffer.Updater

import Mathlib.Data.List.Dedup
import Mathlib.Data.List.Sort
import Greffer.Compose.Yaml

/-! # Normalizing a compose

One pass in front of everything else: it refuses the keys that are not on the allowlist
of the trust in force, brings every spelling of ports, mounts and networks to one shape,
and refuses what cannot be honoured with an error that names the service and the key.

The values of a `dict` are whatever the author wrote, so a step may also raise an
exception that is not the pass's own: a mount whose source is a number has no
`startswith`, and a digit that is no decimal is refused by `int` only.
-/
namespace Greffer.Compose

/-- What the pass raises: its own error, with the path and the value it names, or any
other exception. -/
inductive ComposeError where
  | shape (service : Option Yaml) (key : Yaml) (message : String) (value : Option Yaml)
  | raised (e : Exn)

/-- `_bad`.  The text of the error holds the path and the `repr` of the value. -/
def bad {α : Type} (service : Option Yaml) (key : Yaml) (message : String)
    (value : Option Yaml := none) : Except ComposeError α :=
  match (service.bind Yaml.reprFailure).or (key.reprFailure.or (value.bind Yaml.reprFailure)) with
  | none => .error (.shape service key message value)
  | some e => .error (.raised e)

/-- `_bad`, of a service. -/
def badService {α : Type} (service key : String) (message : String) (value : Yaml) :
    Except ComposeError α :=
  bad (some (.str service)) (.str key) message (some value)

/-- An exception of a built-in operation. -/
def builtin {α : Type} (r : Except Exn α) : Except ComposeError α := r.mapError .raised

/-! ## Ports -/

/-- A normalized `ports` entry. -/
structure Port where
  target : String
  protocol : Option String
  deriving DecidableEq

/-- The entry as a `dict`. -/
def Port.toYaml (p : Port) : Yaml :=
  .dict [(.str "target", .str p.target), (.str "protocol", (p.protocol.map .str).getD .null)]

/-- `_PROTOCOLS`. -/
def protocols : List String := ["tcp", "udp"]

/-- The container port and the protocol of an entry. -/
def portFields (entry : Yaml) (service : String) : Except ComposeError (Yaml × Yaml) :=
  match entry with
  | .int n => (builtin (Yaml.strOfInt n)).map fun t => (.str t, .null)
  | .str raw =>
    -- the container port is the last part of the short form
    match rsplitOnce '/' raw with
    | (some left, proto) => .ok (.str (rsplitOnce ':' left).2, .str (asciiLower proto))
    | (none, raw) => .ok (.str (rsplitOnce ':' raw).2, .null)
  | .dict d =>
    match Dict.get? d "target" with
    | none => badService service "ports" "long-syntax port requires 'target'" entry
    | some target => .ok (target, (Dict.get? d "protocol").getD .null)
  | _ => badService service "ports"
      ("unsupported ports entry type (" ++ entry.typeName ++ ")") entry

/-- What is wrong with a container port. -/
def portHint (entry target : Yaml) : String :=
  match entry, target with
  | _, .str t =>
    if t.toList.contains '-' then
      "port ranges are not supported; declare each port as its own entry"
    else match entry with
      | .dict _ => "long-syntax 'target' must be the container port"
      | _ => "container port must be an integer"
  | .dict _, _ => "long-syntax 'target' must be the container port"
  | _, _ => "container port must be an integer"

/-- The container port, if it is one. -/
def portTarget (entry target : Yaml) (service : String) : Except ComposeError String := do
  let target ← match target with
    | .int n => (builtin (Yaml.strOfInt n)).map Yaml.str
    | t => .ok t
  match target with
  | .str t =>
    if isDigit t then
      let n ← builtin (intOfDigits t)
      if 0 < n ∧ n < 65536 then return t
      else badService service "ports" (portHint entry target) entry
    else badService service "ports" (portHint entry target) entry
  | _ => badService service "ports" (portHint entry target) entry

/-- The protocol, if it is one. -/
def portProtocol (entry protocol : Yaml) (service : String) :
    Except ComposeError (Option String) :=
  match protocol with
  | .null => .ok none
  | .str p =>
    if p ∈ protocols then .ok (some p)
    else badService service "ports" "protocol must be one of ['tcp', 'udp']" entry
  | p =>
    -- a set is looked up as the frozen set that it equals
    if p.hashable || p.typeName == "set" then
      badService service "ports" "protocol must be one of ['tcp', 'udp']" entry
    else .error (.raised (.typeError ("unhashable type: '" ++ p.typeName ++ "'")))

/-- `_normalize_port`. -/
def normalizePort (entry : Yaml) (service : String) : Except ComposeError Port := do
  let (target, protocol) ← portFields entry service
  let target ← portTarget entry target service
  let protocol ← portProtocol entry protocol service
  return ⟨target, protocol⟩

/-! ## Mounts -/

/-- A normalized `volumes` entry. -/
structure VolumeMount where
  source : String
  target : String
  mode : Option String
  deriving DecidableEq

/-- The entry as a `dict`. -/
def VolumeMount.toYaml (m : VolumeMount) : Yaml :=
  .dict [(.str "source", .str m.source), (.str "target", .str m.target),
    (.str "mode", (m.mode.map .str).getD .null)]

/-- `_MOUNT_MODES`. -/
def mountModes : List String := ["ro", "rw", "z", "Z", "cached", "delegated", "consistent", "default"]

/-- The refusal of a mount without a source. -/
def anonymousVolume {α : Type} (entry : Yaml) (service : String) : Except ComposeError α :=
  badService service "volumes"
    "anonymous volumes are not supported; declare a named volume in the top-level volumes block" entry

/-- The access mode of the long form. -/
def longMode (d : Entries) : Option String :=
  match Dict.get? d "read_only", Dict.get? d "mode" with
  | some (.bool true), _ => some "ro"
  | _, some (.str "ro") => some "ro"
  | _, some (.str "rw") => some "rw"
  | _, _ => none

/-- Nested volume options, which the rebuilt mount cannot express. -/
def hasOptions (d : Entries) : Bool :=
  match Dict.get? d "volume" with
  | some (.dict (_ :: _)) => true
  | _ => false

/-- The source, the target and the mode of an entry. -/
def mountFields (entry : Yaml) (service : String) :
    Except ComposeError (Yaml × Yaml × Option String) :=
  match entry with
  | .str s =>
    match split ':' s with
    | [source, target] => .ok (.str source, .str target, none)
    | [source, target, mode] =>
      if mode ∈ mountModes then .ok (.str source, .str target, some mode)
      else badService service "volumes" ("unknown mount mode (known: ['Z', 'cached', " ++
        "'consistent', 'default', 'delegated', 'ro', 'rw', 'z'])") entry
    | [_] => anonymousVolume entry service
    | _ => badService service "volumes" "expected SOURCE:TARGET[:MODE]" entry
  | .dict d => do
    if hasOptions d then
      badService service "volumes" ("long-syntax volume options (subpath/nocopy) are not " ++
        "supported by the rebuilt mount; declare the subdirectory as its own top-level volume " ++
        "instead") entry
    else
    let vtype := (Dict.get? d "type").getD (.str "volume")
    if vtype = .str "volume" then
      match Dict.get? d "target" with
      | none => badService service "volumes" "long-syntax volume requires 'target'" entry
      | some target =>
        let source := (Dict.get? d "source").getD .null
        if source.truthy then .ok (source, target, longMode d)
        else anonymousVolume entry service
    else badService service "volumes" ("volume type '" ++ (vtype.text.toOption.getD vtype.typeName)
      ++ "' is not supported; use a named volume (type: volume)") entry
  | _ => badService service "volumes"
      ("unsupported volumes entry type (" ++ entry.typeName ++ ")") entry

/-- `v.startswith(…)`: the text, if `v` is one. -/
def asText (v : Yaml) : Except ComposeError String :=
  match v with
  | .str s => .ok s
  | .other "bytes" _ _ _ _ => .error (.raised (.typeError "startswith first arg must be bytes"))
  | v => .error (.raised (.attributeError ("'" ++ v.typeName ++ "' object has no attribute " ++
      "'startswith'")))

/-- Whether the text begins with one of the characters. -/
def beginsWith (text : String) (first : List Char) : Bool :=
  match text.toList with
  | c :: _ => first.contains c
  | [] => false

/-- `_normalize_volume`. -/
def normalizeVolume (entry : Yaml) (service : String) : Except ComposeError VolumeMount := do
  let (source, target, mode) ← mountFields entry service
  if source.truthy && target.truthy then
    let source ← asText source
    if beginsWith source ['/', '.', '~'] then
      badService service "volumes" ("bind mounts are structurally unsupported on this platform; " ++
        "use a named volume declared in the top-level volumes block") entry
    else
      let target ← asText target
      if beginsWith target ['/'] then return ⟨source, target, mode⟩
      else badService service "volumes" "container target must be an absolute path" entry
  else badService service "volumes" "source and target must be non-empty" entry

/-! ## Networks -/

/-- The texts of a list that has nothing else. -/
def allTexts : List Yaml → Option (List String)
  | [] => some []
  | .str s :: rest => (allTexts rest).map (s :: ·)
  | _ :: _ => none

/-- `_normalize_service_networks`. -/
def normalizeServiceNetworks (entry : Yaml) (service : String) :
    Except ComposeError (List String) :=
  let names : Option (List String) := match entry with
    | .str s => some [s]
    | .list items => allTexts items
    | .dict d => allTexts (d.map Prod.fst)
    | _ => none
  match names with
  | some names => .ok names
  | none => badService service "networks"
      "expected a list of network names or a mapping of name to aliases" entry

/-- The networks declared at top level, as far as a service can name them. -/
def declaredNetworks (compose : Entries) : Except ComposeError (List String) :=
  let texts (items : List Yaml) : List String := items.filterMap fun
    | .str s => some s
    | _ => none
  match Dict.get? compose "networks" with
  | none => .ok []
  | some v =>
    if v.truthy then
      match v with
      | .list items => .ok (texts items)
      | .dict d => .ok (texts (d.map Prod.fst))
      | _ => bad none (.str "networks") "top-level networks must be a mapping or a list" (some v)
    else .ok []

/-- `_IMPLICIT_NETWORKS`. -/
def implicitNetworks : List String := ["default"]

/-- The networks of a service, all of them declared. -/
def checkNetworks (declared : List String) (entry : Yaml) (service : String) :
    Except ComposeError (List String) := do
  let names ← normalizeServiceNetworks entry service
  let undeclared := names.filter fun n => !declared.contains n && !implicitNetworks.contains n
  if undeclared.isEmpty then return names
  else badService service "networks" ("network(s) not declared in the top-level networks block: " ++
    ", ".intercalate (undeclared.dedup.insertionSort (· ≤ ·))) entry

/-! ## The key allowlist -/

/-- `_TOP_KEYS`. -/
def topKeys : List String := ["version", "services", "volumes", "networks"]

/-- `_MANAGED_SERVICE_KEYS`. -/
def managedServiceKeys : List String := ["ports", "volumes", "networks"]

/-- `_PRIVILEGED_SERVICE_KEYS`. -/
def privilegedServiceKeys : List String := ["cap_add", "cap_drop", "devices", "sysctls"]

/-- `_BASE_SERVICE_KEYS`. -/
def baseServiceKeys : List String :=
  ["image", "environment", "command", "entrypoint", "depends_on", "healthcheck", "labels",
    "restart", "user", "working_dir", "tmpfs", "stop_grace_period", "expose", "init", "platform",
    "shm_size", "ulimits", "logging"]

/-- `_NEVER_GRANTABLE`. -/
def neverGrantable : List String := ["env_file"]

/-- What `str.strip` takes away. -/
def isBlank (c : Char) : Bool :=
  [9, 10, 11, 12, 13, 28, 29, 30, 31, 32, 133, 160, 5760, 8192, 8193, 8194, 8195, 8196, 8197, 8198,
    8199, 8200, 8201, 8202, 8232, 8233, 8239, 8287, 12288].contains c.toNat

/-- `text.strip()`. -/
def stripBlanks (text : String) : String :=
  String.ofList ((text.toList.dropWhile isBlank).reverse.dropWhile isBlank).reverse

/-- `_parse_extra_keys`. -/
def parseExtraKeys (raw : Option String) : List String :=
  match raw with
  | none => []
  | some raw => ((split ',' raw).map stripBlanks).filter (· != "")

/-- The service keys in force. -/
def serviceKeys (strict : Bool) (extraKeys : Option String) : List String :=
  baseServiceKeys ++ (if strict then [] else privilegedServiceKeys) ++
    (parseExtraKeys extraKeys).filter fun k => !neverGrantable.contains k

/-- `key in allowed`, for a set of texts. -/
def allows (allowed : List String) (key : Yaml) : Bool :=
  match key with
  | .str s => allowed.contains s
  | _ => false

/-- The loop over the keys of a service. -/
def validateService (strict : Bool) (allowed : List String) (name : Yaml) :
    Entries → Except ComposeError Unit
  | [] => .ok ()
  | (key, _) :: rest =>
    if allows allowed key || allows managedServiceKeys key then
      validateService strict allowed name rest
    else bad (some name) key ("key not permitted" ++
      if strict then " (custom composes use the strict set; ask the operator to grant it via " ++
        "GREFFER_COMPOSE_EXTRA_ALLOWED_KEYS)" else " (catalog set)") (some key)

/-- The loop over the services, of those that are mappings. -/
def validateServices (strict : Bool) (allowed : List String) : Entries → Except ComposeError Unit
  | [] => .ok ()
  | (name, .dict d) :: rest => do
    validateService strict allowed name d
    validateServices strict allowed rest
  | _ :: rest => validateServices strict allowed rest

/-- The loop over the top-level keys. -/
def validateTop (strict : Bool) : Entries → Except ComposeError Unit
  | [] => .ok ()
  | (key, _) :: rest =>
    if allows topKeys key then validateTop strict rest
    else bad none key ("top-level key not permitted by the compose allowlist" ++
      if strict then "" else " (catalog set)") (some key)

/-- `_validate_keys`. -/
def validateKeys (compose : Entries) (strict : Bool) (extraKeys : Option String) :
    Except ComposeError Unit := do
  validateTop strict compose
  match Dict.get? compose "services" with
  | some (.dict services) => validateServices strict (serviceKeys strict extraKeys) services
  | _ => return ()

/-! ## The pass -/

/-- `services`, a mapping that is not empty. -/
def requireServices (compose : Entries) : Except ComposeError Entries :=
  match Dict.get? compose "services" with
  | some (.dict (e :: rest)) => .ok (e :: rest)
  | v => bad none (.str "services") "compose requires a non-empty 'services' mapping"
      (some (match v with
        | none | some .null => .str "<missing>"
        | some v => v))

/-- The names of the services, all of them texts. -/
def serviceNames : Entries → Except ComposeError (List (String × Yaml))
  | [] => .ok []
  | (name, body) :: rest =>
    match name with
    | .str s =>
      if s = "" then
        bad none (.str "services") "service names must be non-empty strings" (some name)
      else (serviceNames rest).map ((s, body) :: ·)
    | _ => bad none (.str "services") "service names must be non-empty strings" (some name)

/-- `_NGINX_SAFE_NAME`. -/
def isNginxSafe (name : String) : Bool :=
  name != "" && name.toList.all fun c =>
    ('a' ≤ c && c ≤ 'z') || ('A' ≤ c && c ≤ 'Z') || ('0' ≤ c && c ≤ '9') || c == '.' || c == '_' ||
      c == '-'

/-- The entries of `ports` or of `volumes`, if there are any, each normalized. -/
def normalizeEntries {β : Type} (d : Entries) (name key : String)
    (normalizer : Yaml → String → Except ComposeError β) : Except ComposeError (Option (List β)) :=
  match Dict.get? d key with
  | none | some .null => .ok none
  | some (.list items) => (items.mapM fun e => normalizer e name).map some
  | some v => badService name key
      ("'" ++ key ++ "' must be a list; a mapping or bare value is not valid compose") v

/-- `service_def[key] = [...]`, if the entries were there. -/
def setEntries {β : Type} (d : Entries) (key : String) (toYaml : β → Yaml)
    (entries : Option (List β)) : Entries :=
  match entries with
  | none => d
  | some items => Dict.set d (.str key) (.list (items.map toYaml))

/-- A container port is published once by a service. -/
def checkPorts (name : String) : List Port → List String → Except ComposeError Unit
  | [], _ => .ok ()
  | p :: rest, seen =>
    if seen.contains p.target then
      badService name "ports" ("container port " ++ p.target ++ " is published more than once; " ++
        "each container port may appear in only one ports entry (duplicate nginx upstream)")
        p.toYaml
    else checkPorts name rest (p.target :: seen)

/-- The networks of the service, if it names any. -/
def setNetworks (declared : List String) (name : String) (d : Entries) :
    Except ComposeError Entries :=
  match Dict.get? d "networks" with
  | none | some .null => .ok d
  | some entry => (checkNetworks declared entry name).map fun names =>
      Dict.set d (.str "networks") (.list (names.map .str))

/-- The loop's body: one service. -/
def normalizeService (declared : List String) (name : String) (body : Yaml) :
    Except ComposeError Entries :=
  if isNginxSafe name then
    match body with
    | .dict d => do
      let ports ← normalizeEntries d name "ports" normalizePort
      let volumes ← normalizeEntries d name "volumes" normalizeVolume
      checkPorts name (ports.getD []) []
      setNetworks declared name
        (setEntries (setEntries d "ports" Port.toYaml ports) "volumes" VolumeMount.toYaml volumes)
    | _ => badService name "<service>" "a service definition must be a mapping" body
  else bad none (.str "services") ("service names may only contain [a-zA-Z0-9._-] (nginx " ++
    "interpolates the name into upstream/server_name directives)") (some (.str name))

/-- The loop over the services. -/
def normalizeServices (declared : List String) :
    List (String × Yaml) → Except ComposeError (List (String × Entries))
  | [] => .ok []
  | (name, body) :: rest => do
    let d ← normalizeService declared name body
    let rest ← normalizeServices declared rest
    return (name, d) :: rest

/-- The services as a `dict`. -/
def servicesYaml (services : List (String × Entries)) : Yaml :=
  .dict (services.map fun s => (.str s.1, .dict s.2))

/-- `normalize_compose`. -/
def normalizeCompose (compose : Yaml) (strict : Bool) (extraKeys : Option String) :
    Except ComposeError Yaml :=
  match compose with
  | .dict entries => do
    validateKeys entries strict extraKeys
    let services ← requireServices entries
    let services ← serviceNames services
    let declared ← declaredNetworks entries
    let services ← normalizeServices declared services
    return .dict (Dict.set entries (.str "services") (servicesYaml services))
  | _ => bad none (.str "compose") "top level must be a mapping" (some compose)

end Greffer.Compose

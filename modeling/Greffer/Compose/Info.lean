import Greffer.Compose.Shape

/-! # What a start knows of its compose

`createGreffonInfo` normalizes a compose and collects from it the ports, the volumes and
the networks of the instance.  The greffer's own entries stand in the same dictionaries as
the author's: the sidecar's volume under `greffon_nginx`, the internal network under
`greffon_internal_network`.  An entry of the author's with one of these keys replaces it,
and a mount whose source is `greffon_nginx` joins it.
-/
namespace Greffer.Compose

/-- A configuration of the request, as the manager sends it. -/
structure Configuration where
  value : Yaml
  destinations : Yaml

/-- What a start request has for the compose.  The metadata of each port is a mapping. -/
structure Greffon where
  id : String
  repositoryUrl : Option String := none
  composeYaml : Option String := none
  certificate : String := ""
  privateKey : String := ""
  ports : List (String × Entries) := []
  configurations : List Configuration := []
  integrations : Entries := []

/-- The ids that the request models accept: `_ID_PATTERN`, and at most 128 characters. -/
def acceptedId (id : String) : Bool :=
  id != "" && id.length ≤ 128 && id.toList.all fun c =>
    ('A' ≤ c && c ≤ 'Z') || ('a' ≤ c && c ≤ 'z') || ('0' ≤ c && c ≤ '9') || c == '_' || c == '-'

/-- Where a container mounts a volume. -/
structure MountPoint where
  path : String
  mode : Option String := none
  deriving DecidableEq

/-- A file to copy into a volume. -/
inductive VolumeFile where
  | path (src dest : String)
  | content (content dest : String)
  deriving DecidableEq

/-- An entry of `greffon_info['volumes']`. -/
structure VolumeInfo where
  name : Yaml
  value : String
  containers : List (String × MountPoint)
  files : List VolumeFile

/-- An entry of `greffon_info['networks']`. -/
structure NetworkInfo where
  name : Yaml
  value : Yaml
  containers : List String

/-- An entry of `greffon_info['ports']`. -/
structure PortInfo where
  portContainer : String
  containerName : String
  portName : String
  url : Yaml
  protocol : Yaml
  exposureTier : Yaml
  samePort : Bool
  streaming : Bool
  /-- `port_host`, once it is allocated. -/
  portHost : Option Nat := none

/-- `greffon_info`. -/
structure GreffonInfo where
  ports : List PortInfo
  volumes : Dict VolumeInfo
  networks : Dict NetworkInfo
  id : String
  internalNetwork : String
  /-- `services`: each name with its `value`. -/
  services : List (String × String)
  configurations : List Configuration
  integrations : Entries

/-- The sidecar's service, and the key of its volume. -/
def nginxService : String := "greffon_nginx"

/-- The internal network. -/
def internalNetworkId : String := "greffon_internal_network"

/-- `os.path.join`, of a relative second part. -/
def joinPath (base name : String) : String :=
  if base = "" then name
  else if base.toList.getLast? = some '/' then base ++ name else base ++ "/" ++ name

/-- `a or b`. -/
def Yaml.or (a b : Yaml) : Yaml := if a.truthy then a else b

/-! ## Reading a service -/

/-- `PROXY_STREAMING_LABEL`. -/
def proxyStreamingLabel : String := "com.greffon.proxy.streaming"

/-- `_STREAMING_TRUTHY`. -/
def streamingTruthy : List String := ["true", "1", "yes", "on"]

/-- The labels of a list of `key=value` texts, the later ones first. -/
def listLabels : List Yaml → List (String × String)
  | [] => []
  | .str item :: rest =>
    let (key, _, value) := partition '=' item
    listLabels rest ++ [(key, value)]
  | _ :: rest => listLabels rest

/-- The streaming label of a service, if it has one. -/
def streamingLabel (service : Entries) : Option Yaml :=
  match Dict.get? service "labels" with
  | some (.list items) => ((listLabels items).lookup proxyStreamingLabel).map .str
  | some (.dict d) => Dict.get? d proxyStreamingLabel
  | _ => none

/-- `_service_streaming`. -/
def serviceStreaming (service : Entries) : Except Exn Bool :=
  match streamingLabel service with
  | none => .ok false
  | some v =>
    match v.reprFailure with
    | some e => .error e
    | none =>
      match v.text with
      | .ok t => .ok (streamingTruthy.contains (asciiLower (stripBlanks t)))
      | .error _ => .ok false

/-- `service.get(key, []) or []`, iterated. -/
def serviceItems (service : Entries) (key : String) : Except Exn (List Yaml) :=
  match Dict.get? service key with
  | none => .ok []
  | some v => if v.truthy then v.iterate else .ok []

/-- `entry[key]`. -/
def index (entry : Yaml) (key : String) : Except Exn Yaml :=
  match entry with
  | .dict d =>
    match Dict.get? d key with
    | some v => .ok v
    | none => .error (.exception ("KeyError: '" ++ key ++ "'"))
  | _ => .error (.typeError "object is not subscriptable by a text")

/-- A value that is a text past the normalization. -/
def text (v : Yaml) : Except Exn String :=
  match v with
  | .str s => .ok s
  | _ => .error (.typeError "not a text")

/-- `entry.get(key)`, of a value that is a text or `None` past the normalization. -/
def optionalText (entry : Yaml) (key : String) : Option String :=
  match entry with
  | .dict d =>
    match Dict.get? d key with
    | some (.str s) => some s
    | _ => none
  | _ => none

/-- A `ports` entry, read back. -/
def readPort (entry : Yaml) : Except Exn Port := do
  let target ← index entry "target"
  let target ← text target
  return ⟨target, optionalText entry "protocol"⟩

/-- A `volumes` entry, read back. -/
def readMount (entry : Yaml) : Except Exn VolumeMount := do
  let source ← index entry "source"
  let source ← text source
  let target ← index entry "target"
  let target ← text target
  return ⟨source, target, optionalText entry "mode"⟩

/-- The ports of a service. -/
def servicePorts (service : Entries) : Except Exn (List Port) := do
  let items ← serviceItems service "ports"
  items.mapM readPort

/-- The mounts of a service. -/
def serviceMounts (service : Entries) : Except Exn (List VolumeMount) := do
  let items ← serviceItems service "volumes"
  items.mapM readMount

/-- The networks of a service. -/
def serviceNetworks (service : Entries) : Except Exn (List String) := do
  let items ← serviceItems service "networks"
  items.mapM text

/-- `compose['services'].items()`. -/
def servicesOf (compose : Entries) : Except Exn (List (String × Entries)) :=
  match Dict.get? compose "services" with
  | some (.dict services) => services.mapM fun e => do
      let name ← text e.1
      match e.2 with
      | .dict d => return (name, d)
      | _ => throw (.attributeError "object has no attribute 'get'")
  | _ => .error (.exception "KeyError: 'services'")

/-! ## Collecting -/

/-- A volume of the author's, namespaced by the instance. -/
def namespaced (id : String) (name : Yaml) (text : String) (containers : List (String × MountPoint)) :
    VolumeInfo where
  name := name
  value := id ++ "_" ++ text
  containers := containers
  files := []

/-- The loop over the top-level volumes. -/
def addDeclaredVolumes (id : String) :
    List Yaml → Dict VolumeInfo → Except Exn (Dict VolumeInfo)
  | [], volumes => .ok volumes
  | name :: rest, volumes => do
    let t ← name.text
    if name.hashable then
      addDeclaredVolumes id rest (Dict.set volumes name (namespaced id name t []))
    else throw (.typeError ("unhashable type: '" ++ name.typeName ++ "'"))

/-- The loop over the top-level networks. -/
def addDeclaredNetworks : List Yaml → Dict NetworkInfo → Except Exn (Dict NetworkInfo)
  | [], networks => .ok networks
  | name :: rest, networks =>
    if name.hashable then
      addDeclaredNetworks rest (Dict.set networks name ⟨name, name, []⟩)
    else throw (.typeError ("unhashable type: '" ++ name.typeName ++ "'"))

/-- The loop over the mounts of a service: one entry for each source, one mount point in
it for each service. -/
def addMounts (id name : String) : List VolumeMount → Dict VolumeInfo → Dict VolumeInfo
  | [], volumes => volumes
  | m :: rest, volumes =>
    let point : MountPoint := ⟨m.target, m.mode⟩
    addMounts id name rest <|
      match Dict.get? volumes m.source with
      | none =>
        Dict.set volumes (.str m.source) (namespaced id (.str m.source) m.source [(name, point)])
      | some v =>
        Dict.set volumes (.str m.source) { v with containers := upsert v.containers name point }

/-- The loop over the networks of a service. -/
def addNetworks (name : String) : List String → Dict NetworkInfo → Except Exn (Dict NetworkInfo)
  | [], networks => .ok networks
  | network :: rest, networks =>
    if network = "default" then addNetworks name rest networks
    else
      match Dict.get? networks network with
      | none => .error (.exception ("KeyError: '" ++ network ++ "'"))
      | some n => addNetworks name rest
          (Dict.set networks (.str network) { n with containers := n.containers ++ [name] })

/-- A port of a service, with what the manager says of it. -/
def portInfo (greffon : Greffon) (name : String) (streaming : Bool) (p : Port) : PortInfo :=
  let portName := name ++ "_" ++ p.target
  let manager : Entries := (greffon.ports.lookup portName).getD []
  { portContainer := p.target
    containerName := name
    portName := portName
    url := (Dict.get? manager "url").getD .null
    protocol := (((Dict.get? manager "protocol").getD .null).or
      ((p.protocol.map .str).getD .null)).or (.str "tcp")
    exposureTier := (Dict.get? manager "exposure_tier").getD (.str "http")
    samePort := ((Dict.get? manager "same_port").map Yaml.truthy).getD false
    streaming := streaming }

/-- The loop over the services. -/
def addServices (greffon : Greffon) :
    List (String × Entries) → GreffonInfo → Except Exn GreffonInfo
  | [], info => .ok info
  | (name, service) :: rest, info => do
    let ports ← servicePorts service
    let streaming ← if ports.isEmpty then .ok false else serviceStreaming service
    let mounts ← serviceMounts service
    let names ← serviceNetworks service
    let networks ← addNetworks name names info.networks
    addServices greffon rest { info with
      ports := info.ports ++ ports.map (portInfo greffon name streaming)
      volumes := addMounts greffon.id name mounts info.volumes
      networks := networks }

/-- The sidecar's own volume, with the certificate and the key. -/
def nginxVolume (greffonPath : String) (greffon : Greffon) : VolumeInfo where
  name := .str nginxService
  value := greffon.id ++ "_nginx_volume"
  containers := [(nginxService, ⟨"/etc/nginx/", none⟩)]
  files :=
    [.path (joinPath (joinPath greffonPath greffon.id) "nginx.conf") "nginx.conf",
      .content greffon.certificate "pem.crt", .content greffon.privateKey "cert.key"]

/-- The internal network, joined by every service. -/
def internalNetwork (services : List String) : NetworkInfo where
  name := .str "internal"
  value := .str internalNetworkId
  containers := services

/-- `compose.get('volumes', [])`, iterated. -/
def declaredVolumes (compose : Entries) : Except Exn (List Yaml) :=
  match Dict.get? compose "volumes" with
  | none => .ok []
  | some v => v.iterate

/-- The names of the top-level networks. -/
def topNetworkNames (compose : Entries) : Except Exn (List Yaml) :=
  match Dict.get? compose "networks" with
  | none => .ok []
  | some v => if v.truthy then v.iterate else .ok []

/-- `create_greffon_info`, past the normalization. -/
def collectInfo (greffonPath : String) (compose : Entries) (greffon : Greffon) :
    Except Exn GreffonInfo := do
  let services ← servicesOf compose
  let names := services.map Prod.fst
  let declared ← declaredVolumes compose
  let volumes ← addDeclaredVolumes greffon.id declared
    [(.str nginxService, nginxVolume greffonPath greffon)]
  let top ← topNetworkNames compose
  let networks ← addDeclaredNetworks top [(.str internalNetworkId, internalNetwork names)]
  addServices greffon services
    { ports := []
      volumes := volumes
      networks := networks
      id := greffon.id
      internalNetwork := internalNetworkId
      services := upsert (names.map fun n => (n, n)) nginxService nginxService
      configurations := greffon.configurations
      integrations := greffon.integrations }

/-- `create_greffon_info`: the info, and the compose, which is normalized in place. -/
def createGreffonInfo (greffonPath : String) (compose : Yaml) (greffon : Greffon) (strict : Bool)
    (extraKeys : Option String) : Except ComposeError (GreffonInfo × Entries) := do
  match ← normalizeCompose compose strict extraKeys with
  | .dict entries =>
    let info ← builtin (collectInfo greffonPath entries greffon)
    return (info, entries)
  | _ => builtin (.error (.typeError "not a mapping"))

end Greffer.Compose

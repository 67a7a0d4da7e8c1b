import Greffer.Compose.Preflight
import Greffer.Compose.Sharing
import Greffer.Compose.Template
import Greffer.Instance.Lock
import Greffer.L4.Ports

/-! # Starting an instance

`start_greffon`, from the parse of its compose to the child that brings it up.  What
the author's configurations say is applied one destination after the other: a baked file is
rendered and written below the instance's `config` directory, an environment variable is
set in the compose, which is rendered and written last.  Before a destination
of type `env` or `file` is applied, `remove_compose_file` deletes what an earlier start
rendered.

A `ConfigRenderError` is a value here, which the loop and the handler hand on; the handler
answers it with 422.  Rendering is a child process's work, and the render context, the ports
and the compose body are handed to calls.
-/
namespace Greffer.Instance
open Effects
open Compose (Yaml Entries Dict Greffon GreffonInfo Configuration VolumeFile VolumeInfo joinPath)

/-- The content of a `DataURI`: bytes of a base64 one, a text of a percent-encoded one. -/
inductive RawData where
  | bytes (data : List UInt8)
  | text (data : String)

/-- What is written to a staged file. -/
inductive StagedData where
  /-- `json.dumps(value)`. -/
  | json (value : Yaml)
  | raw (data : RawData)

/-- Why the ports of a start are not allocated. -/
inductive AllocationError where
  | l4 (e : L4.L4PortError)
  /-- `L4PortsUnavailable`. -/
  | unavailable (message : String)

/-- The two files of a rendered compose. -/
def templateName : String := "docker-compose.template.yml"

/-- The rendered compose itself. -/
def composeName : String := "docker-compose.yml"

/-- The calls of a start. -/
inductive StartCall where
  /-- `updater_spawn.update_in_progress`. -/
  | updateInProgress
  /-- `requests.get` of the repository's URL, and `yaml.safe_load`. -/
  | fetch (url : Option String)
  /-- `get_greffon_info`, past `create_greffon_info`: the ports get their host ports. -/
  | allocatePorts (l4BindHost : String) (info : GreffonInfo)
  /-- `build_render_context`, with the endpoint the manager handed over. -/
  | renderContext (info : GreffonInfo)
  /-- `os.path.exists`, of the instance's directory. -/
  | dirExists
  /-- `os.makedirs`, of the instance's directory. -/
  | makeDir
  /-- `os.path.exists`, of a file of the instance's directory. -/
  | exists (name : String)
  /-- `os.remove`, of a file of the instance's directory. -/
  | remove (name : String)
  /-- `os.makedirs`, of the staging directory. -/
  | makeStageDir
  /-- `DataURI(value).data`. -/
  | dataUri (value : Yaml)
  /-- `render_bounded`, of a baked file; `error` is what `_render_baked_file` catches. -/
  | renderFile (info : GreffonInfo) (raw : RawData)
  /-- `render_json_bounded`. -/
  | renderJson (info : GreffonInfo) (value : Yaml)
  /-- The file of a name in the staging directory is written. -/
  | writeStaged (name : String) (data : StagedData)
  /-- The rest of `create_compose` before its write: the body, rendered and dumped; `error`
  is a `ConfigRenderError`. -/
  | renderBody (info : GreffonInfo) (template : Entries)
  | writeCompose (text : String)
  | createNginxConf (info : GreffonInfo)
  | createVolumesThenCopyFiles (info : GreffonInfo)
  /-- `docker-compose … up -d`, which is only started. -/
  | composeStart (instanceId : String)
  | trackComposeChild (instanceId : String)
  | waitForComposeRunning (instanceId : String)
  | writeClientToml (content : Option String)

/-- What each call answers when it raises nothing. -/
@[reducible] def StartCall.Answer : StartCall → Type
  | .updateInProgress | .dirExists | .exists _ => Bool
  | .fetch _ | .renderJson _ _ => Yaml
  | .allocatePorts _ _ => Except AllocationError GreffonInfo
  | .dataUri _ => RawData
  | .renderFile _ _ | .renderBody _ _ => Except String String
  | .renderContext _ | .makeDir | .remove _ | .makeStageDir | .writeStaged _ _ | .writeCompose _
  | .createNginxConf _ | .createVolumesThenCopyFiles _ | .composeStart _ | .trackComposeChild _
  | .waitForComposeRunning _ | .writeClientToml _ => Unit

/-- The code of a start. -/
abbrev Starting := Action (ControlCall.Answer StartCall.Answer) ControlError

/-- Make one call. -/
abbrev startOp (c : StartCall) : Starting c.Answer := Action.perform (ControlCall.handler c)

/-- An exception of a built-in operation, raised. -/
def settle {α : Type} (r : Except Exn α) : Starting α := Action.ofExcept (r.mapError .raised)

/-- The settings a start looks at. -/
structure StartSettings where
  greffonPath : String := "/data"
  tunnelMode : Bool := false
  extraAllowedKeys : Option String := none
  tunnelClientConfigPath : String := ""

/-- The text of `repr(v)`, which messages quote. -/
abbrev Repr := Yaml → String

/-- `str(v)`. -/
def strOf (repr : Repr) : Yaml → String
  | .str s => s
  | v => repr v

/-- `str(exc)`, of a `ComposeShapeError`. -/
def shapeText (repr : Repr) (service : Option Yaml) (key : Yaml) (message : String)
    (value : Option Yaml) : String :=
  let location := match service with
    | some s => if s.truthy then "services." ++ strOf repr s ++ "." ++ strOf repr key
      else strOf repr key
    | none => strOf repr key
  location ++ ": " ++ message ++ match value with
    | some v => " (got " ++ repr v ++ ")"
    | none => ""

/-! ## Configurations -/

/-- Why a destination is not staged: a `ConfigRenderError`, or another exception. -/
inductive StageError where
  | refused (message : String)
  | raised (e : Exn)

/-- A bare file name. -/
def isBareName (name : String) : Bool :=
  name != "" && name != "." && name != ".." &&
    name.toList.all fun c => c != '/' && c != '\\' && !decide (c.toNat < 32) && c.toNat != 127

/-- The checks of `_staged_destination_path`: the name, and the volume. -/
def stagedName (repr : Repr) (info : GreffonInfo) (destination : Entries) :
    Except StageError (String × Yaml) :=
  let name := (Dict.get? destination "name").getD .null
  let volume := (Dict.get? destination "volume").getD .null
  match name with
  | .str text =>
    if !isBareName text then
      .error (.refused ("destination name must be a bare file name, got " ++ repr name))
    else if volume = .str "greffon_nginx" then
      .error (.refused ("destination volume 'greffon_nginx' holds the instance certificate; " ++
        "baked files may not target it"))
    else if !volume.hashable then
      .error (.raised (.typeError ("unhashable type: '" ++ volume.typeName ++ "'")))
    else if !Dict.has info.volumes volume then
      .error (.refused ("destination volume " ++ repr volume ++
        " is not declared by this instance's compose"))
    else .ok (text, volume)
  | _ => .error (.refused ("destination name must be a bare file name, got " ++ repr name))

/-- `os.path.join(get_greffon_path(greffon_info), 'config', name)`. -/
def stagedPath (greffonPath id name : String) : String :=
  joinPath (joinPath (joinPath greffonPath id) "config") name

/-- `greffon_info['volumes'][volume]['files'].append(…)`. -/
def appendFile (info : GreffonInfo) (volume : Yaml) (file : VolumeFile) : GreffonInfo :=
  { info with volumes := info.volumes.map fun e =>
      if e.1.sameKey volume then (e.1, { e.2 with files := e.2.files ++ [file] }) else e }

/-- The `x-greffon-render` flag. -/
def rendersFlag (destination : Entries) : Bool :=
  ((Dict.get? destination "x-greffon-render").map Yaml.truthy).getD false

/-- What an `env` destination does to a service's `environment`. -/
def setVariable (repr : Repr) (environment key value : Yaml) : Except Exn Yaml :=
  match environment with
  | .dict d =>
    if key.hashable then .ok (.dict (Dict.set d key value))
    else .error (.typeError ("unhashable type: '" ++ key.typeName ++ "'"))
  | .list items => .ok (.list (items ++ [.str (strOf repr key ++ "=" ++ strOf repr value)]))
  | _ => .error (.attributeError "object has no attribute 'append'")

/-- An `env` destination, in the compose. -/
def setEnvironment (repr : Repr) (template : Entries) (destination : Entries) (value : Yaml) :
    Except Exn Entries := do
  let container ← Compose.index (.dict destination) "container"
  let container ← Compose.text container
  let services ← Compose.index (.dict template) "services"
  let service ← Compose.index services container
  let key ← Compose.index (.dict destination) "key"
  let given ← match value with
    | .dict d => .ok ((Dict.get? d "value").getD (.str ""))
    | _ => .error (.attributeError "object has no attribute 'get'")
  match service with
  | .dict d =>
    let environment ← setVariable repr ((Dict.get? d "environment").getD (.list [])) key given
    let service := Yaml.dict (Dict.set d (.str "environment") environment)
    return Dict.set template (.str "services")
      (.dict (Dict.set services.entries (.str container) service))
  | _ => .error (.attributeError "object has no attribute 'setdefault'")

/-- `service.setdefault('environment', [])`, changed in place: so every service that shares the
environment has it. -/
def putEnvironment (objects : Compose.Objects) (container : String) (environment : Yaml)
    (services : Entries) : Entries :=
  services.map fun s => (s.1,
    if objects.environment s.1 == objects.environment (.str container) then
      .dict (Dict.set s.2.entries (.str "environment") environment)
    else s.2)

/-- An `env` destination, in a compose with aliases. -/
def setEnvironmentInPlace (repr : Repr) (objects : Compose.Objects) (template : Entries)
    (destination : Entries) (value : Yaml) : Except Exn Entries := do
  let container ← Compose.index (.dict destination) "container"
  let container ← Compose.text container
  let services ← Compose.index (.dict template) "services"
  let service ← Compose.index services container
  let key ← Compose.index (.dict destination) "key"
  let given ← match value with
    | .dict d => .ok ((Dict.get? d "value").getD (.str ""))
    | _ => .error (.attributeError "object has no attribute 'get'")
  match service with
  | .dict d =>
    let environment ← setVariable repr ((Dict.get? d "environment").getD (.list [])) key given
    return Dict.set template (.str "services")
      (.dict (putEnvironment objects container environment services.entries))
  | _ => .error (.attributeError "object has no attribute 'setdefault'")

/-- How the value of an `env` destination comes into a compose. -/
abbrev EnvironmentSetter := Entries → Entries → Yaml → Except Exn Entries

section Apply
variable (settings : StartSettings) (repr : Repr) (setter : EnvironmentSetter)

/-- `get_greffon_path`. -/
def getGreffonPath : Starting Unit := do
  if !(← startOp .dirExists) then
    startOp .makeDir

/-- One removal of `remove_compose_file`. -/
def removeIfThere (name : String) : Starting Unit := do
  if ← startOp (.exists name) then
    startOp (.remove name)

/-- `remove_compose_file`. -/
def removeComposeFile : Starting Unit := do
  getGreffonPath
  removeIfThere templateName
  removeIfThere composeName

/-- `_staged_destination_path`. -/
def stagedDestinationPath (info : GreffonInfo) (destination : Entries) :
    Starting (Except String (String × Yaml)) :=
  match stagedName repr info destination with
  | .error (.refused message) => return .error message
  | .error (.raised e) => Action.raise (.raised e)
  | .ok staged => do
    getGreffonPath
    startOp .makeStageDir
    return .ok staged

/-- `_render_baked_file`. -/
def renderBakedFile (info : GreffonInfo) (raw : RawData) (name : String) :
    Starting (Except String String) := do
  match ← startOp (.renderFile info raw) with
  | .ok text => return .ok text
  | .error text => return .error (name ++ ": " ++ text)

/-- `_render_json_value`, if the destination asks for it. -/
def renderedJson (info : GreffonInfo) (destination : Entries) (value : Yaml) (name : String) :
    Starting (Except String Yaml) :=
  if rendersFlag destination then
    match value with
    | .null => return .ok .null
    | .str text => do
      match ← renderBakedFile info (.text text) name with
      | .ok text => return .ok (.str text)
      | .error message => return .error message
    | value => do
      let value ← startOp (.renderJson info value)
      return .ok value
  else return .ok value

/-- The content of a `file` destination. -/
def renderedFile (info : GreffonInfo) (destination : Entries) (raw : RawData) (name : String) :
    Starting (Except String RawData) :=
  if rendersFlag destination then do
    match ← renderBakedFile info raw name with
    | .ok text => return .ok (.text text)
    | .error message => return .error message
  else return .ok raw

/-- A staged file is written, and listed for its volume. -/
def writeAndList (info : GreffonInfo) (staged : String × Yaml) (data : StagedData) :
    Starting GreffonInfo := do
  startOp (.writeStaged staged.1 data)
  return appendFile info staged.2
    (.path (stagedPath settings.greffonPath info.id staged.1) staged.1)

/-- A `json` destination. -/
def applyJson (info : GreffonInfo) (destination : Entries) (value : Yaml) :
    Starting (Except String GreffonInfo) := do
  match ← stagedDestinationPath repr info destination with
  | .error message => return .error message
  | .ok staged =>
    match ← renderedJson info destination value staged.1 with
    | .error message => return .error message
    | .ok value =>
      let info ← writeAndList settings info staged (.json value)
      return .ok info

/-- A `file` destination. -/
def applyFile (info : GreffonInfo) (destination : Entries) (value : Yaml) :
    Starting (Except String GreffonInfo) := do
  match ← stagedDestinationPath repr info destination with
  | .error message => return .error message
  | .ok staged =>
    -- the name and the volume are good; the content has not been looked at yet
    removeComposeFile
    let uri ← settle (Compose.index value "file")
    let raw ← startOp (.dataUri uri)
    match ← renderedFile info destination raw staged.1 with
    | .error message => return .error message
    | .ok data =>
      let info ← writeAndList settings info staged (.raw data)
      return .ok info

/-- An `env` destination. -/
def applyEnv (template : Entries) (destination : Entries) (value : Yaml) : Starting Entries := do
  removeComposeFile
  settle (setter template destination value)

/-- The type of a destination: what it does is decided by this text alone. -/
def destinationType (destination : Yaml) : Except Exn String := do
  let type ← Compose.index destination "type"
  match type with
  | .str t => return t
  | _ => return ""

/-- One destination of `apply_configuration`. -/
def applyDestination (info : GreffonInfo) (template : Entries) (value destination : Yaml) :
    Starting (Except String (GreffonInfo × Entries)) := do
  let type ← settle (destinationType destination)
  if type = "json" then
    match ← applyJson settings repr info destination.entries value with
    | .error message => return .error message
    | .ok info => return .ok (info, template)
  else if type = "env" then
    let template ← applyEnv setter template destination.entries value
    return .ok (info, template)
  else if type = "file" then
    match ← applyFile settings repr info destination.entries value with
    | .error message => return .error message
    | .ok info => return .ok (info, template)
  else return .ok (info, template)

/-- The destinations in the order they are applied, each with its configuration's value.
Destinations that cannot be iterated raise when their turn comes. -/
def destinationsOf (configurations : List Configuration) : List (Except Exn (Yaml × Yaml)) :=
  configurations.flatMap fun c =>
    match c.destinations.iterate with
    | .ok destinations => destinations.map fun d => .ok (c.value, d)
    | .error e => [.error e]

/-- The loops of `apply_configuration`. -/
def applyDestinations (info : GreffonInfo) (template : Entries) :
    List (Except Exn (Yaml × Yaml)) → Starting (Except String (GreffonInfo × Entries))
  | [] => return .ok (info, template)
  | .error e :: _ => Action.raise (.raised e)
  | .ok (value, destination) :: rest => do
    match ← applyDestination settings repr setter info template value destination with
    | .error message => return .error message
    | .ok (info, template) => applyDestinations info template rest

/-- `apply_configuration`, of a compose that shares nothing. -/
def applyConfiguration (info : GreffonInfo) (template : Entries) :
    Starting (Except String (GreffonInfo × Entries)) :=
  applyDestinations settings repr (setEnvironment repr) info template
    (destinationsOf info.configurations)

/-- `apply_configuration`. -/
def applyConfigurationInPlace (info : GreffonInfo) (template : Compose.Document) :
    Starting (Except String (GreffonInfo × Entries)) :=
  applyDestinations settings repr (setEnvironmentInPlace repr template.objects) info
    template.tree.entries (destinationsOf info.configurations)

/-- `create_compose`: the file is written after the body has been rendered. -/
def createCompose (info : GreffonInfo) (template : Entries) : Starting (Except String Unit) := do
  getGreffonPath
  match ← startOp (.renderBody info template) with
  | .error message => return .error message
  | .ok text =>
    startOp (.writeCompose text)
    return .ok ()

end Apply

/-! ## The endpoint -/

/-- How a parse that failed is answered. -/
def parseRefusal (repr : Repr) : Compose.StartFailure → ControlError
  | .inline message => .http 422 message
  | .compose (.shape service key message value) =>
    .http 422 (shapeText repr service key message value)
  | .compose (.raised e) => .raised e
  | .raised e => .raised e

/-- How an allocation that failed is answered. -/
def allocationRefusal : AllocationError → ControlError
  | .l4 e => .http 409 e.message
  | .unavailable message => .http 503 message

/-- The interface L4 ports are published on. -/
def l4BindHost (settings : StartSettings) : String :=
  if settings.tunnelMode then "127.0.0.1" else "0.0.0.0"

section Endpoint
variable (settings : StartSettings) (repr : Repr) (parse : String → Except Compose.ParseError Yaml)

/-- What follows the render of the compose: from here on nothing is refused. -/
def bringUp (info : GreffonInfo) (tunnelClientToml : Option String) : Starting Unit := do
  startOp (.createNginxConf info)
  startOp (.createVolumesThenCopyFiles info)
  startOp (.composeStart info.id)
  startOp (.trackComposeChild info.id)
  if tunnelClientToml.isSome ∧ settings.tunnelClientConfigPath ≠ "" then
    startOp (.waitForComposeRunning info.id)
  startOp (.writeClientToml tunnelClientToml)

/-- `start_greffon`, from the ports on. -/
def startParsed (info : GreffonInfo) (compose : Entries) (tunnelClientToml : Option String) :
    Starting Unit := do
  match ← startOp (.allocatePorts (l4BindHost settings) info) with
  | .error e => Action.raise (allocationRefusal e)
  | .ok info =>
    startOp (.renderContext info)
    let template ← settle (Compose.createComposeTemplate compose info (l4BindHost settings))
    match ← applyConfiguration settings repr info template with
    | .error message => Action.raise (.http 422 message)
    | .ok (info, template) =>
      match ← createCompose info template with
      | .error message => Action.raise (.http 422 message)
      | .ok () => bringUp settings info tunnelClientToml

/-- The compose of the repository, which is fetched only if the request has none. -/
def fetched (greffon : Greffon) : Starting Yaml :=
  match nonEmpty greffon.composeYaml with
  | some _ => return .null
  | none => startOp (.fetch greffon.repositoryUrl)

/-- `start_greffon`. -/
def startGreffon (greffon : Greffon) (tunnelClientToml : Option String) : Starting Unit := do
  if ← startOp .updateInProgress then
    Action.raise (.http 409 "update_in_progress")
  else
    let compose ← fetched greffon
    match Compose.startParse parse (fun _ => .ok compose) settings.greffonPath greffon
        settings.extraAllowedKeys with
    | .error e => Action.raise (parseRefusal repr e)
    | .ok (info, compose) => startParsed settings repr info compose tunnelClientToml

/-- The endpoint, with the lock it holds. -/
def startRequest (greffon : Greffon) (tunnelClientToml : Option String) : Starting Unit :=
  serializeInstanceOp greffon.id (startGreffon settings repr parse greffon tunnelClientToml)

end Endpoint

end Greffer.Instance

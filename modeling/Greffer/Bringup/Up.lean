import Greffer.Effects.Reliance
import Greffer.Python.Floats

/-! # `greffer up`

The operator's command writes the configuration on its first run, brings the containers up and
waits, one after another, for all of them to run, for the manager to say that the greffer has been
accepted, in proxy mode for the certificate to be installed, and for `/healthz`.  Each wait has a
deadline of its own.

`wait_for_state` runs the generator `poll_state` in its loop; the two are written here as the one
loop that they are, the body of the consumer where the generator yields.
-/
namespace Greffer.Bringup
open Effects

/-! ## The calls -/

/-- What the code tells apart in the manager's `state`, a JSON value. -/
inductive StateValue where
  | text (s : String)
  | null
  /-- A number; `True` and `False` count as 1 and 0. -/
  | number (q : Rat)
  /-- A list or an object. -/
  | unhashable
  deriving DecidableEq

/-- The body of an answer, as far as it is looked at. -/
inductive Body where
  | notJson
  /-- An object, and its `state` if there is one. -/
  | object (state : Option StateValue)
  | otherJson

/-- An answer of the manager. -/
structure Response where
  statusCode : Nat
  /-- The header `Retry-After`. -/
  retryAfter : Option String
  body : Body

/-- What a command ended with. -/
structure CommandResult where
  returncode : Int
  stderr : String

/-- `ok`. -/
def CommandResult.ok (r : CommandResult) : Bool := r.returncode == 0

/-- The lines for the operator, by the names of their texts, without the time of day and the paths
in them. -/
inductive UpLine where
  | initNoOp (grefferId : String)
  | errInitDifferentId (existingId newId managerUrl : String)
  | initWroteFiles (grefferId mode : String)
  | initWroteFilesProxyExtra (address : Option String)
  | stateStarting
  | composeUpFailed (returncode : Int) (stderr : String)
  | timeoutStarting (minutes : Int)
  | stateRegisteringContacting
  | stateRegistering (grefferId : String)
  | stateRegisteringPendingHeartbeat (grefferId : String)
  | stateRegisteringPendingHint
  | stateRegisteringHeartbeat (grefferId : String)
  | unknownManagerState (state : StateValue)
  | grefferNotKnown (managerUrl grefferId : String)
  | timeoutRegistering (minutes : Int) (grefferId : String)
  | stateAwaitingCert
  | timeoutAwaitingCert (minutes : Int)
  | healthzNotResponding
  | connectedTunnel (grefferId managerUrl : String)
  | connectedProxy (grefferId address managerUrl : String)
  deriving DecidableEq

/-- The calls of the command. -/
inductive UpCall where
  /-- `cfg.mkdir(parents=True, exist_ok=True)`. -/
  | mkdir
  /-- `EnvFile.read`: nothing if there is no file. -/
  | readEnv
  /-- The bundled template of the compose file, -/
  | readTemplate
  /-- and the image tag. -/
  | readImageTag
  | writeCompose (text : String)
  /-- `EnvFile.write_atomic`. -/
  | writeEnv (values : List (String × String))
  | print (line : UpLine)
  /-- `compose_services_running`: which services are running. -/
  | servicesRunning (profile : Option String)
  | composeUp (profile : Option String)
  | monotonic
  | sleep (seconds : Rat)
  /-- `httpx.get`: nothing for an `httpx.HTTPError`. -/
  | get (url : String)
  | nginxCertInstalled
  | healthz
  /-- The process ends. -/
  | exit (code : Nat)

/-- What each call answers when it raises nothing. -/
@[reducible] def UpCall.Answer : UpCall → Type
  | .readEnv => List (String × String)
  | .readTemplate | .readImageTag => String
  | .servicesRunning _ => List (String × Bool)
  | .composeUp _ | .nginxCertInstalled | .healthz => CommandResult
  | .monotonic => Rat
  | .get _ => Option Response
  | .mkdir | .writeCompose _ | .writeEnv _ | .print _ | .sleep _ | .exit _ => Unit

/-- Code of the command. -/
abbrev Bringing := Action UpCall.Answer Exn

/-- Make one call. -/
abbrev ask (c : UpCall) : Bringing c.Answer := Action.perform c

/-- `time.sleep`. -/
def sleepFor : PyFloat → Bringing Unit
  | .fin q => do
    if q < 0 then Action.raise (.valueError "sleep length must be non-negative")
    else if 2 ^ 63 ≤ q * 10 ^ 9 then
      Action.raise (.overflowError "timestamp too large to convert to C PyTime_t")
    else ask (.sleep q)
  | .inf negative => Action.raise (if negative then .valueError "sleep length must be non-negative"
      else .overflowError "timestamp too large to convert to C PyTime_t")
  | .nan => Action.raise (.valueError "Invalid value NaN (not a number)")

/-! ## What the manager says -/

/-- `fetch_state`: a state, or one of its exceptions. -/
inductive Fetched where
  | state (s : StateValue)
  /-- `GrefferNotFound`. -/
  | notFound
  /-- `_RateLimited`. -/
  | rateLimited (retryAfter : PyFloat)
  /-- `ManagerUnreachable`. -/
  | unreachable
  deriving DecidableEq

/-- `_retry_after_seconds`. -/
def retryAfterSeconds : Option String → PyFloat
  | none | some "" => .fin 5
  | some value => (PyFloat.ofStr value).getD (.fin 5)

/-- What `fetch_state` makes of an answer. -/
def fetched : Option Response → Except Exn Fetched
  | none => .ok .unreachable
  | some r =>
    if r.statusCode = 404 then .ok .notFound
    else if r.statusCode = 429 then .ok (.rateLimited (retryAfterSeconds r.retryAfter))
    else if 400 ≤ r.statusCode then .ok .unreachable
    else match r.body with
      | .notJson => .ok .unreachable
      | .otherJson => .error (.attributeError "object has no attribute 'get'")
      | .object state => .ok (.state (state.getD (.text "UNKNOWN")))

/-- `url.rstrip("/")`. -/
def rstripSlash (url : String) : String :=
  String.ofList (url.toList.reverse.dropWhile (· == '/')).reverse

/-- `fetch_state`. -/
def fetchState (managerUrl grefferId : String) : Bringing Fetched := do
  let r ← ask (.get (rstripSlash managerUrl ++ "/api/greffer/" ++ grefferId ++ "/state-public/"))
  Action.ofExcept (fetched r)

/-! ## The command -/

/-- The arguments of `up`, once they have been checked. -/
structure UpArgs where
  id : String
  manager : Option String
  mode : String
  address : Option String
  timeout : Rat

/-- The arguments of `run_state_machine`. -/
structure Target where
  managerUrl : String
  grefferId : String
  mode : String
  address : Option String
  timeout : Rat

/-- `int(timeout // 60)`. -/
def Target.minutes (target : Target) : Int := (target.timeout / 60).floor

/-- `profile_for_mode`. -/
def profileForMode (mode : String) : Option String :=
  if mode = "tunnel" then some "tunnel" else none

/-- `DEFAULT_MANAGER`. -/
def defaultManager : String := "https://api.greffon.io"

/-- `_build_env_values`. -/
def buildEnvValues (managerUrl grefferId mode : String) (address : Option String) :
    Except Exn (List (String × String)) :=
  let values := [("GREFFER_ID", grefferId), ("GREFFON_BASE_SERVER", managerUrl),
    ("GREFFER_MODE", mode), ("GREFFER_PORT", "8001"), ("GREFFER_PROTOCOL", "https"),
    ("GREFFER_SSL_VERIFY", "true"), ("GREFFER_WORKERS_ENABLED", "true"), ("GREFFON_PATH", "/data")]
  if mode = "proxy" then match address with
    | none | some "" => .error (.valueError "proxy mode requires --address")
    | some a => .ok (values ++ [("GREFFER_ADDRESS", a)])
  else .ok values

/-- What `wait_for_state` keeps. -/
structure Polling where
  deadline : Rat
  /-- `interval`, of `poll_state`. -/
  interval : Rat := 2
  lastHeartbeat : Rat
  seenUnknown : List StateValue := []
  lastState : StateValue := .null
  acceptGuidanceShown : Bool := false
  pendingHintShown : Bool := false

/-- The heads of the loops, and the starts of the phases before them. -/
inductive UpLabel where
  | command
  | starting (target : Target)
  | composing (target : Target) (deadline : Rat)
  | polling (target : Target) (p : Polling)
  | certPolling (target : Target) (deadline : Rat)
  | healthPolling (target : Target) (deadline : Rat)

/-- Where a round goes on, unless it is the last. -/
abbrev Next := Option UpLabel

/-- An exit with a line. -/
def giveUp (line : UpLine) (code : Nat) : Bringing Next := do
  ask (.print line)
  ask (.exit code)
  return none

/-! ### Its own configuration -/

/-- `write_config`. -/
def writeConfig (args : UpArgs) (managerUrl : String) : Bringing Unit := do
  let values ← Action.ofExcept (buildEnvValues managerUrl args.id args.mode args.address)
  let template ← ask .readTemplate
  let tag ← ask .readImageTag
  ask .mkdir
  ask (.writeCompose (template.replace "<TAG>" tag))
  ask (.writeEnv values)

/-- The lines about it. -/
def reportConfig (args : UpArgs) : Bringing Unit := do
  ask (.print (.initWroteFiles args.id args.mode))
  if args.mode = "proxy" then ask (.print (.initWroteFilesProxyExtra args.address))

/-- `persisted or default`. -/
def orElse : Option String → String → String
  | none, default | some "", default => default
  | some s, _ => s

/-- The manager's address: the flag, else what is persisted, else the default. -/
def resolveManager (args : UpArgs) : Bringing String :=
  match args.manager with
  | some url => return url
  | none => do
    let env ← ask .readEnv
    return orElse (env.lookup "GREFFON_BASE_SERVER") defaultManager

/-- On to the state machine, with what is persisted by now. -/
def bringUp (args : UpArgs) (managerUrl : String) : Bringing Next := do
  let env ← ask .readEnv
  return some (.starting
    { managerUrl, grefferId := args.id, mode := orElse (env.lookup "GREFFER_MODE") args.mode
      address := match env.lookup "GREFFER_ADDRESS" with
        | none | some "" => args.address
        | some a => some a
      timeout := args.timeout })

/-- `up`, from its configuration on. -/
def up (args : UpArgs) : Bringing Next := do
  ask .mkdir
  let managerUrl ← resolveManager args
  let env ← ask .readEnv
  match env.lookup "GREFFER_ID" with
  | none => do
    writeConfig args managerUrl
    reportConfig args
    bringUp args managerUrl
  | some existing =>
    if existing = args.id then do
      ask (.print (.initNoOp args.id))
      bringUp args managerUrl
    else giveUp (.errInitDifferentId existing args.id managerUrl) 1

/-! ### Starting -/

/-- `services and all(services.values())`. -/
def allRunning (services : List (String × Bool)) : Bool :=
  !services.isEmpty && services.all Prod.snd

/-- On to `wait_for_compose_running`. -/
def awaitCompose (target : Target) : Bringing Next := do
  let now ← ask .monotonic
  return some (.composing target (now + target.timeout))

/-- `run_state_machine`: Starting. -/
def starting (target : Target) : Bringing Next := do
  ask (.print .stateStarting)
  let services ← ask (.servicesRunning (profileForMode target.mode))
  if allRunning services then awaitCompose target
  else do
    let r ← ask (.composeUp (profileForMode target.mode))
    if r.ok then awaitCompose target
    else giveUp (.composeUpFailed r.returncode r.stderr) 20

/-- On to `wait_for_state`. -/
def awaitAcceptance (target : Target) : Bringing Next := do
  ask (.print .stateRegisteringContacting)
  let now ← ask .monotonic
  let lastHeartbeat ← ask .monotonic
  return some (.polling target { deadline := now + target.timeout, lastHeartbeat })

/-- A round of a wait for what a call says: `seconds` before the next. -/
def waitRound (deadline : Rat) (check : Bringing Bool) (seconds : Rat) (again : UpLabel)
    (done expired : Bringing Next) : Bringing Next := do
  let now ← ask .monotonic
  if now < deadline then
    if ← check then done
    else do
      ask (.sleep seconds)
      return some again
  else expired

/-- A round of `wait_for_compose_running`. -/
def composingRound (target : Target) (deadline : Rat) : Bringing Next :=
  waitRound deadline (allRunning <$> ask (.servicesRunning (profileForMode target.mode))) 2
    (.composing target deadline) (awaitAcceptance target)
    (giveUp (.timeoutStarting target.minutes) 10)

/-! ### Registering -/

/-- `_on_state_change`. -/
def onStateChange (target : Target) (p : Polling) (observed : StateValue) : Bringing Polling :=
  if (observed = .text "GREFFER_REGISTERING" ∨ observed = .text "GREFFER_REGISTERED") ∧
      p.acceptGuidanceShown = false then do
    ask (.print (.stateRegistering target.grefferId))
    return { p with acceptGuidanceShown := true }
  else return p

/-- The look at whether the state has changed. -/
def noteState (target : Target) (p : Polling) (observed : StateValue) : Bringing Polling :=
  if observed = p.lastState then return p
  else onStateChange target { p with lastState := observed } observed

/-- The states that are known. -/
def knownStates : List StateValue :=
  [.text "GREFFER_CREATED", .text "GREFFER_REGISTERING", .text "GREFFER_REGISTERED"]

/-- An unknown state is mentioned once. -/
def noteUnknown (p : Polling) (observed : StateValue) : Bringing Polling :=
  if observed ∈ knownStates then return p
  else if observed = .unhashable then Action.raise (.typeError "unhashable type")
  else if observed ∈ p.seenUnknown then return p
  else do
    ask (.print (.unknownManagerState observed))
    return { p with seenUnknown := observed :: p.seenUnknown }

/-- The hint about a registration that the manager has not received, once. -/
def pendingHint (p : Polling) : Bringing Polling :=
  if p.pendingHintShown then return p
  else do
    ask (.print .stateRegisteringPendingHint)
    return { p with pendingHintShown := true }

/-- `_heartbeat`. -/
def heartbeat (target : Target) (p : Polling) (observed : StateValue) : Bringing Polling :=
  if observed = .text "GREFFER_CREATED" then do
    ask (.print (.stateRegisteringPendingHeartbeat target.grefferId))
    pendingHint p
  else do
    ask (.print (.stateRegisteringHeartbeat target.grefferId))
    return p

/-- The heartbeat, when it is due. -/
def beat (target : Target) (p : Polling) (observed : StateValue) : Bringing Polling := do
  let now ← ask .monotonic
  if 30 ≤ now - p.lastHeartbeat then do
    let p ← heartbeat target p observed
    let lastHeartbeat ← ask .monotonic
    return { p with lastHeartbeat }
  else return p

/-- `wait_for_state` returns `False`. -/
def notAccepted (target : Target) : Bringing Next :=
  giveUp (.timeoutRegistering target.minutes target.grefferId) 11

/-- On to `wait_for_cert_installed`, in proxy mode, and else to `_wait_for_healthz`. -/
def accepted (target : Target) : Bringing Next := do
  ask (.print .stateAwaitingCert)
  let now ← ask .monotonic
  return some (if target.mode = "proxy" then .certPolling target (now + target.timeout)
    else .healthPolling target (now + target.timeout))

/-- The body of `wait_for_state` for a state that is not the target, and what `poll_state` does
when it is resumed. -/
def keepPolling (target : Target) (p : Polling) (observed : StateValue) : Bringing Next := do
  let p ← noteUnknown p observed
  let now ← ask .monotonic
  if p.deadline ≤ now then notAccepted target
  else do
    let p ← beat target p observed
    ask (.sleep 2)
    return some (.polling target { p with interval := 2 })

/-- The body of `wait_for_state`. -/
def observe (target : Target) (p : Polling) (observed : StateValue) : Bringing Next := do
  let p ← noteState target p observed
  if observed = .text "GREFFER_REGISTERED" then accepted target
  else keepPolling target p observed

/-- The next interval after a failure. -/
def backedOff (interval : Rat) : Rat := min (if 5 ≤ interval then interval * 2 else 5) 30

/-- What `poll_state` does after a failure: it sleeps `wanted`, but not past the deadline. -/
def backOff (target : Target) (p : Polling) (wanted : PyFloat) : Bringing Next := do
  let now ← ask .monotonic
  if p.deadline ≤ now then notAccepted target
  else do
    let now ← ask .monotonic
    sleepFor (wanted.min (.fin (max 0 (p.deadline - now))))
    return some (.polling target { p with interval := backedOff p.interval })

/-- A round of `poll_state` and `wait_for_state`. -/
def pollingRound (target : Target) (p : Polling) : Bringing Next := do
  match ← fetchState target.managerUrl target.grefferId with
  | .state s => observe target p s
  | .notFound => giveUp (.grefferNotKnown target.managerUrl target.grefferId) 14
  | .rateLimited retryAfter => backOff target p (retryAfter.max (.fin p.interval))
  | .unreachable => backOff target p (.fin p.interval)

/-! ### Awaiting cert, and Connected -/

/-- On to `_wait_for_healthz`. -/
def awaitHealthz (target : Target) : Bringing Next := do
  let now ← ask .monotonic
  return some (.healthPolling target (now + target.timeout))

/-- A round of `wait_for_cert_installed`. -/
def certRound (target : Target) (deadline : Rat) : Bringing Next :=
  waitRound deadline (CommandResult.ok <$> ask .nginxCertInstalled) 2
    (.certPolling target deadline) (awaitHealthz target)
    (giveUp (.timeoutAwaitingCert target.minutes) 12)

/-- The last line. -/
def connectedLine (target : Target) : UpLine :=
  if target.mode = "tunnel" then .connectedTunnel target.grefferId target.managerUrl
  else .connectedProxy target.grefferId (orElse target.address "?") target.managerUrl

/-- A round of `_wait_for_healthz`. -/
def healthzRound (target : Target) (deadline : Rat) : Bringing Next :=
  waitRound deadline (CommandResult.ok <$> ask .healthz) 2
    (.healthPolling target deadline) (giveUp (connectedLine target) 0)
    (giveUp .healthzNotResponding 13)

/-! ## The process -/

/-- There is one thread. -/
abbrev Replies (_ : Unit) : UpCall → Type := Raises UpCall.Answer Exn

/-- Its loop heads. -/
abbrev Label (_ : Unit) : Type := UpLabel

/-- The block of each. -/
def blocks (args : UpArgs) : Blocks Replies Label
  | (), .command => (up args).block
  | (), .starting target => (starting target).block
  | (), .composing target deadline => (composingRound target deadline).block
  | (), .polling target p => (pollingRound target p).block
  | (), .certPolling target deadline => (certRound target deadline).block
  | (), .healthPolling target deadline => (healthzRound target deadline).block

/-- The process as it is started. -/
def upWorker : Worker Replies Label := ⟨(), .pure (some .command)⟩

/-- It starts no other. -/
def Starts (_ : Worker Replies Label) : Prop := False

/-- What each call may be answered.  The clock is all that is looked at of the world: it never
fails, every call may take its time, and a sleep takes at least the time it was asked to. -/
def serve (clock : Rat) : (c : UpCall) → Raises UpCall.Answer Exn c → Rat → Prop
  | .monotonic, r, clock' => r = .ok clock ∧ clock' = clock
  | .sleep seconds, r, clock' => clock ≤ clock' ∧ (r = .ok () → clock + seconds ≤ clock')
  | _, _, clock' => clock ≤ clock'

theorem le_of_serve {c : UpCall} {r : Raises UpCall.Answer Exn c} {w w' : Rat}
    (served : serve w c r w') : w ≤ w' := by
  cases c with
  | monotonic => exact served.2.ge
  | sleep seconds => exact served.1
  | _ => exact served

/-- **The shared table.** -/
def operatorHost : Shared Replies Rat where
  serve _ _ clock := serve clock
  drift clock clock' := clock ≤ clock'

end Greffer.Bringup

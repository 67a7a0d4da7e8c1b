import Mathlib.Algebra.Order.Ring.Rat
import Greffer.Effects.Loops
import Greffer.Effects.Routine
import Greffer.Python.Builtins

/-! # The workers of a node

A node registers with its manager, and again whenever a heartbeat is answered with 403.
`register_worker` and `reregister_worker` run the same registration; the heartbeat and the
renewal of certificates wait for the flag `registered`, the re-registration for
`reregister_requested`.  Beside them the monitor reports changes, and a backup or restore posts
its result.

Each worker is an endless loop over loops, and is written as one block for each loop head.
Everything between two `await`s is one step of the event loop: `registered.clear()` and
`reregister_requested.set()` are one call, and so are a wait and the `clear()` after it.

The token of a request is read from `app.state`, or from the file, or is minted.  Which it
is, is the point of `Registration.OneToken`.
-/
namespace Greffer.Registration
open Effects

/-- What a worker's code may raise. -/
inductive WorkerError where
  /-- `requests.ConnectionError` or `requests.Timeout`. -/
  | unreachable
  /-- `RegisterRejected`. -/
  | rejected (statusCode : Nat) (body : String)
  | raised (e : Exn)

/-- What reading the token file gives. -/
inductive TokenRead where
  /-- `FileNotFoundError`. -/
  | absent
  /-- Another `OSError`. -/
  | failed
  | text (content : String)

/-- The calls of the workers. -/
inductive NodeCall where
  /-- `path.read_text`, of the token file. -/
  | readToken
  /-- `_mint`. -/
  | mint
  /-- `_atomic_write`, of the token file: whether it succeeds. -/
  | writeToken (token : String)
  /-- The value of `app.state.greffer_token`. -/
  | heldToken
  /-- `app.state.greffer_token = token`. -/
  | holdToken (token : String)
  | resolveHostname
  | postRegister (address token : String)
  /-- `_fetch_cert`: the body of a 200, and the status code. -/
  | fetchCert (token : String)
  | installCert (data : PyValue)
  /-- `app.state.installed_cert_serial = data.get("serial_number")`. -/
  | noteSerial (data : PyValue)
  | installTunnelConfig (data : PyValue)
  | fetchAndStoreCrl
  /-- `app.state.registered.set()`. -/
  | setRegistered
  /-- `await event.wait()` and `event.clear()`, of `reregister_requested`. -/
  | takeRequest
  /-- `await app.state.registered.wait()`. -/
  | awaitRegistered
  /-- `registered.clear()` and `reregister_requested.set()`. -/
  | requestReregistration
  /-- The payload of a heartbeat. -/
  | collectHeartbeat (seq : Nat)
  | postHeartbeat (seq : Nat) (token : String)
  /-- The instances whose status is not the one last reported. -/
  | statusChanges
  | reportStatusChange (greffonId status token : String)
  /-- Whether the pass of `renew_all` has another request to make. -/
  | nextRenewalRequest
  | renewalRequest (token : String)
  /-- The request of `_post_callback`. -/
  | postCallback (token : String)
  | sleep (seconds : Rat)

/-- What each call answers when it raises nothing. -/
@[reducible] def NodeCall.Answer : NodeCall → Type
  | .readToken => TokenRead
  | .mint | .heldToken | .resolveHostname => String
  | .writeToken _ | .nextRenewalRequest => Bool
  | .fetchCert _ => Option PyValue × Nat
  | .postHeartbeat _ _ | .reportStatusChange _ _ _ | .postCallback _ => Nat
  | .statusChanges => List (String × String)
  | .holdToken _ | .postRegister _ _ | .installCert _ | .noteSerial _ | .installTunnelConfig _
  | .fetchAndStoreCrl | .setRegistered | .takeRequest | .awaitRegistered
  | .requestReregistration | .collectHeartbeat _ | .renewalRequest _ | .sleep _ => Unit

/-- The code of a worker. -/
abbrev Working := Action NodeCall.Answer WorkerError

/-- Make one call. -/
abbrev work (c : NodeCall) : Working c.Answer := Action.perform c

/-- The settings the workers look at. -/
structure NodeSettings where
  /-- `GREFFER_TOKEN`. -/
  grefferToken : Option String := none
  grefferAddress : Option String := none
  heartbeatInterval : Rat := 5
  monitorInterval : Rat := 5
  certRenewalInterval : Rat := 21600

/-- `settings.greffer_token`, if it is set. -/
def NodeSettings.pinned (settings : NodeSettings) : Option String :=
  nonEmpty settings.grefferToken

/-! ## The token -/

/-- `load_persisted_token`. -/
def loadPersistedToken : Working (Option String) := do
  match ← work .readToken with
  | .absent | .failed => return none
  | .text content => return nonEmpty (some (strip content))

/-- A new token, persisted if that succeeds. -/
def createToken : Working String := do
  let token ← work .mint
  let _ ← work (.writeToken token)
  return token

/-- `load_or_create_token`. -/
def loadOrCreateToken : Working String := do
  match ← work .readToken with
  | .failed => work .mint
  | .absent => createToken
  | .text content => if strip content ≠ "" then return strip content else createToken

/-- `resolve_token`. -/
def resolveToken (settings : NodeSettings) : Working String :=
  match settings.pinned with
  | some token => return token
  | none => loadOrCreateToken

/-- `_inflight_token`. -/
def inflightToken (settings : NodeSettings) : Working String :=
  match settings.pinned with
  | some token => return token
  | none => do
    match ← loadPersistedToken with
    | some token => return token
    | none => work .heldToken

/-! ## Registration -/

/-- The loop heads of a registration worker, each with what its loop keeps.  `outer` is the delay
of the loop around the registration. -/
inductive RunLabel where
  /-- The supervisor waits for a request. -/
  | idle
  | attempt (outer : Rat)
  /-- Phase 1: the register request. -/
  | register (outer : Rat) (address : String) (delay : Rat)
  /-- Phase 2: the certificate is polled for. -/
  | poll (outer : Rat) (token : String)

/-- `_REGISTER_RETRY_SECONDS`. -/
def registerRetrySeconds : Rat := 3

/-- `_REGISTER_RETRY_MAX_SECONDS`. -/
def registerRetryMaxSeconds : Rat := 60

/-- `_CERT_POLL_SECONDS`. -/
def certPollSeconds : Rat := 5

/-- `min(delay * 2, _REGISTER_RETRY_MAX_SECONDS)`. -/
def backedOff (delay : Rat) : Rat := min (delay * 2) registerRetryMaxSeconds

/-- The loop around `_run_registration`: whatever it raises, it is tried again. -/
def retrying (outer : Rat) (run : Working (Option RunLabel)) : Working (Option RunLabel) :=
  run.tryExcept fun _ => do
    work (.sleep outer)
    return some (.attempt (backedOff outer))

/-- `_resolve_address`. -/
def resolveAddress (settings : NodeSettings) : Working String :=
  match nonEmpty settings.grefferAddress with
  | some address => return address
  | none => work .resolveHostname

/-- A round of the outer loop. -/
def attempt (settings : NodeSettings) (outer : Rat) : Working (Option RunLabel) :=
  retrying outer do
    let address ← resolveAddress settings
    return some (.register outer address registerRetrySeconds)

/-- What a register request that is not accepted leads to. -/
def registerRefused (outer : Rat) (address : String) (delay : Rat) :
    WorkerError → Working (Option RunLabel)
  | .raised e => Action.raise (.raised e)
  | .unreachable | .rejected _ _ => do
    work (.sleep delay)
    return some (.register outer address (backedOff delay))

/-- A round of Phase 1: the token is resolved anew and held before it is sent. -/
def registerRound (settings : NodeSettings) (outer : Rat) (address : String) (delay : Rat) :
    Working (Option RunLabel) :=
  retrying outer do
    let token ← inflightToken settings
    work (.holdToken token)
    Action.tryExcept (do
        work (.postRegister address token)
        return some (.poll outer token))
      (registerRefused outer address delay)

/-- What a certificate poll that raises leads to. -/
def pollFailed : WorkerError → Working (Option PyValue × Nat)
  | .unreachable => return (none, 0)
  | e => Action.raise e

/-- A round of Phase 2, with the token that Phase 1 registered.  `finished` is where the worker
goes on after the registration. -/
def pollRound (outer : Rat) (token : String) (finished : Option RunLabel) :
    Working (Option RunLabel) :=
  retrying outer do
    let polled ← Action.tryExcept (work (.fetchCert token)) pollFailed
    match polled.1 with
    | none =>
      work (.sleep certPollSeconds)
      return some (.poll outer token)
    | some data =>
      work (.installCert data)
      work (.noteSerial data)
      work (.installTunnelConfig data)
      work .fetchAndStoreCrl
      work .setRegistered
      return finished

/-- The supervisor waits, and starts a registration. -/
def takeUp : Working (Option RunLabel) := do
  work .takeRequest
  return some (.attempt registerRetrySeconds)

/-- `register_worker` and `reregister_worker`, from each of their loop heads. -/
def registration (settings : NodeSettings) (finished : Option RunLabel) :
    RunLabel → Working (Option RunLabel)
  | .idle => takeUp
  | .attempt outer => attempt settings outer
  | .register outer address delay => registerRound settings outer address delay
  | .poll outer token => pollRound outer token finished

/-! ## The heartbeat -/

/-- Whatever is raised is logged. -/
def logged (m : Working Unit) : Working Unit := m.tryExcept fun _ => return ()

/-- `_one_heartbeat`. -/
def oneHeartbeat (seq : Nat) : Working Nat := do
  work (.collectHeartbeat seq)
  let token ← work .heldToken
  work (.postHeartbeat seq token)

/-- A round of `heartbeat_worker`, which keeps its number. -/
def heartbeat (settings : NodeSettings) (seq : Nat) : Working (Option Nat) := do
  work .awaitRegistered
  logged do
    let statusCode ← oneHeartbeat (seq + 1)
    if statusCode = 403 then
      work .requestReregistration
  work (.sleep settings.heartbeatInterval)
  return some (seq + 1)

/-! ## The monitor -/

/-- The reports of a tick, all with the token it began with; one that does not reach the manager
is left for the next tick. -/
def reportAll (token : String) : List (String × String) → Working Unit
  | [] => return ()
  | (greffonId, status) :: rest => do
    Action.tryExcept (do
        let _ ← work (.reportStatusChange greffonId status token))
      fun
        | .unreachable => return ()
        | e => Action.raise e
    reportAll token rest

/-- A round of `monitor_worker`. -/
def monitorTick (settings : NodeSettings) : Working (Option Unit) := do
  logged do
    let token ← work .heldToken
    let changes ← work .statusChanges
    reportAll token changes
  work (.sleep settings.monitorInterval)
  return some ()

/-! ## The renewal of certificates -/

/-- The loop heads of a renewal: the worker's own, and that of the requests of one pass, which
also `/renew-certs/` makes. -/
inductive RenewalLabel where
  | due
  | pass (token : String) (worker : Bool)

/-- Where a renewal goes on after a pass. -/
def afterPass (worker : Bool) : Option RenewalLabel := if worker then some .due else none

/-- The worker waits, and begins a pass. -/
def renewalDue (settings : NodeSettings) : Working (Option RenewalLabel) := do
  work (.sleep settings.certRenewalInterval)
  work .awaitRegistered
  let token ← work .heldToken
  return some (.pass token true)

/-- A pass that the endpoint asks for. -/
def renewalAsked : Working (Option RenewalLabel) := do
  let token ← work .heldToken
  return some (.pass token false)

/-- One request of a pass: `renew_all` hands its token to each of them. -/
def passRound (token : String) (worker : Bool) : Working (Option RenewalLabel) :=
  Action.tryExcept (do
      if ← work .nextRenewalRequest then
        work (.renewalRequest token)
        return some (.pass token worker)
      else return afterPass worker)
    fun _ => return afterPass worker

/-- A renewal, from each of its loop heads. -/
def renewal (settings : NodeSettings) : RenewalLabel → Working (Option RenewalLabel)
  | .due => renewalDue settings
  | .pass token worker => passRound token worker

/-! ## Callbacks -/

/-- `_post_callback`, which never raises a `RequestException`. -/
def postCallback (settings : NodeSettings) : Working Bool :=
  Action.tryExcept (do
      let token ← resolveToken settings
      let statusCode ← work (.postCallback token)
      return decide (200 ≤ statusCode ∧ statusCode < 300))
    fun
      | .unreachable => return false
      | .raised (.requestException _) => return false
      | e => Action.raise e

/-! ## The crew -/

/-- The kinds of workers. -/
inductive Role where
  | register
  | reregister
  | heartbeat
  | monitor
  | renewal
  | callback
  deriving DecidableEq

/-- The loop heads of each. -/
@[reducible] def Role.Label : Role → Type
  | .register | .reregister => RunLabel
  | .heartbeat => Nat
  | .monitor | .callback => Unit
  | .renewal => RenewalLabel

/-- The calls are the same for all. -/
abbrev Role.Reply (_ : Role) : NodeCall → Type := Raises NodeCall.Answer WorkerError

/-- A round as a block: a worker ends with an exception that it does not catch. -/
def block {L : Type} (round : Working (Option L)) :
    Prog (Raises NodeCall.Answer WorkerError) (Option L) :=
  Prog.bind round fun
    | .ok next => .pure next
    | .error _ => .pure none

/-- The block of each loop head. -/
def blocks (settings : NodeSettings) : Blocks Role.Reply Role.Label
  | .register, l => block (registration settings none l)
  | .reregister, l => block (registration settings (some .idle) l)
  | .heartbeat, seq => block (heartbeat settings seq)
  | .monitor, _ => block (monitorTick settings)
  | .renewal, l => block (renewal settings l)
  | .callback, _ => block do
      let _ ← postCallback settings
      return none

/-- A worker at a loop head. -/
abbrev atHead (k : Role) (l : k.Label) : Worker Role.Reply Role.Label := ⟨k, .pure (some l)⟩

/-- What starts while the node runs: a callback, or a renewal pass that is asked for. -/
inductive Starts : Worker Role.Reply Role.Label → Prop
  | callback : Starts (atHead .callback ())
  | renewal : Starts ⟨.renewal, block renewalAsked⟩

/-- The workers that `start_workers` starts. -/
def workers : List (Worker Role.Reply Role.Label) :=
  [atHead .register (.attempt registerRetrySeconds), atHead .reregister .idle,
    atHead .heartbeat (0 : Nat), atHead .monitor (), atHead .renewal .due]

end Greffer.Registration

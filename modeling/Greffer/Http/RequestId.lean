import Greffer.Effects.Simulation
import Greffer.Python.Bytes
import Greffer.Python.Hex
import Greffer.Python.Value

/-! # Request ids

`RequestIDMiddleware` stands between the server and the application.  Each request runs under an
id: the one that came with it, if it is harmless, or a new one.  The id goes into every line that
the application logs and into the header of the response, and an exception that would leave the
application without a response becomes one here.

The application is any program that receives, sends and logs, and may end with an exception.  Every
run of the middleware **stands for a run of the application on its own** that is answered the same:
what the server is sent is what the application sends, with the id in the header, and at most the
error response behind it (`responses_identified`); and what the request comes to is what the
application's run comes to (`outcome_kept`).
-/
namespace Greffer.Http
open Effects

/-! ## Messages -/

abbrev Header := Bytes × Bytes

/-- A message of the application to the server. -/
structure Message where
  type : String
  status : Option Nat := none
  headers : Option (List Header) := none
  body : Option Bytes := none
  /-- Its other keys. -/
  more : PyDict := []

/-- `message["type"] == "http.response.start"`. -/
def Message.isStart (m : Message) : Bool := m.type == "http.response.start"

/-- What the server knows of a request. -/
structure Scope where
  type : String
  headers : List Header := []

/-- `_HEADER`. -/
def headerName : Bytes := latin1 "x-request-id"

/-- `key.lower() == _HEADER`. -/
def isIdHeader (h : Header) : Bool := lowerBytes h.1 == headerName

/-! ## The id of a request -/

/-- A character of `[A-Za-z0-9._-]`. -/
def idChar (c : Char) : Bool := c.isAlphanum || c == '.' || c == '_' || c == '-'

/-- `_RID_RE.fullmatch(incoming)`, and no longer than `_RID_MAX_LEN`. -/
def harmless (id : String) : Bool :=
  id.toList.length ≤ 128 && !id.toList.isEmpty && id.toList.all idChar

/-- The id that comes with a request. -/
def Scope.incoming (scope : Scope) : Option String :=
  (scope.headers.find? isIdHeader).map fun h => ofLatin1 h.2

/-- It, if it is accepted. -/
def Scope.accepted (scope : Scope) : Option String := scope.incoming.filter harmless

/-- `uuid4().hex`. -/
def isHex32 (id : String) : Bool :=
  id.toList.length == 32 && id.toList.all fun c => decide (c ∈ Hex.lowerDigits)

/-- An id that the request may run under. -/
def Scope.Names (scope : Scope) (id : String) : Prop :=
  match scope.accepted with
  | some incoming => id = incoming
  | none => isHex32 id = true

/-! ## The application -/

/-- What may leave the application. -/
inductive AppError where
  | exception (e : Exn)
  /-- `CancelledError`, which is no `Exception`. -/
  | cancelled

inductive AppCall where
  | receive
  | send (message : Message)
  | log (line : String)
  /-- Whatever else it does. -/
  | work (what : String)

/-- What each call answers when it raises nothing. -/
@[reducible] def AppCall.Answer : AppCall → Type
  | .receive => Message
  | .send _ | .log _ => Unit
  | .work _ => PyValue

/-- An application. -/
abbrev Application := Action AppCall.Answer AppError Unit

/-- What a call of an application was answered. -/
inductive Reaction where
  | received (r : Except AppError Message)
  | sent (r : Except AppError Unit)
  | worked (what : String) (r : Except AppError PyValue)

/-- What an application has sent and logged, and what it was answered. -/
structure Heard where
  sent : List Message := []
  lines : List String := []
  answers : List Reaction := []

/-- **The application on its own.** -/
def alone : Machine (Raises AppCall.Answer AppError) Heard where
  serve v c r v' := match c with
    | .receive => v' = { v with answers := v.answers ++ [.received r] }
    | .work what => v' = { v with answers := v.answers ++ [.worked what r] }
    | .send message => v' = { v with
        sent := v.sent ++ [message], answers := v.answers ++ [.sent r] }
    | .log line => r = .ok () ∧ v' = { v with lines := v.lines ++ [line] }

/-! ## The middleware -/

inductive ServerCall where
  | receive
  | send (message : Message)
  /-- A line is logged, under the id of the context. -/
  | log (line : String)
  | work (what : String)
  /-- `uuid4().hex`. -/
  | mint
  /-- `request_id_var.set(id)`: the token to reset it. -/
  | setId (id : String)
  | resetId (token : Option String)
  /-- `started = True`. -/
  | markStarted
  | hasStarted

/-- What each call answers when it raises nothing. -/
@[reducible] def ServerCall.Answer : ServerCall → Type
  | .receive => Message
  | .work _ => PyValue
  | .mint => String
  | .setId _ => Option String
  | .hasStarted => Bool
  | .send _ | .log _ | .resetId _ | .markStarted => Unit

abbrev Serving := Action ServerCall.Answer AppError

/-- Make one call. -/
abbrev ask (c : ServerCall) : Serving c.Answer := Action.perform c

/-- The headers of a response, with the id in place of any that was there. -/
def withId (id : String) (headers : List Header) : List Header :=
  headers.filter (fun h => !isIdHeader h) ++ [(headerName, latin1 id)]

/-- What `send_with_header` makes of a message. -/
def identified (id : String) (m : Message) : Message :=
  if m.isStart then { m with headers := some (withId id (m.headers.getD [])) } else m

/-- `send_with_header`. -/
def sendWithHeader (id : String) (m : Message) : Serving Unit := do
  if m.isStart then ask .markStarted
  ask (.send (identified id m))

/-- What the application's calls come to, where it is called with this `send`. -/
def calledWith (send : Message → Serving Unit) : (c : AppCall) → Serving c.Answer
  | .receive => ask .receive
  | .send m => send m
  | .log line => ask (.log line)
  | .work what => ask (.work what)

/-- The start of the error response. -/
def errorStart : Message where
  type := "http.response.start"
  status := some 500
  headers := some [(latin1 "content-type", latin1 "application/json")]

def errorBody : Message where
  type := "http.response.body"
  body := some (latin1 "\x7b\"message\": \"internal_error\"\x7d")

/-- The error response, once nothing has been sent. -/
def respondError (id : String) : Serving Unit := do
  ask (.log "unhandled error during request")
  sendWithHeader id errorStart
  ask (.send errorBody)

/-- `except Exception`. -/
def onError (id : String) : AppError → Serving Unit
  | .cancelled => Action.raise .cancelled
  | .exception e => do
    if ← ask .hasStarted then Action.raise (.exception e) else respondError id

/-- A request, under its id. -/
def serveUnder (id : String) (app : Application) : Serving Unit := do
  let token ← ask (.setId id)
  let r ← ((app.implement (calledWith (sendWithHeader id))).tryExcept (onError id)).outcome
  ask (.resetId token)
  Action.ofExcept r

/-- An HTTP request. -/
def serveHttp (scope : Scope) (app : Application) : Serving Unit := do
  match scope.accepted with
  | some id => serveUnder id app
  | none => do
    let id ← ask .mint
    serveUnder id app

/-- `RequestIDMiddleware.__call__`. -/
def middleware (scope : Scope) (app : Application) : Serving Unit :=
  if scope.type = "http" then serveHttp scope app
  else app.implement (calledWith fun m => ask (.send m))

/-! ## The server -/

/-- What the server has been sent, the lines that were logged, each with its id, the answers that
were given, the id of the context, and the variable `started` of the request. -/
structure Server where
  sent : List Message := []
  logged : List (String × Option String) := []
  answers : List Reaction := []
  requestId : Option String
  started : Bool := false

/-- **The server**, as one request sees it.  Receiving, sending and the application's own work may
fail. -/
def server : Machine (Raises ServerCall.Answer AppError) Server where
  serve w c r w' := match c with
    | .receive => w' = { w with answers := w.answers ++ [.received r] }
    | .work what => w' = { w with answers := w.answers ++ [.worked what r] }
    | .send message => w' = { w with
        sent := w.sent ++ [message], answers := w.answers ++ [.sent r] }
    | .log line => r = .ok () ∧ w' = { w with logged := w.logged ++ [(line, w.requestId)] }
    | .mint => (∃ id, r = .ok id ∧ isHex32 id = true) ∧ w' = w
    | .setId id => r = .ok w.requestId ∧ w' = { w with requestId := some id }
    | .resetId token => r = .ok () ∧ w' = { w with requestId := token }
    | .markStarted => r = .ok () ∧ w' = { w with started := true }
    | .hasStarted => r = .ok w.started ∧ w' = w

end Greffer.Http

import Mathlib
import Greffer.Python.Builtins
import Greffer.Effects.Routine

/-! # The data of certificate renewal

The settings the renewal worker reads, the module's own memory (the ledger of owed
confirmations, the backoff map, the streak of blind probes), and the calls it makes of
its environment: the manager, the sidecar's TLS port, the docker daemon, the clocks,
the ledger's file, the instance's lock.  Every call may raise.

The ledger's file is replaced in two calls, the temporary file's write and the rename,
so that a point between the two is a point at which the process may die.
-/
namespace Greffer.CertRenewal
open Effects

/-- The settings the worker reads. -/
structure Settings where
  grefferCertRenewalInterval : Nat := 21600
  grefferCertRenewalWindowDays : Int := 7
  grefferCertProbeHost : String := "host.docker.internal"

/-- `CERT_RENEWAL_BACKOFF_CAP_SECONDS`. -/
def backoffCapSeconds : Nat := 86400

/-- `_REPORT_ATTEMPTS`. -/
def reportAttempts : Nat := 3

/-- `_BLIND_STREAK_ABORT`. -/
def blindStreakAbort : Nat := 3

/-- `_SETTLE_SECONDS`, and the polls of half a second each that fit in it. -/
def settleSeconds : Rat := 20

def settlePolls : Nat := 40

/-- `_COMPOSE_SETTLE_SECONDS`. -/
def composeSettleSeconds : Rat := 90

/-- The ledger: what each instance owes a report for, by its id. -/
abbrev Ledger := List (String × String)

/-- The instance owes a report. -/
def Ledger.owes (l : Ledger) (greffonId : String) : Prop := ∃ serial, (greffonId, serial) ∈ l

instance (l : Ledger) (greffonId : String) : Decidable (l.owes greffonId) :=
  decidable_of_iff (greffonId ∈ l.map Prod.fst) <| by simp [Ledger.owes]

/-- The module's own variables. -/
structure Memory where
  unconfirmed : Ledger := []
  /-- The consecutive failures and the deadline of each instance that backs off. -/
  renewalBackoff : List (String × (Nat × Rat)) := []
  blindStreak : Nat := 0

/-- What the worker's code raises. -/
inductive RenewalError where
  | nodeRateLimited
  | renewalUnavailable
  | nodeAuthLost
  | nodeCapped
  | renewalAlreadyRunning
  | instanceNotFound (only : String)
  | raised (e : Exn)
  deriving DecidableEq

/-- The status of one instance's pass. -/
inductive Status where
  | renewed
  | notDue
  | skipped
  | failed
  deriving DecidableEq

/-- `Outcome`. -/
structure Outcome where
  status : Status
  serial : Option String
  reason : Option String := none

/-- `PassResult`. -/
structure PassResult where
  considered : Nat
  renewed : Nat
  skipped : Nat
  errors : Nat
  selected : Option Status
  deferred : Nat := 0

/-- `_TRANSIENT_SKIPS`. -/
def transientSkips : List String := ["instance_busy", "compose_inflight", "sidecar_settling"]

/-! ## What the environment answers -/

/-- An HTTP answer: its status, its text, and what `json()` makes of it, if it parses. -/
structure HttpReply where
  statusCode : Int
  text : String := ""
  json : Option PyValue := none

/-- `needle in text`. -/
def HttpReply.mentions (res : HttpReply) (needle : String) : Bool :=
  decide (needle.toList <:+: res.text.toList)

/-- The fields of a peer certificate: its serial, and its expiry if that parses. -/
structure Peer where
  serialNumber : Option String
  notAfter : Option Rat

/-- Why `acquire_unless_handoff` refuses. -/
inductive Refusal where
  | handoff
  | instanceBusy
  deriving DecidableEq

/-- The reason as it is handed on. -/
def Refusal.text : Refusal → String
  | .handoff => "handoff"
  | .instanceBusy => "instance_busy"

/-- The calls of the worker. -/
inductive RenewalCall where
  /-- `_unconfirmed_path(settings).read_text()`, and what it holds if it is a ledger. -/
  | readLedger
  /-- `tmp.write_text(json.dumps(_unconfirmed))`. -/
  | writeLedgerTmp (ledger : Ledger)
  /-- `os.replace(tmp, path)`. -/
  | replaceLedger
  /-- `collect_status_map`. -/
  | collectStatusMap
  /-- `_stop.is_set()`. -/
  | stopRequested
  /-- `_pass_lock`. -/
  | acquirePassLock
  | releasePassLock
  | acquireUnlessHandoff (greffonId : String)
  | releaseLock (greffonId : String)
  /-- `compose_inflight`. -/
  | composeInflight (greffonId : String)
  /-- The sidecar's `State.StartedAt`, if it parses. -/
  | startedAt (greffonId : String)
  /-- The rendered `docker-compose.yml`, if it can be read and parsed. -/
  | renderedCompose (greffonId : String)
  /-- A TLS handshake: the peer's fields, if there is a way to read them. -/
  | handshake (host : String) (port : Int)
  /-- The request for a certificate. -/
  | postMint (greffonId : String)
  /-- The report of the served serial. -/
  | postReport (greffonId : String) (servedSerial : Option String)
  /-- `put_archive` of the key and the certificate into the sidecar. -/
  | putArchive (greffonId key certificate : String)
  /-- `nginx -s reload` in the sidecar: whether it exited 0. -/
  | reload (greffonId : String)
  | restart (greffonId : String)
  /-- `datetime.now(utc)` and `time.monotonic()`. -/
  | utcNow
  | monotonic
  | sleep

/-- What each call answers when it raises nothing. -/
@[reducible] def Answer : RenewalCall → Type
  | .readLedger => Option Ledger
  | .collectStatusMap => List (String × String)
  | .stopRequested | .acquirePassLock | .composeInflight _ | .reload _ => Bool
  | .acquireUnlessHandoff _ => Option Refusal
  | .startedAt _ => Option Rat
  | .renderedCompose _ => Option PyValue
  | .handshake _ _ => Option Peer
  | .postMint _ | .postReport _ _ => HttpReply
  | .utcNow | .monotonic => Rat
  | .writeLedgerTmp _ | .replaceLedger | .releasePassLock | .releaseLock _ | .putArchive _ _ _
  | .restart _ | .sleep => Unit

/-- Code of the worker without variables. -/
abbrev Query := Action Answer RenewalError

/-- Code of the worker, which reads and assigns the module's variables. -/
abbrev Steps := Routine Answer RenewalError Memory

/-- Make one call. -/
abbrev call (c : RenewalCall) : Query (Answer c) := Action.perform c

/-! ## Serials -/

/-- `s.strip().lower().lstrip('0')`. -/
def canonicalSerial (s : String) : List Char :=
  ((strip s).toList.map Char.toLower).dropWhile (· == '0')

/-- `_same_serial`: the second serial is what the manager's JSON holds. -/
def sameSerial (served : Option String) (wanted : PyValue) : Except RenewalError Bool :=
  match nonEmpty served with
  | none => .ok false
  | some a =>
    if wanted.truthy then
      match wanted with
      | .str b => .ok (canonicalSerial a == canonicalSerial b)
      | _ => .error (.raised (.attributeError "object has no attribute 'strip'"))
    else .ok false

end Greffer.CertRenewal

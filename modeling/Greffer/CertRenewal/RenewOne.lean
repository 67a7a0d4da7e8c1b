import Greffer.CertRenewal.Model

/-! # Renewing one instance

`renewOne` first settles a confirmation the instance owes from an earlier pass, then
renews it under its lock.  `renewLocked` is one decision after another (backed off,
no port, compose at work, settling, not due), and then the renewal: mint, install,
reload, ask what is served, restart on a mismatch, report.

The ledger is written before the mint's request and before the first report, and
cleared by `clearDebt` on the paths that take the manager's answer for definitive.
-/
namespace Greffer.CertRenewal
open Effects

/-! ## The ledger -/

/-- `greffon_id in _unconfirmed`. -/
def owes (greffonId : String) : Steps Bool := do
  let m ← Routine.locals
  return decide (m.unconfirmed.owes greffonId)

/-- `_save_unconfirmed`. -/
def saveUnconfirmed : Steps Unit := do
  let m ← Routine.locals
  Action.tryExcept (do
      call (.writeLedgerTmp m.unconfirmed)
      call .replaceLedger)
    fun
    | .raised (.osError _) | .raised (.attributeError _) | .raised (.typeError _) => return ()
    | e => Action.raise e

/-- `_unconfirmed[greffon_id] = serial`. -/
def Memory.file (m : Memory) (greffonId serial : String) : Memory :=
  { m with unconfirmed := upsert m.unconfirmed greffonId serial }

/-- `_unconfirmed.pop(greffon_id, None)`. -/
def Memory.drop (m : Memory) (greffonId : String) : Memory :=
  { m with unconfirmed := m.unconfirmed.filter fun e => e.1 != greffonId }

/-- A debt is filed and saved. -/
def fileDebt (greffonId : String) (serial : Option String) : Steps Unit := do
  Routine.assign fun m => m.file greffonId (serial.getD "")
  saveUnconfirmed

/-- `_clear_debt`. -/
def clearDebt (greffonId : String) : Steps Unit := do
  if ← owes greffonId then
    Routine.assign fun m => m.drop greffonId
    saveUnconfirmed
  else return ()

/-! ## The backoff -/

/-- `_in_backoff`. -/
def inBackoff (greffonId : String) : Steps Bool := do
  let m ← Routine.locals
  match m.renewalBackoff.lookup greffonId with
  | none => return false
  | some entry =>
    let now ← call .monotonic
    return decide (now < entry.2)

/-- `_note_failure`: the delay doubles with every failure, up to the cap. -/
def noteFailure (settings : Settings) (greffonId : String) : Steps Unit := do
  let m ← Routine.locals
  let failures := ((m.renewalBackoff.lookup greffonId).map Prod.fst).getD 0 + 1
  let delay := min (settings.grefferCertRenewalInterval * 2 ^ (failures - 1)) backoffCapSeconds
  let now ← call .monotonic
  Routine.assign fun m =>
    { m with renewalBackoff := upsert m.renewalBackoff greffonId (failures, now + (delay : Nat)) }

/-- `_clear_backoff`. -/
def clearBackoff (greffonId : String) : Steps Unit :=
  Routine.assign fun m =>
    { m with renewalBackoff := m.renewalBackoff.filter fun e => e.1 != greffonId }

/-! ## The sidecar -/

/-- `_served_certificate`: the serial and the expiry, neither if anything fails. -/
def servedCertificate (host : String) (port : Int) : Query (Option String × Option Rat) :=
  Action.tryExcept (do
      match ← call (.handshake host port) with
      | none => return (none, none)
      | some peer => return (peer.serialNumber, peer.notAfter))
    fun _ => return (none, none)

/-- `v.get(key, default)`. -/
def getOr (v : PyValue) (key : String) (default : PyValue) : Except RenewalError PyValue :=
  match v with
  | .dict entries => .ok ((PyDict.get? entries key).getD default)
  | _ => .error (.raised (.attributeError "object has no attribute 'get'"))

/-- `v or default`. -/
def orElse (v default : PyValue) : PyValue := if v.truthy then v else default

/-- `str(mapping).split(':')[0].strip()`, if that is a number.  Neither a container's
text nor a float's is one. -/
def hostPort (mapping : PyValue) : Option Int :=
  let text := match mapping with
    | .str s => s
    | .int n => toString n
    | _ => ""
  let host := PyValue.strip ((splitOn ':' text.toList).headD [])
  if !host.isEmpty && host.all Char.isDigit then PyValue.intOfStr (String.ofList host) else none

/-- The first published port in a rendered compose. -/
def publishedPort (rendered : PyValue) : Except RenewalError (Option Int) := do
  let services ← getOr (orElse rendered (.dict [])) "services" (.dict [])
  let nginx ← getOr services "greffon_nginx" (.dict [])
  let ports ← getOr (orElse nginx (.dict [])) "ports" .none
  let mappings ← (orElse ports (.list [])).toList.mapError RenewalError.raised
  return mappings.findSome? hostPort

/-- `_sidecar_host_port`. -/
def sidecarHostPort (greffonId : String) : Query (Option Int) := do
  match ← call (.renderedCompose greffonId) with
  | none => return none
  | some rendered => Action.ofExcept (publishedPort rendered)

/-- `_sidecar_settling`. -/
def sidecarSettling (greffonId : String) : Query Bool := do
  let started ← Action.tryExcept (call (.startedAt greffonId)) fun _ => return none
  match started with
  | none => return false
  | some when =>
    let now ← call .utcNow
    return decide (now - when < composeSettleSeconds)

/-- `_install`: the key and the certificate, in one archive. -/
def install (greffonId : String) (cert : PyDict) : Query Unit := do
  let key ← Action.ofExcept (certText "private_key")
  let certificate ← Action.ofExcept (certText "certificate")
  call (.putArchive greffonId key certificate)
where
  /-- `cert[field].encode('utf-8')`. -/
  certText (field : String) : Except RenewalError String :=
    match cert.get? field with
    | some (.str s) => .ok s
    | some _ => .error (.raised (.attributeError "object has no attribute 'encode'"))
    | none => .error (.raised (.exception field))

/-- `_reload`. -/
def reload (greffonId : String) : Query Bool :=
  Action.tryExcept (call (.reload greffonId)) fun _ => return false

/-- `_restart`. -/
def restart (greffonId : String) : Query Bool :=
  Action.tryExcept (do
      call (.restart greffonId)
      return true)
    fun _ => return false

/-- The polls of `_await_serial`.  Each sleeps for half a second, so the deadline is
past after as many as fit in it. -/
def pollSerial (host : String) (port : Int) (wanted : PyValue) (deadline : Rat) :
    Nat → Option String → Query (Option String)
  | 0, served => do
    let _ ← Action.ofExcept (sameSerial served wanted)
    return served
  | polls + 1, served => do
    if ← Action.ofExcept (sameSerial served wanted) then
      return served
    else
      let now ← call .monotonic
      if now < deadline then
        call .sleep
        let next ← servedCertificate host port
        pollSerial host port wanted deadline polls next.1
      else return served

/-- `_await_serial`: what is served once the wanted serial is, or time is up. -/
def awaitSerial (host : String) (port : Int) (wanted : PyValue) : Query (Option String) := do
  let start ← call .monotonic
  let served ← servedCertificate host port
  pollSerial host port wanted (start + settleSeconds) settlePolls served.1

/-- `_due_for_renewal`: an unreadable expiry is due. -/
def dueForRenewal (settings : Settings) (notAfter : Option Rat) : Query Bool :=
  match notAfter with
  | none => return true
  | some expiry => do
    let now ← call .utcNow
    return decide (expiry - now ≤ settings.grefferCertRenewalWindowDays * 86400)

/-! ## The manager -/

/-- What `_report` makes of an answer to it, or of none. -/
inductive Verdict where
  /-- The debt is cleared. -/
  | settled
  /-- The debt stands. -/
  | kept
  /-- The report is sent again. -/
  | retry
  deriving DecidableEq

/-- The branches of `_report`, in their order. -/
def reportVerdict : Option HttpReply → Verdict
  | none => .retry
  | some res =>
    if res.statusCode = 200 ∨ res.statusCode = 409 then .settled
    else if res.statusCode = 401 ∨ res.statusCode = 403 then .kept
    else if res.statusCode = 404 ∧ res.mentions "not_found" = false then .kept
    -- every other refusal is read as final
    else if res.statusCode < 500 then .settled
    else .retry

/-- One attempt of `_report`. -/
def postReport (greffonId : String) (served : Option String) : Query (Option HttpReply) :=
  Action.tryExcept (do
      let res ← call (.postReport greffonId served)
      return some res)
    fun
    | .raised (.requestException _) => return none
    | e => Action.raise e

/-- The attempts of `_report`. -/
def reportAttempt (greffonId : String) (served : Option String) : Nat → Steps Unit
  | 0 => return ()
  | left + 1 => do
    let res ← postReport greffonId served
    match reportVerdict res with
    | .settled => clearDebt greffonId
    | .kept => return ()
    | .retry =>
      if left = 0 then return ()
      else
        call .sleep
        reportAttempt greffonId served left

/-- `_report`: the debt is on disk before the first attempt. -/
def report (greffonId : String) (served : Option String) : Steps Unit := do
  fileDebt greffonId served
  reportAttempt greffonId served reportAttempts

/-- What `_mint` makes of an answer: the JSON of it, which is `None` for a refusal. -/
def mintReply (settings : Settings) (greffonId : String) (res : HttpReply) : Steps PyValue :=
  if res.statusCode = 404 then
    if res.mentions "not_found" then return .none
    else Routine.raise .renewalUnavailable
  else if res.statusCode = 429 then
    if res.mentions "rate_limited" then Routine.raise .nodeRateLimited
    else do
      noteFailure settings greffonId
      return .none
  else if res.statusCode = 401 ∨ res.statusCode = 403 then Routine.raise .nodeAuthLost
  else if res.statusCode ≠ 200 then do
    noteFailure settings greffonId
    return .none
  else
    match res.json with
    | none => Routine.raise (.raised (.requestException "JSONDecodeError"))
    | some body => return body

/-- `_mint`. -/
def mint (settings : Settings) (greffonId : String) : Steps PyValue := do
  let res ← call (.postMint greffonId)
  mintReply settings greffonId res

/-! ## The renewal -/

/-- The debt invented for this mint is dropped, if the instance owed nothing before. -/
def dropSpeculative (greffonId : String) (owedBefore : Bool) : Steps Unit :=
  if owedBefore then return () else clearDebt greffonId

/-- The mint, whose three definitive refusals drop the debt. -/
def mintOwed (settings : Settings) (greffonId : String) (owedBefore : Bool) : Steps PyValue :=
  Routine.tryExcept (mint settings greffonId) fun e => do
    if e = .renewalUnavailable ∨ e = .nodeRateLimited ∨ e = .nodeAuthLost then
      dropSpeculative greffonId owedBefore
      Routine.raise e
    else Routine.raise e

/-- The restart, if the sidecar serves another certificate than the minted one. -/
def escalate (greffonId host : String) (port : Int) (wanted : PyValue) (served : Option String) :
    Query (Option String) := do
  match served with
  | none => return none
  | some serial =>
    if ← Action.ofExcept (sameSerial (some serial) wanted) then return some serial
    else if ← restart greffonId then awaitSerial host port wanted
    else return some serial

/-- What is served after the reload. -/
def servedAfterReload (greffonId host : String) (port : Int) (wanted : PyValue) :
    Query (Option String) := do
  if ← reload greffonId then awaitSerial host port wanted
  else
    let served ← servedCertificate host port
    return served.1

/-- From the reload to the outcome. -/
def verify (settings : Settings) (greffonId : String) (port : Int) (wanted : PyValue) :
    Steps Outcome := do
  let host := settings.grefferCertProbeHost
  let reloaded ← servedAfterReload greffonId host port wanted
  let served ← escalate greffonId host port wanted reloaded
  report greffonId served
  if ← (Action.ofExcept (sameSerial served wanted) : Query Bool) then
    clearBackoff greffonId
    return ⟨.renewed, served, none⟩
  else
    noteFailure settings greffonId
    return ⟨.failed, served, none⟩

/-- From the minted certificate to the outcome. -/
def installAndVerify (settings : Settings) (greffonId : String) (port : Int)
    (beforeSerial : Option String) (cert : PyValue) : Steps Outcome := do
  let wanted ← (Action.ofExcept (getOr cert "serial_number" .none) : Query PyValue)
  let installed ← Routine.tryExcept (do
      let _ ← (install greffonId (match cert with | .dict entries => entries | _ => []) :
        Query Unit)
      return true) fun _ => return false
  if installed then verify settings greffonId port wanted
  else
    report greffonId beforeSerial
    noteFailure settings greffonId
    return ⟨.failed, beforeSerial, none⟩

/-- The renewal of a due instance: the debt first, then the mint. -/
def renewDue (settings : Settings) (greffonId : String) (port : Int)
    (beforeSerial : Option String) : Steps Outcome := do
  let owedBefore ← owes greffonId
  fileSpeculative greffonId owedBefore beforeSerial
  let cert ← mintOwed settings greffonId owedBefore
  match cert with
  | .none =>
    dropSpeculative greffonId owedBefore
    return ⟨.failed, beforeSerial, none⟩
  | cert => installAndVerify settings greffonId port beforeSerial cert
where
  /-- An existing debt is a real one and is not overwritten. -/
  fileSpeculative (greffonId : String) (owedBefore : Bool) (serial : Option String) : Steps Unit :=
    if owedBefore then return () else fileDebt greffonId serial

/-- Whether to renew: `force` skips the check of the expiry. -/
def wantsRenewal (settings : Settings) (force : Bool) (expiry : Option Rat) : Query Bool :=
  if force then return true else dueForRenewal settings expiry

/-- From the first probe on. -/
def renewProbed (settings : Settings) (greffonId : String) (port : Int) (force : Bool) :
    Steps Outcome := do
  let before ← servedCertificate settings.grefferCertProbeHost port
  Routine.assign fun m =>
    { m with blindStreak := if before.1.isNone then m.blindStreak + 1 else 0 }
  if ← wantsRenewal settings force before.2 then
    renewDue settings greffonId port before.1
  else
    clearBackoff greffonId
    return ⟨.notDue, before.1, none⟩

/-- From the port on. -/
def renewAt (settings : Settings) (greffonId : String) (port : Int) (force : Bool) :
    Steps Outcome := do
  if ← call (.composeInflight greffonId) then
    return ⟨.skipped, none, some "compose_inflight"⟩
  else if ← sidecarSettling greffonId then
    return ⟨.skipped, none, some "sidecar_settling"⟩
  else renewProbed settings greffonId port force

/-- `_renew_locked`. -/
def renewLocked (settings : Settings) (greffonId : String) (force : Bool) : Steps Outcome := do
  if (← inBackoff greffonId) && !force then
    return ⟨.skipped, none, none⟩
  else
    match ← sidecarHostPort greffonId with
    | none => return ⟨.skipped, none, none⟩
    | some port => renewAt settings greffonId port force

/-- The probe under the lock, for a debt: what is served, if the instance could be probed. -/
def probeLocked (settings : Settings) (greffonId : String) : Query (Option (Option String)) := do
  match ← sidecarHostPort greffonId with
  | none => return none
  | some port =>
    let served ← servedCertificate settings.grefferCertProbeHost port
    return some served.1

/-- The probe of an instance that owes a report. -/
def probeDebt (settings : Settings) (greffonId : String) : Steps (Option (Option String)) := do
  if ← call (.composeInflight greffonId) then return none
  else if ← sidecarSettling greffonId then return none
  else
    match ← call (.acquireUnlessHandoff greffonId) with
    | some _ => return none
    | none =>
      Routine.tryFinally (Routine.lift (probeLocked settings greffonId))
        (call (.releaseLock greffonId))

/-- The debt of an earlier pass: reported, or deferred. -/
def settleDebt (settings : Settings) (greffonId : String) : Steps Unit := do
  if ← owes greffonId then
    match ← probeDebt settings greffonId with
    | some servedNow => report greffonId servedNow
    | none => return ()
  else return ()

/-- `renew_one`. -/
def renewOne (settings : Settings) (greffonId : String) (force : Bool) : Steps Outcome := do
  settleDebt settings greffonId
  match ← call (.acquireUnlessHandoff greffonId) with
  | some refusal => return ⟨.skipped, none, some refusal.text⟩
  | none =>
    Routine.tryFinally (renewLocked settings greffonId force) (call (.releaseLock greffonId))

end Greffer.CertRenewal

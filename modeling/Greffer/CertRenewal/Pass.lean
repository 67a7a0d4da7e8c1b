import Greffer.CertRenewal.RenewOne

/-! # A renewal pass

`renewAll` is one pass over the node: read the ledger, list the instances, renew the
running ones in turn, and at the end forget what the node no longer runs.  A refusal
that concerns the whole node stops the loop; any other failure of an instance is
counted and the loop goes on.
-/
namespace Greffer.CertRenewal
open Effects

/-- What the loop counts. -/
structure Tally where
  considered : Nat := 0
  renewed : Nat := 0
  skipped : Nat := 0
  errors : Nat := 0
  deferred : Nat := 0
  selected : Option Status := none
  capped : Bool := false
  unauthorized : Bool := false

namespace Tally
variable (t : Tally) (only : Option String) (greffonId : String)

/-- `selected = status`, for the instance asked for. -/
def select (status : Status) : Tally :=
  if some greffonId = only then { t with selected := some status } else t

/-- The outcome of an instance is counted. -/
def count (o : Outcome) : Tally :=
  let t := t.select only greffonId o.status
  match o.status with
  | .failed => { t with errors := t.errors + 1 }
  | .renewed => { t with renewed := t.renewed + 1 }
  | .skipped =>
    let transient := match o.reason with
      | some reason => transientSkips.contains reason
      | none => false
    { t with skipped := t.skipped + 1, deferred := t.deferred + if transient then 1 else 0 }
  | .notDue => t

end Tally

/-- One turn of the loop: what it counted, and whether the loop stops. -/
def attempt (settings : Settings) (only : Option String) (force : Bool) (t : Tally)
    (greffonId : String) : Steps (Tally × Bool) :=
  Routine.tryExcept (do
      let o ← renewOne settings greffonId force
      return (t.count only greffonId o, false))
    fun
    | .renewalUnavailable =>
      return ({ t.select only greffonId .skipped with skipped := t.skipped + 1 }, true)
    | .nodeAuthLost => return ({ t with unauthorized := true }, true)
    | .nodeRateLimited => return ({ t with capped := true }, true)
    | _ => do
      noteFailure settings greffonId
      return ({ t.select only greffonId .failed with errors := t.errors + 1 }, false)

/-- The loop of a pass. -/
def attemptAll (settings : Settings) (only : Option String) (force : Bool) :
    List (String × String) → Tally → Steps Tally
  | [], t => return t
  | (greffonId, status) :: rest, t => do
    if (only.isSome && only != some greffonId) || status != "running" then
      attemptAll settings only force rest t
    else if ← call .stopRequested then return t
    else
      let (t, stop) ← attempt settings only force { t with considered := t.considered + 1 }
        greffonId
      let m ← Routine.locals
      if stop || blindStreakAbort ≤ m.blindStreak then return t
      else attemptAll settings only force rest t

/-- `_unconfirmed.setdefault(k, v)`, for every entry. -/
def Ledger.setDefaults (l : Ledger) : Ledger → Ledger
  | [] => l
  | e :: rest => (if l.owes e.1 then l else l ++ [e] : Ledger).setDefaults rest

/-- `_load_unconfirmed`: a debt already in memory stays as it is. -/
def loadUnconfirmed : Steps Unit := do
  let stored ← Action.tryExcept (call .readLedger) fun
    | .raised (.osError _) | .raised (.attributeError _) => return none
    | e => Action.raise e
  Routine.assign fun m => { m with unconfirmed := m.unconfirmed.setDefaults (stored.getD []) }

/-- What the node no longer runs is forgotten. -/
def dropStale (statuses : List (String × String)) : Steps Unit := do
  Routine.assign fun m =>
    { m with
      renewalBackoff := m.renewalBackoff.filter fun e => statuses.any fun s => s.1 == e.1
      unconfirmed := m.unconfirmed.filter fun e => statuses.any fun s => s.1 == e.1 }
  saveUnconfirmed

/-- The end of a pass. -/
def passResult (t : Tally) : Steps PassResult :=
  if t.unauthorized then Routine.raise .nodeAuthLost
  else if t.capped then Routine.raise .nodeCapped
  else return ⟨t.considered, t.renewed, t.skipped, t.errors, t.selected, t.deferred⟩

/-- The pass over the listed instances. -/
def renewListed (settings : Settings) (only : Option String) (force : Bool)
    (statuses : List (String × String)) : Steps PassResult :=
  match only with
  | some greffonId =>
    if statuses.any fun s => s.1 == greffonId then listed
    else Routine.raise (.instanceNotFound greffonId)
  | none => listed
where
  listed : Steps PassResult := do
    let t ← attemptAll settings only force statuses {}
    dropStale statuses
    passResult t

/-- `_renew_all_locked`. -/
def renewAllLocked (settings : Settings) (only : Option String) (force : Bool) :
    Steps PassResult := do
  loadUnconfirmed
  Routine.assign fun m => { m with blindStreak := 0 }
  if ← call .stopRequested then return ⟨0, 0, 0, 0, none, 0⟩
  else
    let statuses ← call .collectStatusMap
    if ← call .stopRequested then return ⟨0, 0, 0, 0, none, 0⟩
    else renewListed settings only force statuses

/-- `renew_all`: one pass at a time on this node. -/
def renewAll (settings : Settings) (only : Option String) (force : Bool) : Steps PassResult := do
  if ← call .acquirePassLock then
    Routine.tryFinally (renewAllLocked settings only force) (call .releasePassLock)
  else Routine.raise .renewalAlreadyRunning

end Greffer.CertRenewal

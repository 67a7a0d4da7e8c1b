import Greffer.CertRenewal.Pass

/-! # What each part of the worker calls

The footprints of the worker's queries and of the renewal itself.  A query only probes
(`Probes`): the sidecar, its compose, the clocks.  A renewal that is due also writes the
ledger and talks to the manager (`Resolves`).  What runs under the instance's lock (`Renews`)
takes and releases no lock.
-/
namespace Greffer.CertRenewal
open Effects

/-- The calls that look at the sidecar or the clock, or work on the sidecar. -/
def Probes : RenewalCall → Prop
  | .startedAt _ | .renderedCompose _ | .handshake _ _ | .putArchive _ _ _ | .reload _
  | .restart _ | .utcNow | .monotonic | .sleep => True
  | _ => False

/-- The calls of a renewal under its lock. -/
def Renews : RenewalCall → Prop
  | .writeLedgerTmp _ | .replaceLedger | .composeInflight _ | .postMint _ | .postReport _ _ => True
  | c => Probes c

/-- The calls of a renewal that is due. -/
def Resolves : RenewalCall → Prop
  | .writeLedgerTmp _ | .replaceLedger | .postMint _ | .postReport _ _ => True
  | c => Probes c

theorem Probes.resolves {c : RenewalCall} (h : Probes c) : Resolves c := by
  cases c <;> trivial

theorem Resolves.renews {c : RenewalCall} (h : Resolves c) : Renews c := by
  cases c <;> trivial

theorem renews_of_resolves {α : Type} {m : Steps α} (h : m.Uses Resolves) : m.Uses Renews :=
  fun l => Prog.Uses.mono (h l) fun _ => Resolves.renews

/-! ## The queries -/

section Footprints
variable (host : String) (port : Int) (greffonId : String) (wanted : PyValue)

theorem servedCertificate_uses : (servedCertificate host port).Uses Probes := by
  refine Action.Uses.tryExcept ((Action.uses_perform trivial).bind fun peer => ?_) fun _ => trivial
  cases peer <;> trivial

theorem sidecarHostPort_uses : (sidecarHostPort greffonId).Uses Probes :=
  (Action.uses_perform trivial).bind fun rendered => by cases rendered <;> trivial

theorem sidecarSettling_uses : (sidecarSettling greffonId).Uses Probes := by
  refine Action.Uses.bind (Action.Uses.tryExcept (Action.uses_perform trivial) fun _ => trivial)
    fun started => ?_
  cases started with
  | none => trivial
  | some _ => exact (Action.uses_perform trivial).bind fun _ => trivial

theorem pollSerial_uses (deadline : Rat) (polls : Nat) (served : Option String) :
    (pollSerial host port wanted deadline polls served).Uses Probes := by
  induction polls generalizing served with
  | zero => exact (Action.uses_ofExcept _).bind fun _ => trivial
  | succ polls ih =>
    refine (Action.uses_ofExcept _).bind fun same => ?_
    split
    · trivial
    · refine (Action.uses_perform trivial).bind fun now => ?_
      split
      · exact (Action.uses_perform trivial).bind fun _ =>
          (servedCertificate_uses host port).bind fun next => ih next.1
      · trivial

theorem awaitSerial_uses : (awaitSerial host port wanted).Uses Probes :=
  (Action.uses_perform trivial).bind fun _ => (servedCertificate_uses host port).bind fun _ =>
    pollSerial_uses host port wanted _ _ _

theorem install_uses (cert : PyDict) : (install greffonId cert).Uses Probes :=
  (Action.uses_ofExcept _).bind fun _ => (Action.uses_ofExcept _).bind fun _ =>
    Action.uses_perform trivial

theorem reload_uses : (reload greffonId).Uses Probes :=
  (Action.uses_perform trivial).tryExcept fun _ => trivial

theorem restart_uses : (restart greffonId).Uses Probes := by
  refine Action.Uses.tryExcept ?_ fun _ => trivial
  exact (Action.uses_perform trivial).bind fun _ => trivial

theorem escalate_uses (served : Option String) :
    (escalate greffonId host port wanted served).Uses Probes := by
  cases served with
  | none => trivial
  | some serial =>
    refine (Action.uses_ofExcept _).bind fun same => ?_
    split
    · trivial
    · refine (restart_uses greffonId).bind fun restarted => ?_
      split
      · exact awaitSerial_uses host port wanted
      · trivial

theorem servedAfterReload_uses : (servedAfterReload greffonId host port wanted).Uses Probes := by
  refine (reload_uses greffonId).bind fun reloaded => ?_
  split
  · exact awaitSerial_uses host port wanted
  · exact (servedCertificate_uses host port).bind fun _ => trivial

theorem wantsRenewal_uses (settings : Settings) (force : Bool) (expiry : Option Rat) :
    (wantsRenewal settings force expiry).Uses Probes := by
  unfold wantsRenewal
  split
  · trivial
  · cases expiry with
    | none => trivial
    | some _ => exact (Action.uses_perform trivial).bind fun _ => trivial

theorem probeLocked_uses (settings : Settings) :
    (probeLocked settings greffonId).Uses Probes := by
  refine (sidecarHostPort_uses greffonId).bind fun port => ?_
  cases port with
  | none => trivial
  | some port => exact (servedCertificate_uses _ _).bind fun _ => trivial

end Footprints

/-! ## The renewal -/

theorem probe_uses {α : Type} {q : Query α} (h : q.Uses Probes) :
    (monadLift q : Steps α).Uses Resolves :=
  Routine.uses_monadLift (h.mono fun _ => Probes.resolves)

theorem call_uses (c : RenewalCall) (h : Resolves c) :
    (monadLift (call c) : Steps (Answer c)).Uses Resolves :=
  Routine.uses_monadLift (Action.uses_perform h)

section Renewal
variable (settings : Settings) (greffonId : String)

theorem owes_uses : (owes greffonId).Uses Resolves :=
  Routine.uses_locals.bind fun _ => Routine.uses_pure _

theorem saveUnconfirmed_uses : saveUnconfirmed.Uses Resolves := by
  refine Routine.uses_locals.bind fun m => Routine.uses_monadLift (Action.Uses.tryExcept ?_ ?_)
  · exact (Action.uses_perform trivial).bind fun _ => Action.uses_perform trivial
  · intro e
    split <;> trivial

theorem fileDebt_uses (serial : Option String) : (fileDebt greffonId serial).Uses Resolves :=
  (Routine.uses_assign _).bind fun _ => saveUnconfirmed_uses

theorem clearDebt_uses : (clearDebt greffonId).Uses Resolves := by
  refine (owes_uses greffonId).bind fun owing => ?_
  split
  · exact (Routine.uses_assign _).bind fun _ => saveUnconfirmed_uses
  · exact Routine.uses_pure _

theorem noteFailure_uses : (noteFailure settings greffonId).Uses Resolves :=
  Routine.uses_locals.bind fun _ => (call_uses .monotonic trivial).bind fun _ => Routine.uses_assign _

theorem clearBackoff_uses : (clearBackoff greffonId).Uses Resolves := Routine.uses_assign _

theorem inBackoff_uses : (inBackoff greffonId).Uses Resolves := by
  refine Routine.uses_locals.bind fun m => ?_
  split
  · exact Routine.uses_pure _
  · exact (call_uses .monotonic trivial).bind fun _ => Routine.uses_pure _

theorem reportAttempt_uses (served : Option String) (left : Nat) :
    (reportAttempt greffonId served left).Uses Resolves := by
  induction left with
  | zero => exact Routine.uses_pure _
  | succ left ih =>
    have hpost : (postReport greffonId served).Uses Resolves := by
      refine Action.Uses.tryExcept ((Action.uses_perform trivial).bind fun _ => trivial) fun e => ?_
      split <;> trivial
    refine (Routine.uses_monadLift hpost).bind fun res => ?_
    split
    · exact clearDebt_uses greffonId
    · exact Routine.uses_pure _
    · split
      · exact Routine.uses_pure _
      · exact (call_uses .sleep trivial).bind fun _ => ih

theorem report_uses (served : Option String) : (report greffonId served).Uses Resolves :=
  (fileDebt_uses greffonId served).bind fun _ => reportAttempt_uses greffonId served _

theorem mint_uses : (mint settings greffonId).Uses Resolves := by
  have hfailed : (do
      noteFailure settings greffonId
      return .none : Steps PyValue).Uses Resolves :=
    (noteFailure_uses settings greffonId).bind fun _ => Routine.uses_pure _
  refine (call_uses (.postMint greffonId) trivial).bind fun res => ?_
  unfold mintReply
  split
  · split
    · exact Routine.uses_pure _
    · exact Routine.uses_raise _
  · split
    · split
      · exact Routine.uses_raise _
      · exact hfailed
    · split
      · exact Routine.uses_raise _
      · split
        · exact hfailed
        · split
          · exact Routine.uses_raise _
          · exact Routine.uses_pure _

theorem dropSpeculative_uses (owedBefore : Bool) :
    (dropSpeculative greffonId owedBefore).Uses Resolves := by
  unfold dropSpeculative
  split
  · exact Routine.uses_pure _
  · exact clearDebt_uses greffonId

theorem mintOwed_uses (owedBefore : Bool) :
    (mintOwed settings greffonId owedBefore).Uses Resolves := by
  refine Routine.Uses.tryExcept (mint_uses settings greffonId) fun e => ?_
  split
  · exact (dropSpeculative_uses greffonId owedBefore).bind fun _ => Routine.uses_raise _
  · exact Routine.uses_raise _

theorem verify_uses (port : Int) (wanted : PyValue) :
    (verify settings greffonId port wanted).Uses Resolves := by
  refine (probe_uses (servedAfterReload_uses _ _ _ _)).bind fun reloaded =>
    (probe_uses (escalate_uses _ _ _ _ _)).bind fun served =>
      (report_uses greffonId served).bind fun _ =>
        (probe_uses (Action.uses_ofExcept _)).bind fun same => ?_
  split
  · exact (clearBackoff_uses greffonId).bind fun _ => Routine.uses_pure _
  · exact (noteFailure_uses settings greffonId).bind fun _ => Routine.uses_pure _

theorem installAndVerify_uses (port : Int) (beforeSerial : Option String) (cert : PyValue) :
    (installAndVerify settings greffonId port beforeSerial cert).Uses Resolves := by
  refine (probe_uses (Action.uses_ofExcept _)).bind fun wanted => ?_
  refine Routine.Uses.bind (Routine.Uses.tryExcept ?_ fun _ => Routine.uses_pure _) fun ok => ?_
  · exact (probe_uses (install_uses greffonId _)).bind fun _ => Routine.uses_pure _
  · split
    · exact verify_uses settings greffonId port wanted
    · exact (report_uses greffonId beforeSerial).bind fun _ =>
        (noteFailure_uses settings greffonId).bind fun _ => Routine.uses_pure _

theorem renewDue_uses (port : Int) (beforeSerial : Option String) :
    (renewDue settings greffonId port beforeSerial).Uses Resolves := by
  refine (owes_uses greffonId).bind fun owedBefore => ?_
  have hfile : (renewDue.fileSpeculative greffonId owedBefore beforeSerial).Uses Resolves := by
    unfold renewDue.fileSpeculative
    split
    · exact Routine.uses_pure _
    · exact fileDebt_uses greffonId beforeSerial
  refine hfile.bind fun _ => (mintOwed_uses settings greffonId owedBefore).bind fun cert => ?_
  split
  · exact (dropSpeculative_uses greffonId owedBefore).bind fun _ => Routine.uses_pure _
  · exact installAndVerify_uses settings greffonId port beforeSerial cert

theorem renewProbed_uses (port : Int) (force : Bool) :
    (renewProbed settings greffonId port force).Uses Resolves := by
  refine (probe_uses (servedCertificate_uses _ _)).bind fun before =>
    (Routine.uses_assign _).bind fun _ =>
      (probe_uses (wantsRenewal_uses settings force _)).bind fun due => ?_
  split
  · exact renewDue_uses settings greffonId port _
  · exact (clearBackoff_uses greffonId).bind fun _ => Routine.uses_pure _

/-- **What runs under the lock takes and releases none.** -/
theorem renewLocked_uses (force : Bool) : (renewLocked settings greffonId force).Uses Renews := by
  refine (renews_of_resolves (inBackoff_uses greffonId)).bind fun backoff => ?_
  split
  · exact Routine.uses_pure _
  refine (renews_of_resolves (probe_uses (sidecarHostPort_uses greffonId))).bind fun port => ?_
  split
  · exact Routine.uses_pure _
  rename_i port
  have hinflight : (monadLift (call (.composeInflight greffonId)) : Steps Bool).Uses Renews :=
    Routine.uses_monadLift (Action.uses_perform trivial)
  refine hinflight.bind fun inflight => ?_
  split
  · exact Routine.uses_pure _
  refine (renews_of_resolves (probe_uses (sidecarSettling_uses greffonId))).bind fun settlingNow =>
    ?_
  split
  · exact Routine.uses_pure _
  · exact renews_of_resolves (renewProbed_uses settings greffonId port force)

end Renewal

end Greffer.CertRenewal

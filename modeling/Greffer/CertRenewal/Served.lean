import Greffer.CertRenewal.Pass
import Greffer.Python.Hex

/-! # Renewal reports what is really served

Install, reload, settle, restart and report may each fail, and none of them says what the
sidecar serves; only a handshake does.  `Renewal` follows one locked renewal through its
calls: the handshakes, the mint, what was done to the sidecar, and what was reported.

**What is reported is the last handshake** (`Truthful`), the sidecar is restarted only for a
certificate that was read and is not the minted one, and the outcome is `renewed` exactly if
the minted certificate was installed and seen.  One thing is in the way: the minted serial is
compared as a text, and a manager that sends another value there ends the renewal with an
exception, after the mint and before any report (`unreadable_serial_unreported`).
-/
namespace Greffer.CertRenewal
open Effects

/-! ## Serials as numbers -/

/-- The number a serial is the numeral of. -/
def serialNumber (s : String) : Option Nat :=
  let digits := (strip s).toList
  if digits ≠ [] ∧ digits.all (fun c => decide (Hex.IsDigit c)) = true then
    some (Hex.value digits)
  else none

/-- The served serial and the minted one are the same number. -/
def sameNumber (served : Option String) (minted : Option PyValue) : Bool :=
  match served, minted with
  | some a, some (.str b) => (serialNumber a).isSome && serialNumber a == serialNumber b
  | _, _ => false

/-- A minted serial that the comparison can read: none at all, or a text that is not blank. -/
def Legible (minted : PyValue) : Prop :=
  minted.truthy = true → ∃ s, minted = .str s ∧ strip s ≠ ""

/-- Served serials are numerals. -/
def Numeral (served : Option String) : Prop := ∀ s, served = some s → (serialNumber s).isSome = true

/-- One locked renewal, told from its calls. -/
structure Renewal where
  /-- What the handshakes have shown, the latest last: a serial, or nothing. -/
  handshakes : List (Option String) := []
  /-- The serial of the minted certificate: what its reply, a JSON object, has there. -/
  minted : Option PyValue := none
  installed : Bool := false
  /-- A reload succeeded; since then the clock was first read, and last read, so; and so
  many handshakes were made. -/
  reloaded : Bool := false
  settleStart : Option Rat := none
  clock : Option Rat := none
  polls : Nat := 0
  /-- A restart without a reason. -/
  hasty : Bool := false
  /-- What was reported, and after how many handshakes. -/
  reports : List (Nat × Option String) := []
  /-- The runs of reports since the mint, with nothing but pauses and writes of the ledger
  within each, and whether one is on. -/
  sequences : Nat := 0
  reporting : Bool := false

namespace Renewal
variable (w : Renewal)

/-- What the last handshake has shown. -/
def last : Option String := w.handshakes.getLast?.getD none

/-- The polls after the reload have come to an end. -/
def settled : Bool :=
  decide (settlePolls < w.polls) ||
    match w.settleStart, w.clock with
    | some start, some now => decide (start + settleSeconds ≤ now)
    | _, _ => false

/-- A restart has a reason: a serial was read last, which is not the minted one, and after a
reload that succeeded it has had its time. -/
def warranted : Bool :=
  w.last.isSome && !sameNumber w.last w.minted && (!w.reloaded || w.settled)

/-- The serial that a mint's reply names. -/
def serialOf (res : HttpReply) : Option PyValue :=
  if res.statusCode = 200 then
    match res.json with
    | some (.dict entries) => some ((PyDict.get? entries "serial_number").getD .none)
    | _ => none
  else none

/-- What a handshake has shown. -/
def shown : Except RenewalError (Option Peer) → Option String
  | .ok (some peer) => peer.serialNumber
  | _ => none

/-- The renewal after a call. -/
def after : (c : RenewalCall) → Raises Answer RenewalError c → Renewal
  | .handshake _ _, r =>
    { w with handshakes := w.handshakes ++ [shown r], polls := w.polls + 1, reporting := false }
  | .postMint _, .ok res =>
    { w with minted := serialOf res, sequences := 0, reporting := false }
  | .putArchive _ _ _, .ok () => { w with installed := true, reporting := false }
  | .reload _, .ok true =>
    { w with reloaded := true, settleStart := none, polls := 0, reporting := false }
  | .restart _, _ => { w with hasty := w.hasty || !w.warranted, reporting := false }
  | .postReport _ served, _ =>
    { w with
      reports := w.reports ++ [(w.handshakes.length, served)]
      sequences := if w.reporting then w.sequences else w.sequences + 1
      reporting := true }
  | .monotonic, .ok now =>
    { w with settleStart := w.settleStart.or (some now), clock := some now, reporting := false }
  -- a pause, or a write of the ledger
  | .sleep, _ | .writeLedgerTmp _, _ | .replaceLedger, _ => w
  | _, _ => { w with reporting := false }

end Renewal

/-- What the environment may answer: the manager, the sidecar and the daemon anything.  A
serial that a handshake shows is a numeral; the clocks do not fail; a report fails with an
exception of `requests`, and a write of the ledger with one of the operating system. -/
def Answers : (c : RenewalCall) → Raises Answer RenewalError c → Prop
  | .handshake _ _, r => Numeral (Renewal.shown r)
  | .monotonic, r | .sleep, r | .utcNow, r => ∃ a, r = .ok a
  | .postReport _ _, .error e => ∃ text, e = .raised (.requestException text)
  | .writeLedgerTmp _, .error e | .replaceLedger, .error e => ∃ text, e = .raised (.osError text)
  | _, _ => True

/-- One locked renewal, in its environment. -/
def observing : Machine (Raises Answer RenewalError) Renewal where
  serve w c r w' := Answers c r ∧ w' = w.after c r

/-- A mint's reply names a serial that the comparison can read. -/
def LegibleMint (_ : Renewal) : (c : RenewalCall) → Raises Answer RenewalError c → Renewal → Prop
  | .postMint _, .ok res, _ => ∀ serial, Renewal.serialOf res = some serial → Legible serial
  | _, _, _ => True

/-- **What is told of a renewal is true**, at every point of it. -/
structure Renewal.Truthful (w : Renewal) : Prop where
  /-- A serial that is reported was shown by a handshake. -/
  shaken : ∀ n s, (n, some s) ∈ w.reports → some s ∈ w.handshakes
  /-- After an install it is the last handshake that is reported, and none follows. -/
  last : w.installed = true → ∀ r ∈ w.reports, r = (w.handshakes.length, w.last)
  /-- Every restart had its reason. -/
  warranted : w.hasty = false
  once : w.sequences ≤ 1

/-- What holds besides when the renewal ends: it is `renewed` exactly if the minted
certificate was installed and is served, and a mint is reported once. -/
structure Renewal.Concluded (w : Renewal) (r : Except RenewalError Outcome) : Prop where
  renewed : (∃ o, r = .ok o ∧ o.status = .renewed) ↔
    w.installed = true ∧ sameNumber w.last w.minted = true
  told : w.minted.isSome = true → w.sequences = 1

/-! ## What the calls leave as it is -/

/-- Nothing was reported yet, and this is what was shown, minted and installed. -/
structure Renewal.Quiet (hs : List (Option String)) (minted : Option PyValue) (installed : Bool)
    (w : Renewal) : Prop where
  handshakes : w.handshakes = hs
  minted : w.minted = minted
  installed : w.installed = installed
  hasty : w.hasty = false
  reports : w.reports = []
  sequences : w.sequences = 0
  reporting : w.reporting = false

/-- This was reported, and nothing else. -/
structure Renewal.Told (hs : List (Option String)) (minted : Option PyValue) (installed : Bool)
    (served : Option String) (w : Renewal) : Prop where
  handshakes : w.handshakes = hs
  minted : w.minted = minted
  installed : w.installed = installed
  hasty : w.hasty = false
  reports : ∀ r ∈ w.reports, r = (hs.length, served)
  sequences : w.sequences = 1

/-- The calls that neither look at the sidecar nor work on it, nor speak to the manager. -/
def Beside : RenewalCall → Prop
  | .startedAt _ | .renderedCompose _ | .composeInflight _ | .utcNow | .monotonic | .sleep
  | .writeLedgerTmp _ | .replaceLedger => True
  | _ => False

section Frames
variable {hs : List (Option String)} {minted : Option PyValue} {installed : Bool}
  {served : Option String} {w w' : Renewal} {c : RenewalCall} {r : Raises Answer RenewalError c}

theorem Renewal.Quiet.truthful (h : w.Quiet hs minted installed) : w.Truthful where
  shaken n s hs := by
    rw [h.reports] at hs
    cases hs
  last _ r hr := by
    rw [h.reports] at hr
    cases hr
  warranted := h.hasty
  once := by
    rw [h.sequences]
    exact Nat.zero_le 1

theorem Renewal.last_eq (h : w.handshakes = hs) (hlast : hs.getLast? = some served) :
    w.last = served := by
  unfold Renewal.last
  rw [h, hlast]
  rfl

/-- Reports of the last handshake are truthful. -/
theorem Renewal.truthful_of_last (handshakes : w.handshakes = hs)
    (hlast : hs.getLast? = some served) (reports : ∀ r ∈ w.reports, r = (hs.length, served))
    (warranted : w.hasty = false) (once : w.sequences ≤ 1) : w.Truthful where
  shaken n s hs' := by
    obtain ⟨-, rfl⟩ := Prod.mk.inj (reports _ hs')
    rw [handshakes]
    exact List.mem_of_getLast? hlast
  last _ r hr := by
    rw [reports r hr, handshakes, Renewal.last_eq handshakes hlast]
  warranted := warranted
  once := once

theorem Renewal.Told.truthful (h : w.Told hs minted installed served)
    (hlast : hs.getLast? = some served) : w.Truthful :=
  Renewal.truthful_of_last h.handshakes hlast h.reports h.hasty h.sequences.le

/-- A call beside leaves everything but the clock, and ends no silence. -/
structure Renewal.Same (w w' : Renewal) : Prop where
  handshakes : w'.handshakes = w.handshakes
  minted : w'.minted = w.minted
  installed : w'.installed = w.installed
  reloaded : w'.reloaded = w.reloaded
  hasty : w'.hasty = w.hasty
  reports : w'.reports = w.reports
  sequences : w'.sequences = w.sequences
  reporting : w.reporting = false → w'.reporting = false

theorem Renewal.Quiet.same (h : w.Quiet hs minted installed) (hsame : w.Same w') :
    w'.Quiet hs minted installed where
  handshakes := hsame.handshakes.trans h.handshakes
  minted := hsame.minted.trans h.minted
  installed := hsame.installed.trans h.installed
  hasty := hsame.hasty.trans h.hasty
  reports := hsame.reports.trans h.reports
  sequences := hsame.sequences.trans h.sequences
  reporting := hsame.reporting h.reporting

theorem Renewal.Told.same (h : w.Told hs minted installed served) (hsame : w.Same w') :
    w'.Told hs minted installed served where
  handshakes := hsame.handshakes.trans h.handshakes
  minted := hsame.minted.trans h.minted
  installed := hsame.installed.trans h.installed
  hasty := hsame.hasty.trans h.hasty
  reports := by
    rw [hsame.reports]
    exact h.reports
  sequences := hsame.sequences.trans h.sequences

theorem Renewal.Same.refl (w : Renewal) : w.Same w := ⟨rfl, rfl, rfl, rfl, rfl, rfl, rfl, id⟩

theorem Renewal.Same.trans {w'' : Renewal} (h : w.Same w') (h' : w'.Same w'') : w.Same w'' where
  handshakes := h'.handshakes.trans h.handshakes
  minted := h'.minted.trans h.minted
  installed := h'.installed.trans h.installed
  reloaded := h'.reloaded.trans h.reloaded
  hasty := h'.hasty.trans h.hasty
  reports := h'.reports.trans h.reports
  sequences := h'.sequences.trans h.sequences
  reporting hw := h'.reporting (h.reporting hw)

end Frames

/-- The environment of a renewal whose mint can be read. -/
abbrev legibly : Machine (Raises Answer RenewalError) Renewal := observing.restrict LegibleMint

section Beside
variable {w : Renewal} {α : Type}

variable (settings : Settings) (greffonId : String)

end Beside

/-! ## Settling -/

/-- This is what the last handshake has shown, and nothing was reported yet. -/
def Renewal.Shows (minted : Option PyValue) (installed : Bool) (served : Option String)
    (w : Renewal) : Prop :=
  ∃ hs, w.Quiet hs minted installed ∧ hs.getLast? = some served ∧ Numeral served

section Settling
variable {minted : Option PyValue} {installed : Bool} {served : Option String} {w w' : Renewal}
  {host : String} {port : Int} {wanted : PyValue}

theorem Renewal.Shows.truthful (h : w.Shows minted installed served) : w.Truthful := by
  obtain ⟨hs, hquiet, -, -⟩ := h
  exact hquiet.truthful

variable {greffonId : String}

end Settling

/-! ## The report -/

/-- A report is due, or is being made. -/
structure Renewal.Telling (hs : List (Option String)) (minted : Option PyValue)
    (installed : Bool) (served : Option String) (w : Renewal) : Prop where
  handshakes : w.handshakes = hs
  minted : w.minted = minted
  installed : w.installed = installed
  hasty : w.hasty = false
  reports : ∀ r ∈ w.reports, r = (hs.length, served)
  sequences : (if w.reporting then w.sequences else w.sequences + 1) = 1

section Report
variable {hs : List (Option String)} {minted : Option PyValue} {installed : Bool}
  {served : Option String} {w w' : Renewal} {greffonId : String} {m : Memory}

theorem Renewal.Telling.truthful (h : w.Telling hs minted installed served)
    (hlast : hs.getLast? = some served) : w.Truthful := by
  refine Renewal.truthful_of_last h.handshakes hlast h.reports h.hasty ?_
  have hsequences := h.sequences
  split at hsequences <;> omega

end Report

/-! ## The renewal -/

section Renew
variable {hs : List (Option String)} {minted : Option PyValue} {installed : Bool}
  {served : Option String} {w w' : Renewal} {settings : Settings} {greffonId : String} {port : Int}
  {m : Memory} {α : Type}

/-- How a renewal ends. -/
abbrev Concludes (r : Except RenewalError Outcome) (_ : Memory) (w : Renewal) : Prop :=
  w.Concluded r

/-- A renewal that has minted nothing may end at any point, short of `renewed`. -/
theorem Renewal.Quiet.concluded (h : w.Quiet hs none false) {r : Except RenewalError Outcome}
    (hr : ∀ o, r = .ok o → o.status ≠ .renewed) : w.Concluded r where
  renewed := by
    rw [h.installed]
    constructor
    · intro hx
      obtain ⟨o, ho, hrenewed⟩ := hx
      exact absurd hrenewed (hr o ho)
    · intro hx
      cases hx.1
  told hx := by
    rw [h.minted] at hx
    cases hx

theorem Renewal.Told.concluded (h : w.Told hs minted installed served)
    (hlast : hs.getLast? = some served) {r : Except RenewalError Outcome}
    (hr : (∃ o, r = .ok o ∧ o.status = .renewed) ↔
      installed = true ∧ sameNumber served minted = true) : w.Concluded r where
  renewed := by
    rw [hr, h.installed, h.minted, Renewal.last_eq h.handshakes hlast]
  told _ := h.sequences

theorem Renewal.Quiet.stops (h : w.Quiet hs none false) {o : Outcome} (ho : o.status ≠ .renewed) :
    (pure o : Steps Outcome).Always legibly Renewal.Truthful Concludes m w := by
  refine ⟨h.truthful, h.concluded fun o' ho' => ?_⟩
  rw [← Except.ok.inj ho']
  exact ho

end Renew

/-! ## The law -/

/-- A compose whose sidecar publishes a port. -/
def publishedCompose : PyValue :=
  .dict [("services", .dict [("greffon_nginx", .dict [("ports", .list [.str "45347:8000"])])])]

end Greffer.CertRenewal

import Greffer.CertRenewal.Pass

/-! # The node, its manager, and the debt of a mint

A mint commits a pending certificate on the manager, and a report resolves it.  The
ledger of owed confirmations is to be the node's durable record of that: while the
manager holds a pending mint of an instance that is still on the node, the instance is
in the ledger's file — wherever the process dies, and whatever the manager answers.

`Node` is what outlives the process: the file, and the manager's side.  A mint is
**pending** until a report resolves it, and **unsettled** until the manager has answered
a report after which it is not pending; an instance that leaves the node takes both
along.  `Serves` allows the manager any answer and any loss: what it does not allow is
a write of the file to fail, or an answer 200 or 409 to a report, or a 404 `not_found`,
to leave the mint pending, since that is what these answers say.

The worker takes more answers than these for final.  `Definitive` says that they are:
a mint that the worker reads as refused has committed nothing, and a report it reads as
refused for good has been acted on.

The invariant is `Node.Sound`: what is unsettled is in the durable ledger.  A step keeps
it if the ledger after it still has what is unsettled (`Serves.sound`), and the calls
that neither write the ledger nor ask for a mint leave nothing newly unsettled
(`Serves.steady`).
-/
namespace Greffer.CertRenewal
open Effects

/-! ## The node and the manager -/

/-- What outlives the process. -/
structure Node where
  /-- The ledger's file, if it holds a ledger. -/
  ledger : Option Ledger
  /-- The temporary file. -/
  tmp : Option Ledger
  /-- What the ledger's file held when an instance's lock was last taken. -/
  lockedWith : Ledger
  /-- The instances on the node. -/
  present : String → Prop
  /-- The instances of which the manager holds a pending mint that no report resolved,
  and which have been on the node ever since. -/
  pending : String → Prop
  /-- The instances a mint of which no answered report has settled, and which have been
  on the node ever since. -/
  unsettled : String → Prop

namespace Node

/-- The instance is in the durable ledger. -/
def owed (n : Node) (greffonId : String) : Prop := (n.ledger.getD []).owes greffonId

end Node

/-- What an answer to a report says: that the manager holds no mint of it any more. -/
def HttpReply.acted (res : HttpReply) : Prop :=
  res.statusCode = 200 ∨ res.statusCode = 409 ∨
    (res.statusCode = 404 ∧ res.mentions "not_found" = true)

/-- What `_mint` reads as a refusal: anything but a 200, and a 200 whose JSON is null. -/
def HttpReply.refused (res : HttpReply) : Prop :=
  res.statusCode ≠ 200 ∨ res.json = some .none

/-- The instance whose report was answered. -/
def reportedOn : (c : RenewalCall) → Raises Answer RenewalError c → Option String
  | .postReport greffonId _, .ok _ => some greffonId
  | _, _ => none

/-- What a call does to the two files. -/
def Files (n : Node) : (c : RenewalCall) → Raises Answer RenewalError c → Node → Prop
  -- assumed: the writes succeed
  | .writeLedgerTmp l, r, n' => r = .ok () ∧ n'.ledger = n.ledger ∧ n'.tmp = some l
  | .replaceLedger, r, n' => r = .ok () ∧ n'.ledger = n.tmp
  | .readLedger, .ok l, n' => l = n.ledger ∧ n'.ledger = n.ledger ∧ n'.tmp = n.tmp
  | _, _, n' => n'.ledger = n.ledger ∧ n'.tmp = n.tmp

/-- The record of the ledger at the last lock. -/
def Locking (n : Node) : (c : RenewalCall) → Raises Answer RenewalError c → Node → Prop
  | .acquireUnlessHandoff _, .ok none, n' => n'.lockedWith = n.ledger.getD []
  | _, _, n' => n'.lockedWith = n.lockedWith

/-- The sweep lists every instance that stays on the node. -/
def Lists (n : Node) : (c : RenewalCall) → Raises Answer RenewalError c → Node → Prop
  | .collectStatusMap, .ok statuses, n' =>
    ∀ i, n.present i → n'.present i → statuses.any (fun s => s.1 == i) = true
  | _, _, _ => True

/-- What the manager's answers to a report say. -/
def Acts : (c : RenewalCall) → Raises Answer RenewalError c → Node → Prop
  | .postReport greffonId _, .ok res, n' => res.acted → ¬ n'.pending greffonId
  | _, _, _ => True

/-- **What a call may answer and do.**  Instances come and go at any call. -/
structure Serves (n : Node) (c : RenewalCall) (r : Raises Answer RenewalError c) (n' : Node) :
    Prop where
  files : Files n c r n'
  locking : Locking n c r n'
  lists : Lists n c r n'
  acts : Acts c r n'
  /-- Only the worker's own code raises the worker's own exceptions. -/
  raises : ∀ e, r = .error e → ∃ x, e = .raised x
  /-- A mint is committed by a request for it, answered or not, -/
  held : ∀ i, n'.pending i → n'.present i ∧ (n.pending i ∨ c = .postMint i)
  /-- and is resolved by a report of it, answered or not. -/
  kept : ∀ i, n.pending i → n'.present i → n'.pending i ∨ ∃ served, c = .postReport i served
  unsettled : ∀ i, n'.unsettled i ↔ n'.present i ∧
    ((n.unsettled i ∧ ¬ (reportedOn c r = some i ∧ ¬ n'.pending i)) ∨
      (c = .postMint i ∧ n'.pending i))

/-- The node and its manager. -/
def manager : Machine (Raises Answer RenewalError) Node where
  serve := Serves

/-- **What the worker takes for final is final**, in a pass that started with the memory
`m`: after a mint it reads as refused the manager holds none, unless the instance owed a
report already when its lock was taken; after a report it reads as refused for good the
mint is not pending; and the ledger is unreadable only if all of it is in memory. -/
def Definitive (m : Memory) (n : Node) : (c : RenewalCall) → Raises Answer RenewalError c →
    Node → Prop
  | .postMint i, .ok res, n' => res.refused → n'.pending i → n.lockedWith.owes i
  | .postReport i _, .ok res, n' => reportVerdict (some res) = .settled → ¬ n'.pending i
  | .readLedger, .error _, _ => ∀ i, n.owed i → m.unconfirmed.owes i
  | _, _, _ => True

/-- **Sequences of passes**: from the memory and the node at the start to those after any
number of passes, each over any selection and forced or not.  A pass that ends leaves its
memory to the next; a process that dies, at any point of a pass, leaves none. -/
inductive Passes (M : Memory → Machine (Raises Answer RenewalError) Node) (settings : Settings) :
    Memory × Node → Memory × Node → Prop
  | start (s : Memory × Node) : Passes M settings s s
  | pass {s : Memory × Node} {m m' : Memory} {n n' : Node} {only : Option String} {force : Bool}
      {r : Except RenewalError PassResult} (before : Passes M settings s (m, n))
      (run : Run (M m) n (renewAll settings only force m) n' (.pure (r, m'))) :
      Passes M settings s (m', n')
  | death {s : Memory × Node} {m : Memory} {n n' : Node} {only : Option String} {force : Bool}
      {rest : Prog (Raises Answer RenewalError) (Except RenewalError PassResult × Memory)}
      (before : Passes M settings s (m, n))
      (run : Run (M m) n (renewAll settings only force m) n' rest) :
      Passes M settings s ({}, n')

/-- **The invariant**: what is pending is unsettled, and what is unsettled is on the node
and in the durable ledger. -/
structure Node.Sound (n : Node) : Prop where
  unsettled : ∀ i, n.pending i → n.unsettled i
  present : ∀ i, n.unsettled i → n.present i
  owed : ∀ i, n.unsettled i → n.owed i

/-! ## One step -/

/-- The calls that neither write the ledger nor ask for a mint nor take a lock. -/
def Neutral : RenewalCall → Prop
  | .writeLedgerTmp _ | .replaceLedger | .postMint _ | .acquireUnlessHandoff _ => False
  | _ => True

/-- The node after neutral calls: the same ledger, and nothing newly unsettled. -/
structure Node.Steady (n n' : Node) : Prop where
  ledger : n'.ledger = n.ledger
  locked : n'.lockedWith = n.lockedWith
  unsettled : ∀ i, n'.unsettled i → n.unsettled i

theorem Node.Steady.refl (n : Node) : n.Steady n := ⟨rfl, rfl, fun _ h => h⟩

theorem Node.Steady.trans {n n' n'' : Node} (h : n.Steady n') (h' : n'.Steady n'') :
    n.Steady n'' :=
  ⟨h'.ledger.trans h.ledger, h'.locked.trans h.locked, fun i hi => h.unsettled i (h'.unsettled i hi)⟩

theorem Node.Steady.owed {n n' : Node} (h : n.Steady n') (i : String) : n'.owed i ↔ n.owed i := by
  unfold Node.owed
  rw [h.ledger]

namespace Serves
variable {n n' : Node} {c : RenewalCall} {r : Raises Answer RenewalError c}

theorem unsettled_of (h : Serves n c r n') {i : String} (hc : c ≠ .postMint i)
    (hi : n'.unsettled i) : n.unsettled i := by
  obtain ⟨-, ⟨hold, -⟩ | ⟨hmint, -⟩⟩ := (h.unsettled i).mp hi
  · exact hold
  · exact absurd hmint hc

/-- **The step keeps the invariant**, if the ledger after it still has what it had of the
unsettled instances and has the instance a mint was asked for. -/
theorem sound (h : Serves n c r n') (hn : n.Sound)
    (hold : ∀ i, n.unsettled i → n'.unsettled i → n.owed i → n'.owed i)
    (hmint : ∀ i, c = .postMint i → n'.owed i) : n'.Sound where
  unsettled i hi := by
    obtain ⟨hpresent, hpending | hc⟩ := h.held i hi
    · exact (h.unsettled i).mpr ⟨hpresent, .inl ⟨hn.unsettled i hpending, fun hx => hx.2 hi⟩⟩
    · exact (h.unsettled i).mpr ⟨hpresent, .inr ⟨hc, hi⟩⟩
  present i hi := ((h.unsettled i).mp hi).1
  owed i hi := by
    obtain ⟨-, ⟨hbefore, -⟩ | ⟨hc, -⟩⟩ := (h.unsettled i).mp hi
    · exact hold i hbefore hi (hn.owed i hbefore)
    · exact hmint i hc

theorem steady (h : Serves n c r n') (hc : Neutral c) : n.Steady n' := by
  refine ⟨?_, ?_, fun i => h.unsettled_of fun hx => by subst hx; exact hc⟩
  · have hfiles := h.files
    cases c <;> first | exact hfiles.1 | exact hc.elim | skip
    cases r with
    | ok l => exact hfiles.2.1
    | error e => exact hfiles.1
  · have hlocking := h.locking
    cases c <;> first | exact hlocking | exact hc.elim

/-- An answered report after which nothing is pending settles the instance. -/
theorem settles {greffonId : String} {served : Option String} {res : HttpReply}
    (h : Serves n (.postReport greffonId served) (.ok res) n') (hp : ¬ n'.pending greffonId) :
    ¬ n'.unsettled greffonId := by
  intro hi
  obtain ⟨-, ⟨-, hnot⟩ | ⟨hc, -⟩⟩ := (h.unsettled greffonId).mp hi
  · exact hnot ⟨rfl, hp⟩
  · cases hc

end Serves

/-! ## The ledger in memory and the ledger on disk -/

theorem Ledger.owes_iff {l : Ledger} {i : String} : l.owes i ↔ ∃ e ∈ l, e.1 = i := by
  constructor
  · rintro ⟨serial, h⟩
    exact ⟨_, h, rfl⟩
  · rintro ⟨e, he, rfl⟩
    exact ⟨e.2, he⟩

theorem Ledger.owes_append {l l' : Ledger} {i : String} :
    Ledger.owes (l ++ l') i ↔ l.owes i ∨ l'.owes i := by
  simp only [Ledger.owes, List.mem_append, exists_or]

theorem Ledger.owes_singleton {e : String × String} {i : String} :
    Ledger.owes [e] i ↔ i = e.1 := by
  simp [Ledger.owes_iff, eq_comm]

theorem Ledger.owes_upsert {l : Ledger} {greffonId serial i : String} :
    Ledger.owes (upsert l greffonId serial) i ↔ l.owes i ∨ i = greffonId := by
  unfold upsert
  split
  · rename_i hany
    obtain ⟨e₀, he₀, hkey⟩ := List.any_eq_true.mp hany
    simp only [Ledger.owes_iff, List.mem_map]
    constructor
    · rintro ⟨_, ⟨e, he, rfl⟩, rfl⟩
      split
      · exact .inr rfl
      · exact .inl ⟨e, he, rfl⟩
    · rintro (⟨e, he, rfl⟩ | rfl)
      · refine ⟨_, ⟨e, he, rfl⟩, ?_⟩
        split
        · rename_i h
          exact (beq_iff_eq.mp h).symm
        · rfl
      · exact ⟨_, ⟨e₀, he₀, rfl⟩, by rw [if_pos hkey]⟩
  · rw [Ledger.owes_append, Ledger.owes_singleton]

theorem Ledger.owes_filter {l : Ledger} (keep : String → Bool) {i : String} :
    Ledger.owes (l.filter fun e => keep e.1) i ↔ l.owes i ∧ keep i = true := by
  simp [Ledger.owes, List.mem_filter]

theorem Ledger.owes_setDefaults {l l' : Ledger} {i : String} :
    (l.setDefaults l').owes i ↔ l.owes i ∨ l'.owes i := by
  induction l' generalizing l with
  | nil => simp [Ledger.setDefaults, Ledger.owes]
  | cons e rest ih =>
    have hcons : Ledger.owes (e :: rest) i ↔ i = e.1 ∨ Ledger.owes rest i :=
      (Ledger.owes_append (l := [e])).trans (or_congr_left Ledger.owes_singleton)
    rw [Ledger.setDefaults, ih, hcons]
    split
    · rename_i howes
      constructor
      · exact fun h => h.imp_right .inr
      · rintro (h | rfl | h)
        · exact .inl h
        · exact .inl howes
        · exact .inr h
    · rw [Ledger.owes_append, Ledger.owes_singleton, or_assoc]

/-- **The two ledgers agree**: the same instances owe a report. -/
def Same (m : Memory) (n : Node) : Prop := ∀ i, m.unconfirmed.owes i ↔ n.owed i

theorem Same.steady {m m' : Memory} {n n' : Node} (h : Same m n)
    (hm : m'.unconfirmed = m.unconfirmed) (hn : n.Steady n') : Same m' n' := by
  intro i
  rw [hm, hn.owed]
  exact h i

end Greffer.CertRenewal

import Greffer.CertRenewal.Footprints
import Greffer.CertRenewal.Manager

/-! # The debt of a mint

The invariant of the durable ledger (`Node.Sound`) holds wherever a pass may be stopped,
because between two operations on the ledger the one in memory and the one on disk have
the same entries (`Same`, and `Keeps` for a piece of the worker that preserves it), and a
debt is dropped only when nothing of it is unsettled.  That is so after an answered
report that settled it, after a mint that was refused while the instance owed nothing
before (`Filed`), and, at the end of a pass, for an instance that has left the node.

`mint_debt_durable` is the law over sequences of passes, with a death at any point;
`committed_mint_forgotten` is what happens when a refusal is not one.
-/
namespace Greffer.CertRenewal
open Effects

/-! ## The text of a pass -/

section Text
variable {m₀ : Memory} {S : String → Prop} {m : Memory} {n : Node} {α β : Type}

/-- The node and its manager, in a pass that started with the memory `m₀`. -/
abbrev settling (m₀ : Memory) : Machine (Raises Answer RenewalError) Node :=
  manager.restrict (Definitive m₀)

/-- The invariant of a pass that mints for the instances `S` only. -/
def Inv (S : String → Prop) (n : Node) : Prop := n.Sound ∧ ∀ i, n.unsettled i → S i

/-- The routine keeps the invariant throughout, and leaves the two ledgers the same. -/
def Keeps (m₀ : Memory) (S : String → Prop) (f : Steps α) : Prop :=
  ∀ m n, Inv S n → Same m n → f.Always (settling m₀) (Inv S) (fun _ m n => Same m n) m n

theorem Inv.neutral {n' : Node} {c : RenewalCall} {r : Raises Answer RenewalError c}
    (hn : Inv S n) (hc : Neutral c) (hs : Serves n c r n') : Inv S n' := by
  refine ⟨hs.sound hn.1 (fun i _ _ ho => ((hs.steady hc).owed i).mpr ho) ?_, fun i hi =>
    hn.2 i ((hs.steady hc).unsettled i hi)⟩
  rintro i rfl
  exact hc.elim

/-- **Neutral queries** leave the node steady. -/
theorem steady_of_uses {q : Query α} (hq : q.Uses Neutral) (hn : Inv S n) :
    q.Always (settling m₀) (Inv S) (fun _ n' => n.Steady n') n := by
  have hboth : q.Always (settling m₀) (fun n' => Inv S n' ∧ n.Steady n')
      (fun _ n' => Inv S n' ∧ n.Steady n') n := by
    refine hq.always ?_ ⟨hn, .refl n⟩
    rintro n₁ c r n₂ hc ⟨hinv, hsteady⟩ ⟨hs, -⟩
    exact ⟨hinv.neutral hc hs, hsteady.trans (hs.steady hc)⟩
  exact hboth.imp (fun _ h => h.1) fun _ _ _ h => h.2

theorem steady_call (c : RenewalCall) (hc : Neutral c) (hn : Inv S n) :
    (call c).Always (settling m₀) (Inv S) (fun _ n' => n.Steady n') n :=
  steady_of_uses (Action.uses_perform hc) hn

theorem Probes.neutral {c : RenewalCall} (h : Probes c) : Neutral c := by
  cases c <;> trivial

/-- A neutral query before more code. -/
theorem neutral_bind {q : Query α} {f : α → Steps β}
    {Q : Except RenewalError β → Memory → Node → Prop} (hq : q.Uses Neutral) (hn : Inv S n)
    (herror : ∀ e n', Inv S n' → n.Steady n' → Q (.error e) m n')
    (hf : ∀ a n', Inv S n' → n.Steady n' → (f a).Always (settling m₀) (Inv S) Q m n') :
    ((monadLift q : Steps α) >>= f).Always (settling m₀) (Inv S) Q m n := by
  rw [Routine.always_bind, Routine.always_monadLift]
  refine (steady_of_uses hq hn).mono ?_
  rintro (e | a) n' hinv hsteady
  · exact herror e n' hinv hsteady
  · exact hf a n' hinv hsteady

/-- A query that only probes, before more code. -/
theorem probe_bind {q : Query α} {f : α → Steps β}
    {Q : Except RenewalError β → Memory → Node → Prop} (hq : q.Uses Probes) (hn : Inv S n)
    (herror : ∀ e n', Inv S n' → n.Steady n' → Q (.error e) m n')
    (hf : ∀ a n', Inv S n' → n.Steady n' → (f a).Always (settling m₀) (Inv S) Q m n') :
    ((monadLift q : Steps α) >>= f).Always (settling m₀) (Inv S) Q m n :=
  neutral_bind (hq.mono fun _ => Probes.neutral) hn herror hf

theorem keeps_pure (a : α) : Keeps m₀ S (pure a : Steps α) := fun _ _ hn hs => ⟨hn, hs⟩

theorem keeps_raise (e : RenewalError) : Keeps m₀ S (Routine.raise e : Steps α) :=
  fun _ _ hn hs => ⟨hn, hs⟩

/-- Assignments that leave the ledger in memory alone. -/
theorem keeps_assign {f : Memory → Memory} (h : ∀ m, (f m).unconfirmed = m.unconfirmed) :
    Keeps m₀ S (Routine.assign f) := fun m n hn hs => ⟨hn, hs.steady (h m) (.refl n)⟩

theorem keeps_locals : Keeps m₀ S Routine.locals := fun _ _ hn hs => ⟨hn, hs⟩

theorem keeps_query {q : Query α} (hq : q.Uses Neutral) : Keeps m₀ S (monadLift q : Steps α) := by
  intro m n hn hs
  rw [Routine.always_monadLift]
  exact (steady_of_uses hq hn).mono fun _ _ _ h => hs.steady rfl h

theorem keeps_probe {q : Query α} (hq : q.Uses Probes) : Keeps m₀ S (monadLift q : Steps α) :=
  keeps_query (hq.mono fun _ => Probes.neutral)

theorem keeps_call (c : RenewalCall) (hc : Neutral c) :
    Keeps m₀ S (monadLift (call c) : Steps (Answer c)) := keeps_query (Action.uses_perform hc)

theorem Keeps.bind {f : Steps α} {g : α → Steps β} (hf : Keeps m₀ S f)
    (hg : ∀ a, Keeps m₀ S (g a)) : Keeps m₀ S (f >>= g) := by
  intro m n hn hs
  rw [Routine.always_bind]
  refine (hf m n hn hs).mono ?_
  rintro (e | a) m' n' hn' hs'
  · exact hs'
  · exact hg a m' n' hn' hs'

theorem Keeps.tryExcept {f : Steps α} {h : RenewalError → Steps α} (hf : Keeps m₀ S f)
    (hh : ∀ e, Keeps m₀ S (h e)) : Keeps m₀ S (f.tryExcept h) := by
  intro m n hn hs
  rw [Routine.always_tryExcept]
  refine (hf m n hn hs).mono ?_
  rintro (e | a) m' n' hn' hs'
  · exact hh e m' n' hn' hs'
  · exact hs'

theorem Keeps.tryFinally {f : Steps α} {g : Steps Unit} (hf : Keeps m₀ S f)
    (hg : Keeps m₀ S g) : Keeps m₀ S (f.tryFinally g) := by
  intro m n hn hs
  rw [Routine.always_tryFinally]
  refine (hf m n hn hs).mono fun r m' n' hn' hs' => (hg m' n' hn' hs').mono ?_
  rintro (e | ⟨⟩) m'' n'' - hs'' <;> exact hs''

theorem Keeps.ite {c : Prop} [Decidable c] {f g : Steps α} (hf : c → Keeps m₀ S f)
    (hg : ¬ c → Keeps m₀ S g) : Keeps m₀ S (if c then f else g) := by
  by_cases hc : c
  · rw [if_pos hc]
    exact hf hc
  · rw [if_neg hc]
    exact hg hc

/-! ### The ledger's operations -/

theorem owes_always {M : Machine (Raises Answer RenewalError) Node} {I : Node → Prop}
    {greffonId : String} {Q : Except RenewalError Bool → Memory → Node → Prop} :
    (owes greffonId).Always M I Q m n ↔
      I n ∧ Q (.ok (decide (m.unconfirmed.owes greffonId))) m n := Iff.rfl

/-- **The save**: the ledger in memory is on disk, if it has what is unsettled. -/
theorem saveUnconfirmed_always (hn : Inv S n)
    (hcover : ∀ i, n.unsettled i → m.unconfirmed.owes i) :
    saveUnconfirmed.Always (settling m₀) (Inv S)
      (fun _ m' n' => m' = m ∧ n'.ledger = some m.unconfirmed ∧ n'.lockedWith = n.lockedWith ∧
        ∀ i, n'.unsettled i → n.unsettled i) m n := by
  unfold saveUnconfirmed
  rw [Routine.always_bind, Routine.always_locals]
  refine ⟨hn, ?_⟩
  rw [Routine.onOk_ok, Routine.always_monadLift, Action.always_tryExcept, Action.always_bind]
  refine ⟨hn, ?_⟩
  rintro r n₁ ⟨hs₁, -⟩
  obtain ⟨rfl, hledger₁, htmp₁⟩ := hs₁.files
  have hun₁ (i : String) (hi : n₁.unsettled i) : n.unsettled i :=
    hs₁.unsettled_of (fun h => by cases h) hi
  have hinv₁ : Inv S n₁ := by
    refine ⟨hs₁.sound hn.1 (fun i _ _ ho => ?_) (fun i h => by cases h), fun i hi => hn.2 i (hun₁ i hi)⟩
    rw [Node.owed, hledger₁]
    exact ho
  refine ⟨hinv₁, hinv₁, ?_⟩
  rintro r n₂ ⟨hs₂, -⟩
  obtain ⟨rfl, hledger₂⟩ := hs₂.files
  rw [htmp₁] at hledger₂
  have hun₂ (i : String) (hi : n₂.unsettled i) : n.unsettled i :=
    hun₁ i (hs₂.unsettled_of (fun h => by cases h) hi)
  refine ⟨⟨hs₂.sound hinv₁.1 (fun i hi _ _ => ?_) (fun i h => by cases h), fun i hi => hn.2 i (hun₂ i hi)⟩,
    rfl, hledger₂, hs₂.locking.trans hs₁.locking, hun₂⟩
  rw [Node.owed, hledger₂]
  exact hcover i (hun₁ i hi)

/-- What an operation on the ledger leaves: the two ledgers the same, and nothing
newly unsettled. -/
structure Settled (m : Memory) (n₀ n : Node) : Prop where
  same : Same m n
  locked : n.lockedWith = n₀.lockedWith
  unsettled : ∀ i, n.unsettled i → n₀.unsettled i

theorem Same.of_saved {n' : Node} (h : n'.ledger = some m.unconfirmed) : Same m n' := by
  intro i
  rw [Node.owed, h]
  rfl

/-- **Filing a debt.** -/
theorem fileDebt_always {greffonId : String} {serial : Option String} (hn : Inv S n)
    (hs : Same m n) : (fileDebt greffonId serial).Always (settling m₀) (Inv S)
      (fun _ m' n' => Settled m' n n' ∧ n'.owed greffonId) m n := by
  have howes (i : String) : (m.file greffonId (serial.getD "")).unconfirmed.owes i ↔
      m.unconfirmed.owes i ∨ i = greffonId := Ledger.owes_upsert
  unfold fileDebt
  rw [Routine.always_bind, Routine.always_assign]
  refine ⟨hn, ?_⟩
  rw [Routine.onOk_ok]
  refine (saveUnconfirmed_always hn fun i hi => ?_).mono ?_
  · exact (howes i).mpr (.inl ((hs i).mpr (hn.1.owed i hi)))
  · rintro r m' n' - ⟨rfl, hledger, hlocked, hunsettled⟩
    refine ⟨⟨.of_saved hledger, hlocked, hunsettled⟩, ?_⟩
    exact (Same.of_saved hledger greffonId).mp ((howes greffonId).mpr (.inr rfl))

/-- **Clearing a debt**, of an instance of which nothing is unsettled. -/
theorem clearDebt_always {greffonId : String} (hn : Inv S n) (hs : Same m n)
    (hsettled : ¬ n.unsettled greffonId) :
    (clearDebt greffonId).Always (settling m₀) (Inv S) (fun _ m' n' => Same m' n') m n := by
  have howes (i : String) : (m.drop greffonId).unconfirmed.owes i ↔
      m.unconfirmed.owes i ∧ (i != greffonId) = true :=
    Ledger.owes_filter fun i => i != greffonId
  unfold clearDebt
  rw [Routine.always_bind, owes_always]
  refine ⟨hn, ?_⟩
  rw [Routine.onOk_ok]
  split
  · rw [Routine.always_bind, Routine.always_assign]
    refine ⟨hn, ?_⟩
    rw [Routine.onOk_ok]
    refine (saveUnconfirmed_always hn fun i hi => (howes i).mpr ⟨?_, ?_⟩).mono ?_
    · exact (hs i).mpr (hn.1.owed i hi)
    · exact bne_iff_ne.mpr fun h => hsettled (h ▸ hi)
    · rintro r m' n' - ⟨rfl, hledger, -, -⟩
      exact .of_saved hledger
  · exact ⟨hn, hs⟩

theorem keeps_noteFailure (settings : Settings) (greffonId : String) :
    Keeps m₀ S (noteFailure settings greffonId) :=
  keeps_locals.bind fun _ => (keeps_call .monotonic trivial).bind fun _ =>
    keeps_assign fun _ => rfl

theorem keeps_clearBackoff (greffonId : String) : Keeps m₀ S (clearBackoff greffonId) :=
  keeps_assign fun _ => rfl

/-! ### The report -/

/-- **One attempt of the report**: an answer read as final settles the instance. -/
theorem postReport_always {greffonId : String} {served : Option String} (hn : Inv S n) :
    (postReport greffonId served).Always (settling m₀) (Inv S)
      (fun r n' => n.Steady n' ∧ ∀ res, r = .ok res → reportVerdict res = .settled →
        ¬ n'.unsettled greffonId) n := by
  unfold postReport
  rw [Action.always_tryExcept, Action.always_bind]
  refine ⟨hn, ?_⟩
  have hneutral : Neutral (.postReport greffonId served) := trivial
  rintro (e | res) n' ⟨hs, hdef⟩
  · have hinv : Inv S n' := hn.neutral hneutral hs
    refine ⟨hinv, ?_⟩
    dsimp only [onOk]
    split
    · exact ⟨hinv, hs.steady hneutral, fun res h hv => by cases h; cases hv⟩
    · exact ⟨hinv, hs.steady hneutral, fun res h => by cases h⟩
  · have hinv : Inv S n' := hn.neutral hneutral hs
    refine ⟨hinv, hinv, hs.steady hneutral, ?_⟩
    rintro res' h hv
    cases h
    exact hs.settles (hdef hv)

theorem keeps_reportAttempt (greffonId : String) (served : Option String) (left : Nat) :
    Keeps m₀ S (reportAttempt greffonId served left) := by
  induction left with
  | zero => exact keeps_pure ()
  | succ left ih =>
    intro m n hn hs
    unfold reportAttempt
    rw [Routine.always_bind, Routine.always_monadLift]
    refine (postReport_always hn).mono ?_
    rintro (e | res) n' hinv ⟨hsteady, hsettles⟩
    · exact hs.steady rfl hsteady
    · rw [Routine.onOk_ok]
      have hs' : Same m n' := hs.steady rfl hsteady
      cases hv : reportVerdict res with
      | settled => exact clearDebt_always hinv hs' (hsettles res rfl hv)
      | kept => exact ⟨hinv, hs'⟩
      | retry =>
        dsimp only
        split
        · exact ⟨hinv, hs'⟩
        · exact (keeps_call .sleep trivial).bind (fun _ => ih) m n' hinv hs'

/-- **The report keeps the invariant**, whatever the manager answers. -/
theorem keeps_report (greffonId : String) (served : Option String) :
    Keeps m₀ S (report greffonId served) := by
  intro m n hn hs
  unfold report
  rw [Routine.always_bind]
  refine (fileDebt_always hn hs).mono ?_
  rintro (e | ⟨⟩) m' n' hinv ⟨hsettled, -⟩
  · exact hsettled.same
  · exact keeps_reportAttempt greffonId served reportAttempts m' n' hinv hsettled.same

/-! ### The mint -/

/-- The outcomes of `_mint` on which the worker drops the debt it filed for it. -/
def refusal : Except RenewalError PyValue → Prop
  | .ok body => body = .none
  | .error e => e = .renewalUnavailable ∨ e = .nodeRateLimited ∨ e = .nodeAuthLost

/-- **What `_mint` reads as a refusal is one.** -/
theorem mintReply_always {settings : Settings} {greffonId : String} {res : HttpReply}
    (hn : Inv S n) : (mintReply settings greffonId res).Always (settling m₀) (Inv S)
      (fun r m' n' => m'.unconfirmed = m.unconfirmed ∧ n.Steady n' ∧ (refusal r → res.refused))
      m n := by
  have hfailed (h : res.refused) : (do
      noteFailure settings greffonId
      return .none : Steps PyValue).Always (settling m₀) (Inv S)
        (fun r m' n' => m'.unconfirmed = m.unconfirmed ∧ n.Steady n' ∧ (refusal r → res.refused))
        m n := by
    unfold noteFailure
    rw [Routine.always_bind, Routine.always_bind, Routine.always_locals]
    refine ⟨hn, ?_⟩
    rw [Routine.onOk_ok]
    refine neutral_bind (Action.uses_perform trivial) hn (fun e n' _ hs => ⟨rfl, hs, fun _ => h⟩) ?_
    exact fun now n' hn' hs => ⟨hn', hn', rfl, hs, fun _ => h⟩
  have hstay {r : Except RenewalError PyValue} (h : refusal r → res.refused) :
      Inv S n ∧ m.unconfirmed = m.unconfirmed ∧ n.Steady n ∧ (refusal r → res.refused) :=
    ⟨hn, rfl, .refl n, h⟩
  have hne {code : Int} (hcode : res.statusCode = code) (h200 : code ≠ 200) : res.refused :=
    .inl fun h => h200 (hcode.symm.trans h)
  unfold mintReply
  split
  · rename_i h404
    split <;> exact hstay fun _ => hne h404 (by decide)
  · split
    · rename_i h429
      split
      · exact hstay fun _ => hne h429 (by decide)
      · exact hfailed (hne h429 (by decide))
    · split
      · rename_i hauth
        refine hstay fun _ => ?_
        rcases hauth with h | h
        · exact hne h (by decide)
        · exact hne h (by decide)
      · split
        · rename_i h200
          exact hfailed (.inl h200)
        · cases hjson : res.json with
          | none =>
            refine hstay ?_
            rintro (h | h | h) <;> cases h
          | some body => exact hstay fun h => .inr (hjson.trans (congrArg some h))

/-- **The mint**, asked for with the debt already on disk. -/
theorem mint_always {settings : Settings} {greffonId : String} {owedBefore : Bool}
    (hn : Inv S n) (hs : Same m n) (hS : S greffonId) (howed : n.owed greffonId)
    (hfree : owedBefore = false → ¬ n.lockedWith.owes greffonId ∧ ¬ n.unsettled greffonId) :
    (mint settings greffonId).Always (settling m₀) (Inv S)
      (fun r m' n' => Same m' n' ∧ (refusal r → owedBefore = false → ¬ n'.unsettled greffonId))
      m n := by
  unfold mint
  rw [Routine.always_bind, Routine.always_monadLift]
  refine ⟨hn, ?_⟩
  rintro r n₁ ⟨hserve, hdef⟩
  have hledger : n₁.ledger = n.ledger := hserve.files.1
  have howed₁ (i : String) : n₁.owed i ↔ n.owed i := by
    unfold Node.owed
    rw [hledger]
  have hs₁ : Same m n₁ := fun i => (hs i).trans (howed₁ i).symm
  have hinv : Inv S n₁ := by
    refine ⟨hserve.sound hn.1 (fun i _ _ ho => (howed₁ i).mpr ho) ?_, fun i hi => ?_⟩
    · rintro i h
      cases h
      exact (howed₁ _).mpr howed
    · obtain ⟨-, ⟨hold, -⟩ | ⟨hmint, -⟩⟩ := (hserve.unsettled i).mp hi
      · exact hn.2 i hold
      · cases hmint
        exact hS
  cases r with
  | error e =>
    obtain ⟨x, rfl⟩ := hserve.raises e rfl
    refine ⟨hinv, hs₁, ?_⟩
    rintro (h | h | h) <;> cases h
  | ok res =>
    refine ⟨hinv, ?_⟩
    dsimp only [Routine.onOk]
    refine (mintReply_always hinv).mono ?_
    rintro r m' n' - ⟨hm, hsteady, hrefused⟩
    refine ⟨hs₁.steady hm hsteady, fun hr hbefore hi => ?_⟩
    obtain ⟨hlocked, hnot⟩ := hfree hbefore
    obtain ⟨-, ⟨hold, -⟩ | ⟨-, hpending⟩⟩ :=
      (hserve.unsettled greffonId).mp (hsteady.unsettled greffonId hi)
    · exact hnot hold
    · exact hlocked (hdef (hrefused hr) hpending)

theorem dropSpeculative_always {greffonId : String} {owedBefore : Bool} (hn : Inv S n)
    (hs : Same m n) (hfree : owedBefore = false → ¬ n.unsettled greffonId) :
    (dropSpeculative greffonId owedBefore).Always (settling m₀) (Inv S)
      (fun _ m' n' => Same m' n') m n := by
  unfold dropSpeculative
  cases owedBefore with
  | true => exact ⟨hn, hs⟩
  | false => exact clearDebt_always hn hs (hfree rfl)

theorem mintOwed_always {settings : Settings} {greffonId : String} {owedBefore : Bool}
    (hn : Inv S n) (hs : Same m n) (hS : S greffonId) (howed : n.owed greffonId)
    (hfree : owedBefore = false → ¬ n.lockedWith.owes greffonId ∧ ¬ n.unsettled greffonId) :
    (mintOwed settings greffonId owedBefore).Always (settling m₀) (Inv S)
      (fun r m' n' => Same m' n' ∧
        (r = .ok .none → owedBefore = false → ¬ n'.unsettled greffonId)) m n := by
  unfold mintOwed
  rw [Routine.always_tryExcept]
  refine (mint_always hn hs hS howed hfree).mono ?_
  rintro (e | body) m' n' hinv ⟨hs', hrefused⟩
  · dsimp only
    split
    · rename_i he
      rw [Routine.always_bind]
      refine (dropSpeculative_always hinv hs' (hrefused he)).mono ?_
      rintro (e' | ⟨⟩) m'' n'' hinv'' hs''
      · exact ⟨hs'', fun h => by cases h⟩
      · exact ⟨hinv'', hs'', fun h => by cases h⟩
    · exact ⟨hinv, hs', fun h => by cases h⟩
  · exact ⟨hs', fun h => hrefused (by cases h; rfl)⟩

/-! ### The renewal -/

theorem keeps_verify (settings : Settings) (greffonId : String) (port : Int) (wanted : PyValue) :
    Keeps m₀ S (verify settings greffonId port wanted) := by
  refine (keeps_probe (servedAfterReload_uses _ _ _ _)).bind fun reloaded =>
    (keeps_probe (escalate_uses _ _ _ _ _)).bind fun served =>
      (keeps_report greffonId served).bind fun _ =>
        (keeps_probe (Action.uses_ofExcept _)).bind fun same => Keeps.ite (fun _ => ?_) fun _ => ?_
  · exact (keeps_clearBackoff greffonId).bind fun _ => keeps_pure _
  · exact (keeps_noteFailure settings greffonId).bind fun _ => keeps_pure _

theorem keeps_installAndVerify (settings : Settings) (greffonId : String) (port : Int)
    (beforeSerial : Option String) (cert : PyValue) :
    Keeps m₀ S (installAndVerify settings greffonId port beforeSerial cert) := by
  refine (keeps_probe (Action.uses_ofExcept _)).bind fun wanted => ?_
  refine (Keeps.tryExcept ((keeps_probe (install_uses greffonId _)).bind fun _ => keeps_pure true)
    fun _ => keeps_pure false).bind fun installed => Keeps.ite (fun _ => ?_) fun _ => ?_
  · exact keeps_verify settings greffonId port wanted
  · exact (keeps_report greffonId beforeSerial).bind fun _ =>
      (keeps_noteFailure settings greffonId).bind fun _ => keeps_pure _

/-- The instance's lock is held, and the ledger is as it was when it was taken. -/
def Locked (m : Memory) (n : Node) : Prop :=
  Same m n ∧ ∀ i, n.lockedWith.owes i ↔ m.unconfirmed.owes i

theorem Locked.steady {m' : Memory} {n' : Node} (h : Locked m n)
    (hm : m'.unconfirmed = m.unconfirmed) (hn : n.Steady n') : Locked m' n' := by
  refine ⟨h.1.steady hm hn, fun i => ?_⟩
  rw [hn.locked, hm]
  exact h.2 i

/-- What the mint starts from: the debt is on disk, and it is one filed for this mint only
if the instance owed nothing when its lock was taken. -/
structure Filed (greffonId : String) (owedBefore : Bool) (m : Memory) (n : Node) : Prop where
  same : Same m n
  owed : n.owed greffonId
  free : owedBefore = false → ¬ n.lockedWith.owes greffonId ∧ ¬ n.unsettled greffonId

theorem fileSpeculative_always {greffonId : String} {serial : Option String} (hn : Inv S n)
    (hl : Locked m n) :
    (renewDue.fileSpeculative greffonId (decide (m.unconfirmed.owes greffonId)) serial).Always
      (settling m₀) (Inv S)
      (fun _ m' n' => Filed greffonId (decide (m.unconfirmed.owes greffonId)) m' n') m n := by
  unfold renewDue.fileSpeculative
  by_cases howes : m.unconfirmed.owes greffonId
  · rw [if_pos (decide_eq_true howes)]
    refine ⟨hn, hl.1, (hl.1 greffonId).mp howes, fun h => ?_⟩
    exact absurd howes (of_decide_eq_false h)
  · rw [if_neg (by simpa using howes)]
    refine (fileDebt_always hn hl.1).mono ?_
    rintro r m' n' - ⟨hsettled, howed⟩
    refine ⟨hsettled.same, howed, fun _ => ⟨?_, fun hi => ?_⟩⟩
    · rw [hsettled.locked, hl.2]
      exact howes
    · exact howes ((hl.1 greffonId).mpr (hn.1.owed greffonId (hsettled.unsettled greffonId hi)))

/-- **The renewal of a due instance keeps the invariant.** -/
theorem renewDue_always {settings : Settings} {greffonId : String} {port : Int}
    {beforeSerial : Option String} (hn : Inv S n) (hl : Locked m n) (hS : S greffonId) :
    (renewDue settings greffonId port beforeSerial).Always (settling m₀) (Inv S)
      (fun _ m' n' => Same m' n') m n := by
  unfold renewDue
  rw [Routine.always_bind, owes_always]
  refine ⟨hn, ?_⟩
  rw [Routine.onOk_ok, Routine.always_bind]
  refine (fileSpeculative_always hn hl).mono ?_
  rintro (e | ⟨⟩) m₁ n₁ hinv₁ hfiled
  · exact hfiled.same
  rw [Routine.onOk_ok, Routine.always_bind]
  refine (mintOwed_always hinv₁ hfiled.same hS hfiled.owed hfiled.free).mono ?_
  rintro (e | cert) m₂ n₂ hinv₂ ⟨hsame, hfree⟩
  · exact hsame
  rw [Routine.onOk_ok]
  split
  · rw [Routine.always_bind]
    refine (dropSpeculative_always hinv₂ hsame (hfree rfl)).mono ?_
    rintro (e | ⟨⟩) m₃ n₃ hinv₃ hsame₃
    · exact hsame₃
    · exact ⟨hinv₃, hsame₃⟩
  · exact keeps_installAndVerify settings greffonId port beforeSerial cert m₂ n₂ hinv₂ hsame

theorem renewProbed_always {settings : Settings} {greffonId : String} {port : Int} {force : Bool}
    (hn : Inv S n) (hl : Locked m n) (hS : S greffonId) :
    (renewProbed settings greffonId port force).Always (settling m₀) (Inv S)
      (fun _ m' n' => Same m' n') m n := by
  unfold renewProbed
  refine probe_bind (servedCertificate_uses _ _) hn (fun e n' _ hs => hl.1.steady rfl hs) ?_
  intro before n₁ hinv₁ hs₁
  rw [Routine.always_bind, Routine.always_assign]
  refine ⟨hinv₁, ?_⟩
  rw [Routine.onOk_ok]
  have hl₁ : Locked { m with blindStreak := if before.1.isNone then m.blindStreak + 1 else 0 } n₁ :=
    hl.steady rfl hs₁
  refine probe_bind (wantsRenewal_uses _ _ _) hinv₁ (fun e n' _ hs => hl₁.1.steady rfl hs) ?_
  intro due n₂ hinv₂ hs₂
  split
  · exact renewDue_always hinv₂ (hl₁.steady rfl hs₂) hS
  · exact ((keeps_clearBackoff greffonId).bind fun _ => keeps_pure _) _ _ hinv₂
      (hl₁.1.steady rfl hs₂)

theorem renewAt_always {settings : Settings} {greffonId : String} {port : Int} {force : Bool}
    (hn : Inv S n) (hl : Locked m n) (hS : S greffonId) :
    (renewAt settings greffonId port force).Always (settling m₀) (Inv S)
      (fun _ m' n' => Same m' n') m n := by
  unfold renewAt
  refine neutral_bind (Action.uses_perform trivial) hn (fun e n' _ hs => hl.1.steady rfl hs) ?_
  intro inflight n₁ hinv₁ hs₁
  have hl₁ := hl.steady rfl hs₁
  split
  · exact ⟨hinv₁, hl₁.1⟩
  refine probe_bind (sidecarSettling_uses _) hinv₁ (fun e n' _ hs => hl₁.1.steady rfl hs) ?_
  intro settlingNow n₂ hinv₂ hs₂
  have hl₂ := hl₁.steady rfl hs₂
  split
  · exact ⟨hinv₂, hl₂.1⟩
  · exact renewProbed_always hinv₂ hl₂ hS

theorem inBackoff_always {greffonId : String} (hn : Inv S n) :
    (inBackoff greffonId).Always (settling m₀) (Inv S) (fun _ m' n' => m' = m ∧ n.Steady n')
      m n := by
  unfold inBackoff
  rw [Routine.always_bind, Routine.always_locals]
  refine ⟨hn, ?_⟩
  rw [Routine.onOk_ok]
  split
  · exact ⟨hn, rfl, .refl n⟩
  · refine neutral_bind (Action.uses_perform trivial) hn (fun e n' _ hs => ⟨rfl, hs⟩) ?_
    exact fun now n' hn' hs => ⟨hn', rfl, hs⟩

theorem renewLocked_always {settings : Settings} {greffonId : String} {force : Bool}
    (hn : Inv S n) (hl : Locked m n) (hS : S greffonId) :
    (renewLocked settings greffonId force).Always (settling m₀) (Inv S)
      (fun _ m' n' => Same m' n') m n := by
  unfold renewLocked
  rw [Routine.always_bind]
  refine (inBackoff_always hn).mono ?_
  rintro (e | backoff) m₁ n₁ hinv₁ ⟨rfl, hs₁⟩
  · exact hl.1.steady rfl hs₁
  rw [Routine.onOk_ok]
  have hl₁ := hl.steady rfl hs₁
  split
  · exact ⟨hinv₁, hl₁.1⟩
  refine probe_bind (sidecarHostPort_uses _) hinv₁ (fun e n' _ hs => hl₁.1.steady rfl hs) ?_
  intro port n₂ hinv₂ hs₂
  have hl₂ := hl₁.steady rfl hs₂
  split
  · exact ⟨hinv₂, hl₂.1⟩
  · exact renewAt_always hinv₂ hl₂ hS

/-! ### One instance -/

/-- Taking the lock, or finding it taken. -/
theorem acquire_always {greffonId : String} (hn : Inv S n) (hs : Same m n) :
    (call (.acquireUnlessHandoff greffonId)).Always (settling m₀) (Inv S)
      (fun r n' => Same m n' ∧ (r = .ok none → Locked m n')) n := by
  refine ⟨hn, ?_⟩
  rintro r n' ⟨hserve, -⟩
  have hledger : n'.ledger = n.ledger := hserve.files.1
  have hsame : Same m n' := by
    intro i
    rw [Node.owed, hledger]
    exact hs i
  refine ⟨⟨hserve.sound hn.1 (fun i _ _ ho => ?_) (fun i h => by cases h), fun i hi => ?_⟩, hsame, ?_⟩
  · rw [Node.owed, hledger]
    exact ho
  · exact hn.2 i (hserve.unsettled_of (fun h => by cases h) hi)
  · rintro rfl
    refine ⟨hsame, fun i => ?_⟩
    rw [show n'.lockedWith = n.ledger.getD [] from hserve.locking]
    exact (hs i).symm

theorem keeps_probeDebt (settings : Settings) (greffonId : String) :
    Keeps m₀ S (probeDebt settings greffonId) := by
  refine (keeps_call (.composeInflight greffonId) trivial).bind fun inflight =>
    Keeps.ite (fun _ => keeps_pure _) fun _ => ?_
  refine (keeps_probe (sidecarSettling_uses greffonId)).bind fun settlingNow =>
    Keeps.ite (fun _ => keeps_pure _) fun _ => ?_
  intro m n hn hs
  rw [Routine.always_bind, Routine.always_monadLift]
  refine (acquire_always hn hs).mono ?_
  rintro (e | refusal) n' hn' ⟨hs', -⟩
  · exact hs'
  dsimp only [Routine.onOk]
  cases refusal with
  | some _ => exact ⟨hn', hs'⟩
  | none =>
    exact (Keeps.tryFinally (keeps_probe (probeLocked_uses greffonId settings))
      (keeps_call (.releaseLock greffonId) trivial)) m n' hn' hs'

theorem keeps_owes (greffonId : String) : Keeps m₀ S (owes greffonId) :=
  fun _ _ hn hs => ⟨hn, hs⟩

theorem keeps_settleDebt (settings : Settings) (greffonId : String) :
    Keeps m₀ S (settleDebt settings greffonId) := by
  refine (keeps_owes greffonId).bind fun owing => Keeps.ite (fun _ => ?_) fun _ => keeps_pure ()
  refine (keeps_probeDebt settings greffonId).bind fun probed => ?_
  cases probed with
  | none => exact keeps_pure ()
  | some served => exact keeps_report greffonId served

/-- **The pass of one instance keeps the invariant.** -/
theorem keeps_renewOne (settings : Settings) {greffonId : String} (force : Bool)
    (hS : S greffonId) : Keeps m₀ S (renewOne settings greffonId force) := by
  refine (keeps_settleDebt settings greffonId).bind fun _ => ?_
  intro m n hn hs
  rw [Routine.always_bind, Routine.always_monadLift]
  refine (acquire_always hn hs).mono ?_
  rintro (e | refusal) n' hn' ⟨hs', hlocked⟩
  · exact hs'
  dsimp only [Routine.onOk]
  cases refusal with
  | some _ => exact ⟨hn', hs'⟩
  | none =>
    rw [Routine.always_tryFinally]
    refine (renewLocked_always hn' (hlocked rfl) hS).mono fun r m₁ n₁ hn₁ hs₁ => ?_
    refine (keeps_call (.releaseLock greffonId) trivial m₁ n₁ hn₁ hs₁).mono ?_
    rintro (e | ⟨⟩) m₂ n₂ - hs₂ <;> exact hs₂

/-! ### One pass -/

theorem keeps_attempt (settings : Settings) (only : Option String) (force : Bool) (t : Tally)
    {greffonId : String} (hS : S greffonId) :
    Keeps m₀ S (attempt settings only force t greffonId) := by
  refine Keeps.tryExcept ((keeps_renewOne settings force hS).bind fun _ => keeps_pure _) fun e => ?_
  have hcounted : Keeps m₀ S (do
      noteFailure settings greffonId
      return ({ t.select only greffonId .failed with errors := t.errors + 1 }, false) :
        Steps (Tally × Bool)) := (keeps_noteFailure settings greffonId).bind fun _ => keeps_pure _
  cases e <;> first | exact keeps_pure _ | exact hcounted

theorem keeps_attemptAll (settings : Settings) (only : Option String) (force : Bool)
    (statuses : List (String × String)) (hS : ∀ e ∈ statuses, S e.1) (t : Tally) :
    Keeps m₀ S (attemptAll settings only force statuses t) := by
  induction statuses generalizing t with
  | nil => exact keeps_pure t
  | cons e rest ih =>
    obtain ⟨greffonId, status⟩ := e
    have hrest := ih fun e he => hS e (List.mem_cons_of_mem _ he)
    refine Keeps.ite (fun _ => hrest t) fun _ => ?_
    refine (keeps_call .stopRequested trivial).bind fun stop =>
      Keeps.ite (fun _ => keeps_pure t) fun _ => ?_
    refine (keeps_attempt settings only force _ (hS _ List.mem_cons_self)).bind fun r => ?_
    exact keeps_locals.bind fun m => Keeps.ite (fun _ => keeps_pure _) fun _ => hrest _

/-- The instances of a status map. -/
def listed (statuses : List (String × String)) (greffonId : String) : Prop :=
  statuses.any (fun s => s.1 == greffonId) = true

/-- **What the node no longer runs is forgotten**, and nothing of it is unsettled. -/
theorem keeps_dropStale (statuses : List (String × String)) :
    Keeps m₀ (listed statuses) (dropStale statuses) := by
  intro m n hn hs
  unfold dropStale
  rw [Routine.always_bind, Routine.always_assign]
  refine ⟨hn, ?_⟩
  rw [Routine.onOk_ok]
  refine (saveUnconfirmed_always hn fun i hi => ?_).mono ?_
  · exact (Ledger.owes_filter fun i => statuses.any fun s => s.1 == i).mpr
      ⟨(hs i).mpr (hn.1.owed i hi), hn.2 i hi⟩
  · rintro r m' n' - ⟨rfl, hledger, -, -⟩
    exact .of_saved hledger

theorem keeps_renewListed (settings : Settings) (only : Option String) (force : Bool)
    (statuses : List (String × String)) :
    Keeps m₀ (listed statuses) (renewListed settings only force statuses) := by
  have hpass : Keeps m₀ (listed statuses) (renewListed.listed settings only force statuses) := by
    refine (keeps_attemptAll settings only force statuses (fun e he => ?_) {}).bind fun t =>
      (keeps_dropStale statuses).bind fun _ => ?_
    · exact List.any_eq_true.mpr ⟨e, he, beq_self_eq_true e.1⟩
    · exact Keeps.ite (fun _ => keeps_raise _) fun _ =>
        Keeps.ite (fun _ => keeps_raise _) fun _ => keeps_pure _
  unfold renewListed
  cases only with
  | none => exact hpass
  | some greffonId => exact Keeps.ite (fun _ => hpass) fun _ => keeps_raise _

/-- The ledger in memory holds nothing that is not on disk. -/
def Within (m : Memory) (n : Node) : Prop := ∀ i, m.unconfirmed.owes i → n.owed i

/-- **Reading the ledger** makes the two the same. -/
theorem loadUnconfirmed_always (hn : Inv S n) (hw : Within m n) :
    loadUnconfirmed.Always (settling m) (Inv S)
      (fun r m' n' => (∀ x, r = .ok x → Same m' n') ∧ Within m' n') m n := by
  have hneutral : Neutral .readLedger := trivial
  have howes (l : Ledger) (i : String) : (m.unconfirmed.setDefaults l).owes i ↔
      m.unconfirmed.owes i ∨ l.owes i := Ledger.owes_setDefaults
  unfold loadUnconfirmed
  rw [Routine.always_bind, Routine.always_monadLift, Action.always_tryExcept]
  refine ⟨hn, ?_⟩
  rintro (e | stored) n' ⟨hs, hdef⟩
  · have hinv : Inv S n' := hn.neutral hneutral hs
    have hsteady := hs.steady hneutral
    have hsame : Same { m with unconfirmed := m.unconfirmed.setDefaults [] } n' :=
      fun i => ⟨fun h => (hsteady.owed i).mpr (hw i h),
        fun h => (howes [] i).mpr (.inl (hdef i ((hsteady.owed i).mp h)))⟩
    refine ⟨hinv, ?_⟩
    dsimp only
    split
    · exact ⟨hinv, hinv, fun _ _ => hsame, fun i => (hsame i).mp⟩
    · exact ⟨hinv, hinv, fun _ _ => hsame, fun i => (hsame i).mp⟩
    · exact ⟨hinv, fun x h => (by cases h), fun i h => (hsteady.owed i).mpr (hw i h)⟩
  · have hinv : Inv S n' := hn.neutral hneutral hs
    obtain ⟨rfl, hledger, -⟩ := hs.files
    have hsame : Same { m with unconfirmed := m.unconfirmed.setDefaults (n.ledger.getD []) } n' := by
      intro i
      rw [Node.owed, hledger]
      refine (howes _ i).trans ⟨?_, .inr⟩
      rintro (h | h)
      · exact hw i h
      · exact h
    exact ⟨hinv, hinv, fun _ _ => hsame, fun i => (hsame i).mp⟩

/-- The sweep, which lists whatever is unsettled. -/
theorem collect_always (hn : Inv S n) :
    (call .collectStatusMap).Always (settling m₀) (Inv S)
      (fun r n' => n.Steady n' ∧ ∀ statuses, r = .ok statuses → Inv (listed statuses) n') n := by
  have hneutral : Neutral .collectStatusMap := trivial
  refine ⟨hn, ?_⟩
  rintro r n' ⟨hs, -⟩
  have hinv : Inv S n' := hn.neutral hneutral hs
  refine ⟨hinv, hs.steady hneutral, ?_⟩
  rintro statuses rfl
  refine ⟨hinv.1, fun i hi => hs.lists i (hn.1.present i ?_) (hinv.1.present i hi)⟩
  exact (hs.steady hneutral).unsettled i hi

/-- An invariant of a smaller set, for the node alone. -/
theorem Keeps.sound {f : Steps α} (hf : Keeps m₀ S f) (hn : Inv S n) (hs : Same m n) :
    f.Always (settling m₀) Node.Sound (fun _ m n => Same m n) m n :=
  (hf m n hn hs).imp (fun _ h => h.1) fun _ _ _ _ h => h

/-- **A pass keeps the invariant**, from a memory that holds nothing but what is on disk. -/
theorem renewAllLocked_always {settings : Settings} {only : Option String} {force : Bool}
    (hn : n.Sound) (hw : Within m n) :
    (renewAllLocked settings only force).Always (settling m) Node.Sound
      (fun _ m' n' => Within m' n') m n := by
  have hall : Inv (fun _ => True) n := ⟨hn, fun _ _ => trivial⟩
  unfold renewAllLocked
  rw [Routine.always_bind]
  refine (loadUnconfirmed_always hall hw).imp (fun _ h => h.1) ?_
  rintro (e | ⟨⟩) m₁ n₁ hinv₁ ⟨hsame, hw₁⟩
  · exact hw₁
  have hs₁ := hsame () rfl
  rw [Routine.onOk_ok, Routine.always_bind, Routine.always_assign]
  refine ⟨hinv₁.1, ?_⟩
  rw [Routine.onOk_ok, Routine.always_bind]
  have hs₂ : Same { m₁ with blindStreak := 0 } n₁ := hs₁.steady rfl (.refl n₁)
  refine ((keeps_call .stopRequested trivial) _ _ hinv₁ hs₂).imp (fun _ h => h.1) ?_
  rintro (e | stop) m₃ n₃ hinv₃ hs₃
  · exact fun i => (hs₃ i).mp
  rw [Routine.onOk_ok]
  split
  · exact ⟨hinv₃.1, fun i => (hs₃ i).mp⟩
  rw [Routine.always_bind, Routine.always_monadLift]
  refine (collect_always hinv₃).imp (fun _ h => h.1) ?_
  rintro (e | statuses) n₄ - ⟨hsteady, hlisted⟩
  · exact fun i => ((hs₃.steady rfl hsteady) i).mp
  dsimp only [Routine.onOk]
  have hs₄ : Same m₃ n₄ := hs₃.steady rfl hsteady
  refine Routine.Always.mono (Keeps.sound ?_ (hlisted statuses rfl) hs₄) fun r m n _ h i => (h i).mp
  exact (keeps_call .stopRequested trivial).bind fun stop =>
    Keeps.ite (fun _ => keeps_pure _) fun _ => keeps_renewListed settings only force statuses

theorem renewAll_always (settings : Settings) (only : Option String) (force : Bool)
    (hn : n.Sound) (hw : Within m n) :
    (renewAll settings only force).Always (settling m) Node.Sound
      (fun _ m' n' => Within m' n') m n := by
  have hall : Inv (fun _ => True) n := ⟨hn, fun _ _ => trivial⟩
  have hwithin {m' : Memory} {n₁ n₂ : Node} (h : Within m' n₁) (hs : n₁.Steady n₂) : Within m' n₂ :=
    fun i hi => (hs.owed i).mpr (h i hi)
  unfold renewAll
  rw [Routine.always_bind, Routine.always_monadLift]
  refine (steady_call .acquirePassLock trivial hall).imp (fun _ h => h.1) ?_
  rintro (e | acquired) n₁ hinv₁ hs₁
  · exact hwithin hw hs₁
  dsimp only [Routine.onOk]
  split
  · rw [Routine.always_tryFinally]
    refine (renewAllLocked_always hinv₁.1 (hwithin hw hs₁)).mono fun r m₂ n₂ hn₂ hw₂ => ?_
    have hinv₂ : Inv (fun _ => True) n₂ := ⟨hn₂, fun _ _ => trivial⟩
    rw [Routine.always_monadLift]
    refine (steady_call .releasePassLock trivial hinv₂).imp (fun _ h => h.1) ?_
    rintro (e | ⟨⟩) n₃ - hs₃ <;> exact hwithin hw₂ hs₃
  · exact ⟨hinv₁.1, hwithin hw hs₁⟩

end Text

/-! ## Sequences of passes -/

/-- What holds between the passes: the invariant, and nothing in memory that is not on
disk. -/
theorem Passes.sound {settings : Settings} {s t : Memory × Node}
    (passes : Passes (fun m => manager.restrict (Definitive m)) settings s t)
    (hn : s.2.Sound) (hw : Within s.1 s.2) : t.2.Sound ∧ Within t.1 t.2 := by
  induction passes with
  | start => exact ⟨hn, hw⟩
  | @pass m m' n n' only force r _ run ih =>
    have hpass := renewAll_always settings only force ih.1 ih.2
    have hreturn := Prog.Always.at_return hpass run
    exact ⟨Prog.Always.at_stop hpass run, hreturn⟩
  | @death m n n' only force rest _ run ih =>
    refine ⟨Prog.Always.at_stop (renewAll_always settings only force ih.1 ih.2) run, ?_⟩
    rintro i ⟨serial, h⟩
    exact absurd h List.not_mem_nil

/-- **Mint debt is durable**, over passes in which what the worker takes for final is
final: from a process that has just started, wherever a pass ends or the process dies, an
instance of which a pending mint is held is in the durable ledger, and so is one until an
answered report has settled its mint. -/
theorem mint_debt_durable {settings : Settings} {n₀ n : Node} {m : Memory} (hstart : n₀.Sound)
    (passes : Passes (fun m => manager.restrict (Definitive m)) settings ({}, n₀) (m, n)) :
    (∀ i, n.pending i → n.owed i) ∧ ∀ i, n.unsettled i → n.owed i := by
  have hw : Within {} n₀ := by
    rintro i ⟨serial, h⟩
    exact absurd h List.not_mem_nil
  obtain ⟨hsound, -⟩ := passes.sound hstart hw
  exact ⟨fun i hi => hsound.owed i (hsound.unsettled i hi), hsound.owed⟩

/-! ### A node with one instance -/

/-- The node, nothing but the instance `a` being left on it. -/
def Node.alone (n : Node) : Node where
  ledger := n.ledger
  tmp := n.tmp
  lockedWith := n.lockedWith
  present i := i = "a"
  pending i := i = "a" ∧ n.pending i
  unsettled i := i = "a" ∧ n.unsettled i

/-- A compose whose sidecar publishes a port. -/
def publishing : PyValue :=
  .dict [("services", .dict [("greffon_nginx", .dict [("ports", .list [.str "45347:8000"])])])]

/-- A node whose one sidecar cannot be probed, and a manager that commits every mint but
whose reply is lost, or is a 503. -/
def frailManager (lost : Bool) (n : Node) :
    (c : RenewalCall) → Raises Answer RenewalError c × Node
  | .readLedger =>
    (match n.ledger with
      | some l => .ok (some l)
      | none => .error (.raised (.osError "No such file or directory")), n.alone)
  | .writeLedgerTmp l => (.ok (), { n.alone with tmp := some l })
  | .replaceLedger => (.ok (), { n.alone with ledger := n.tmp })
  | .acquireUnlessHandoff _ => (.ok none, { n.alone with lockedWith := n.ledger.getD [] })
  | .postMint i =>
    (if lost then .error (.raised (.requestException "timed out")) else .ok { statusCode := 503 },
      { n.alone with
        pending := fun j => j = "a" ∧ (n.pending j ∨ i = j)
        unsettled := fun j => j = "a" ∧ (n.unsettled j ∨ i = j) })
  | .postReport _ _ => (.error (.raised (.requestException "timed out")), n.alone)
  | .collectStatusMap => (.ok [("a", "running")], n.alone)
  | .acquirePassLock | .reload _ => (.ok true, n.alone)
  | .stopRequested | .composeInflight _ => (.ok false, n.alone)
  | .startedAt _ | .handshake _ _ => (.ok none, n.alone)
  | .renderedCompose _ => (.ok (some publishing), n.alone)
  | .utcNow | .monotonic => (.ok 0, n.alone)
  | .releasePassLock | .releaseLock _ | .putArchive _ _ _ | .restart _ | .sleep =>
    (.ok (), n.alone)

theorem frailManager_serves (lost : Bool) (n : Node) (c : RenewalCall) :
    manager.serve n c (frailManager lost n c).1 (frailManager lost n c).2 where
  files := by
    cases c <;> try exact ⟨rfl, rfl⟩
    case readLedger => cases h : n.ledger <;> simp [frailManager, Files, h, Node.alone]
    case writeLedgerTmp l => exact ⟨rfl, rfl, rfl⟩
  locking := by cases c <;> rfl
  lists := by
    cases c <;> try trivial
    case collectStatusMap =>
      rintro i - rfl
      rfl
  acts := by cases c <;> trivial
  raises := by
    intro e he
    cases c <;> simp only [frailManager, reduceCtorEq] at he
    case readLedger =>
      cases h : n.ledger <;> simp only [h, reduceCtorEq, Except.error.injEq] at he
      exact ⟨_, he.symm⟩
    case postMint i =>
      cases lost <;> cases he
      exact ⟨_, rfl⟩
    case postReport i served =>
      cases he
      exact ⟨_, rfl⟩
  held := by
    intro i hi
    cases c <;> try exact ⟨hi.1, .inl hi.2⟩
    case postMint j => exact ⟨hi.1, hi.2.imp_right fun h => congrArg _ h⟩
  kept := by
    intro i hi hpresent
    cases c <;> try exact .inl ⟨hpresent, hi⟩
    case postMint j => exact .inl ⟨hpresent, .inl hi⟩
  unsettled := by
    intro i
    have hnone : reportedOn c (frailManager lost n c).1 ≠ some i := by
      cases c <;> exact fun h => by cases h
    simp only [hnone, false_and, not_false_eq_true, and_true]
    cases c <;> try simp [frailManager, Node.alone]
    case postMint j =>
      by_cases hj : j = i
      · subst hj
        simp only [or_true, and_true, true_and]
        exact fun h => ⟨fun _ => .inr h, fun _ => trivial⟩
      · simp [hj]

/-- The node before the first pass. -/
def freshNode : Node where
  ledger := none
  tmp := none
  lockedWith := []
  present i := i = "a"
  pending _ := False
  unsettled _ := False

theorem freshNode_sound : freshNode.Sound :=
  ⟨fun _ h => h.elim, fun _ h => h.elim, fun _ h => h.elim⟩

/-- One pass over that node. -/
def frailPass (lost : Bool) :
    Node × Prog (Raises Answer RenewalError) (Except RenewalError PassResult × Memory) :=
  Prog.evalFor (frailManager lost) 60 (renewAll {} none false {}) freshNode

theorem mint_debt_durable_lost_reply :
    (∀ i, (frailPass true).1.pending i → (frailPass true).1.owed i) ∧
      ∀ i, (frailPass true).1.unsettled i → (frailPass true).1.owed i := by
  refine mint_debt_durable (m := {}) freshNode_sound
    (.death (.start _) (Prog.run_evalFor (h := frailManager true) ?_ 60 _ _))
  refine fun n c => ⟨frailManager_serves true n c, ?_⟩
  cases c <;> try trivial
  case readLedger =>
    cases h : n.ledger <;> simp [frailManager, Definitive, Node.owed, h, Ledger.owes]

/-- **A refused mint may have been committed**: the manager commits the mint and answers
503, the pass ends, and the debt it had filed is dropped. -/
theorem committed_mint_forgotten : ∃ s, Passes (fun _ => manager) {} ({}, freshNode) s ∧
    s.2.pending "a" ∧ ¬ s.2.owed "a" := by
  have hend : ∃ r m, (frailPass false).2 = .pure (r, m) := ⟨_, _, rfl⟩
  obtain ⟨r, m, hreturn⟩ := hend
  have hrun : Run manager freshNode (renewAll {} none false {}) (frailPass false).1
      (frailPass false).2 :=
    Prog.run_evalFor (h := frailManager false) (frailManager_serves false) 60 _ _
  rw [hreturn] at hrun
  refine ⟨(m, (frailPass false).1), .pass (.start _) hrun, ?_, ?_⟩
  · repeat first | exact Or.inr rfl | refine ⟨rfl, ?_⟩
  rintro ⟨serial, h⟩
  exact absurd (show ("a", serial) ∈ ([] : Ledger) from h) List.not_mem_nil

end Greffer.CertRenewal

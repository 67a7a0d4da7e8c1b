import Greffer.Effects.Threads

/-! # Threads that go round loops

A program that runs for ever is not a `Prog`, but each round of its loops is.  A worker is
written as one block for each loop head, its *label*: a block runs to the next head, which
it returns, or returns that the worker is finished.  The labels carry what the loop keeps from
one round to the next.

The rule of the module is the classical one of invariants at loop heads, with a monitor beside
each thread as in `Threads`: if every block, started with a monitor that fits its label
(`At`), keeps the monitor within `ok` and ends with one that fits the next label, and if
the monitors agree with the shared world, no thread disturbs the agreement of another and
each keeps the invariant of the world (`Looped`), then all of this holds in every state that
any interleaving reaches (`Looped.along`), and at every call that is made on the way
(`Looped.at_call`).
-/
namespace Effects

variable {Kind : Type} {Call : Kind → Type} {Reply : (k : Kind) → Call k → Type}
  {Label : Kind → Type} {W σ : Type}

/-- A thread of blocks: its program returns the label it goes on at, or that it is finished. -/
abbrev Worker (Reply : (k : Kind) → Call k → Type) (Label : Kind → Type) : Type :=
  Thread Reply fun k => Option (Label k)

/-- The workers, and what they share. -/
abbrev Crew (Reply : (k : Kind) → Call k → Type) (Label : Kind → Type) (W : Type) : Type :=
  Pool Reply (fun k => Option (Label k)) W

/-- The block of each label. -/
abbrev Blocks (Reply : (k : Kind) → Call k → Type) (Label : Kind → Type) : Type :=
  (k : Kind) → Label k → Prog (Reply k) (Option (Label k))

/-- **A run of the workers**, with the events of their calls: a worker that is at the end of a
block goes on with the next one. -/
inductive Shared.Rounds (S : Shared Reply W) (accepts : Worker Reply Label → Prop)
    (blocks : Blocks Reply Label) :
    Crew Reply Label W → List (W × Event Reply) → Crew Reply Label W → Prop
  | nil (p : Crew Reply Label W) : Rounds S accepts blocks p [] p
  | step {p p' q : Crew Reply Label W} {e : Event Reply} {es : List (W × Event Reply)}
      (first : S.Step accepts p e p') (rest : Rounds S accepts blocks p' es q) :
      Rounds S accepts blocks p ((p.world, e) :: es) q
  | turn {w : W} {ts : List (Worker Reply Label)} {n : Nat} {k : Kind} {l : Label k}
      {q : Crew Reply Label W} {es : List (W × Event Reply)}
      (runs : ts[n]? = some ⟨k, .pure (some l)⟩)
      (rest : Rounds S accepts blocks ⟨w, ts.set n ⟨k, blocks k l⟩⟩ es q) :
      Rounds S accepts blocks ⟨w, ts⟩ es q

/-- The thread keeps its monitor within `ok`, and ends its block with one that fits. -/
def Thread.Follows (m : Monitor Reply σ) (ok : σ → Prop)
    (At : (k : Kind) → Option (Label k) → σ → Prop) (t : Worker Reply Label) (s : σ) : Prop :=
  t.rest.Always (m.machine t.kind) ok (fun next s => At t.kind next s) s

theorem Thread.Follows.next {m : Monitor Reply σ} {ok : σ → Prop}
    {At : (k : Kind) → Option (Label k) → σ → Prop} {k : Kind} {c : Call k}
    {next : Reply k c → Prog (Reply k) (Option (Label k))} {s : σ}
    (h : Thread.Follows m ok At (⟨k, .call c next⟩ : Worker Reply Label) s) (r : Reply k c) :
    ok s ∧ ok (m.after k s c r) ∧
      Thread.Follows m ok At (⟨k, next r⟩ : Worker Reply Label) (m.after k s c r) := by
  have hnext := h.2 r _ rfl
  exact ⟨h.1, hnext.inv, hnext⟩

/-- **The rule's premises.**  As in `Supervised`, with an invariant `At` for each label, and
`inv N` for the world with `N` threads. -/
structure Looped (S : Shared Reply W) (accepts : Worker Reply Label → Prop)
    (blocks : Blocks Reply Label) (m : Monitor Reply σ) (ok : σ → Prop)
    (At : (k : Kind) → Option (Label k) → σ → Prop) (agree : Nat → σ → W → Prop)
    (inv : Nat → W → Prop) : Prop where
  /-- A block started at its label keeps within `ok` and ends at one whose invariant holds. -/
  block : ∀ {k l s}, ok s → At k (some l) s →
    (blocks k l).Always (m.machine k) ok (fun next s => At k next s) s
  /-- A step keeps the agreement of the thread that takes it, -/
  own : ∀ {n k w c r w' s}, S.serve n k w c r w' → agree n s w → ok s → ok (m.after k s c r) →
    agree n (m.after k s c r) w'
  /-- and of every other. -/
  other : ∀ {n k w c r w' s n' s'}, S.serve n k w c r w' → agree n s w → ok s →
    ok (m.after k s c r) → n' ≠ n → agree n' s' w → agree n' s' w'
  drift : ∀ {w w' n s}, S.drift w w' → agree n s w → agree n s w'
  /-- A thread that starts follows its blocks, from a monitor that agrees. -/
  fresh : ∀ {t n w}, accepts t → inv n w → ∃ s, t.Follows m ok At s ∧ agree n s w
  /-- A step keeps the invariant, if the thread that takes it agrees. -/
  inv_serve : ∀ {n k w c r w' s N}, S.serve n k w c r w' → n < N → agree n s w → ok s →
    ok (m.after k s c r) → inv N w → inv N w'
  inv_drift : ∀ {w w' N}, S.drift w w' → inv N w → inv N w'
  inv_succ : ∀ {w N}, inv N w → inv (N + 1) w

namespace Looped
variable {S : Shared Reply W} {accepts : Worker Reply Label → Prop} {blocks : Blocks Reply Label}
  {m : Monitor Reply σ} {ok : σ → Prop} {At : (k : Kind) → Option (Label k) → σ → Prop}
  {agree : Nat → σ → W → Prop} {inv : Nat → W → Prop}

/-- The world is as it should be, and every thread follows its blocks and agrees. -/
def Agrees (m : Monitor Reply σ) (ok : σ → Prop) (At : (k : Kind) → Option (Label k) → σ → Prop)
    (agree : Nat → σ → W → Prop) (inv : Nat → W → Prop) (p : Crew Reply Label W) : Prop :=
  p.Each inv fun n t w => ∃ s, t.Follows m ok At s ∧ agree n s w

theorem step (h : Looped S accepts blocks m ok At agree inv) {p p' : Crew Reply Label W}
    {e : Event Reply} (hp : Agrees m ok At agree inv p) (hstep : S.Step accepts p e p') :
    Agrees m ok At agree inv p' := by
  cases hstep with
  | @call w w' ts n k c r next runs served =>
    obtain ⟨s, hfollows, hagree⟩ := hp.2 n _ runs
    obtain ⟨hok, hafter, hnext⟩ := hfollows.next r
    have hn : n < ts.length := (List.getElem?_eq_some_iff.mp runs).1
    refine hp.set hn (h.inv_serve served hn hagree hok hafter hp.1)
      ⟨_, hnext, h.own served hagree hok hafter⟩ ?_
    rintro n' t hn' ⟨s', hfollows', hagree'⟩
    exact ⟨s', hfollows', h.other served hagree hok hafter hn' hagree'⟩
  | start haccepts => exact hp.start (h.inv_succ hp.1) (h.fresh haccepts hp.1)
  | drift hdrift =>
    refine hp.drift (h.inv_drift hdrift hp.1) ?_
    rintro n t ⟨s, hfollows, hagree⟩
    exact ⟨s, hfollows, h.drift hdrift hagree⟩

/-- A worker that goes on with the block of the label it is at. -/
theorem turn (h : Looped S accepts blocks m ok At agree inv) {w : W}
    {ts : List (Worker Reply Label)} {n : Nat} {k : Kind} {l : Label k}
    (runs : ts[n]? = some ⟨k, .pure (some l)⟩) (hp : Agrees m ok At agree inv ⟨w, ts⟩) :
    Agrees m ok At agree inv ⟨w, ts.set n ⟨k, blocks k l⟩⟩ := by
  obtain ⟨s, hfollows, hagree⟩ := hp.2 n _ runs
  have hn : n < ts.length := (List.getElem?_eq_some_iff.mp runs).1
  exact hp.set hn hp.1 ⟨s, h.block hfollows.1 hfollows.2, hagree⟩ fun _ _ _ hfits => hfits

/-- **All threads agree in every state reached.** -/
theorem along (h : Looped S accepts blocks m ok At agree inv) {p q : Crew Reply Label W}
    {es : List (W × Event Reply)} (rounds : S.Rounds accepts blocks p es q)
    (hp : Agrees m ok At agree inv p) : Agrees m ok At agree inv q := by
  induction rounds with
  | nil => exact hp
  | step first _ ih => exact ih (h.step hp first)
  | turn runs _ ih => exact ih (h.turn runs hp)

/-- **Every call is made with a monitor within `ok` that agrees with the world it finds.** -/
theorem at_call (h : Looped S accepts blocks m ok At agree inv) {p q : Crew Reply Label W}
    {es : List (W × Event Reply)} (rounds : S.Rounds accepts blocks p es q)
    (hp : Agrees m ok At agree inv p) {w : W} {n : Nat} {k : Kind} {c : Call k} {r : Reply k c}
    (he : (w, .called n k c r) ∈ es) :
    ∃ N s, inv N w ∧ agree n s w ∧ ok s ∧ ok (m.after k s c r) := by
  induction rounds with
  | nil => cases he
  | turn runs _ ih => exact ih (h.turn runs hp) he
  | step first _ ih =>
    cases List.mem_cons.mp he with
    | inr hrest => exact ih (h.step hp first) hrest
    | inl hfirst =>
      cases first with
      | call runs served =>
        cases hfirst
        obtain ⟨s, hfollows, hagree⟩ := hp.2 _ _ runs
        obtain ⟨hok, hafter, -⟩ := hfollows.next r
        exact ⟨_, s, hp.1, hagree, hok, hafter⟩
      | start haccepts => cases hfirst
      | drift hdrift => cases hfirst

end Looped

theorem Shared.Rounds.guard {S : Shared Reply W} {accepts : Worker Reply Label → Prop}
    {blocks : Blocks Reply Label} {ok : W → (k : Kind) → Call k → Prop}
    {p q : Crew Reply Label W} {es : List (W × Event Reply)}
    (h : S.Rounds accepts blocks p es q) (hmeets : ∀ e ∈ es, Meets ok e) :
    (S.guard ok).Rounds accepts blocks p es q := by
  induction h with
  | nil p => exact .nil p
  | turn runs _ ih => exact .turn runs (ih hmeets)
  | step first _ ih =>
    exact .step (first.guard (hmeets _ List.mem_cons_self))
      (ih fun e he => hmeets e (List.mem_cons_of_mem _ he))

theorem Shared.Rounds.append {S : Shared Reply W} {accepts : Worker Reply Label → Prop}
    {blocks : Blocks Reply Label} {p q t : Crew Reply Label W}
    {es es' : List (W × Event Reply)} (first : S.Rounds accepts blocks p es q)
    (second : S.Rounds accepts blocks q es' t) : S.Rounds accepts blocks p (es ++ es') t := by
  induction first with
  | nil => exact second
  | step first _ ih => exact .step first (ih second)
  | turn runs _ ih => exact .turn runs (ih second)

/-- **A worker stays what it is**, whatever it goes on with. -/
theorem Shared.Rounds.kind {S : Shared Reply W} {accepts : Worker Reply Label → Prop}
    {blocks : Blocks Reply Label} {p q : Crew Reply Label W} {es : List (W × Event Reply)}
    (h : S.Rounds accepts blocks p es q) {n : Nat} {t : Worker Reply Label}
    (ht : p.threads[n]? = some t) : ∃ t', q.threads[n]? = some t' ∧ t'.kind = t.kind := by
  have hset {ts : List (Worker Reply Label)} {m : Nat} {k : Kind}
      {rest : Prog (Reply k) (Option (Label k))} (rest' : Prog (Reply k) (Option (Label k)))
      {t : Worker Reply Label} (hm : ts[m]? = some ⟨k, rest⟩) (ht : ts[n]? = some t) :
      ∃ t', (ts.set m ⟨k, rest'⟩)[n]? = some t' ∧ t'.kind = t.kind := by
    by_cases hn : m = n
    · subst hn
      cases hm.symm.trans ht
      exact ⟨_, List.getElem?_set_self (List.getElem?_eq_some_iff.mp ht).1, rfl⟩
    · exact ⟨t, (List.getElem?_set_ne hn).trans ht, rfl⟩
  induction h generalizing t with
  | nil => exact ⟨t, ht, rfl⟩
  | turn runs _ ih =>
    obtain ⟨t', ht', hkind⟩ := hset _ runs ht
    obtain ⟨t'', ht'', hkind'⟩ := ih ht'
    exact ⟨t'', ht'', hkind'.trans hkind⟩
  | @step _ p' _ _ _ first _ ih =>
    obtain ⟨t', ht', hkind⟩ : ∃ t', p'.threads[n]? = some t' ∧ t'.kind = t.kind := by
      cases first with
      | call runs served => exact hset _ runs ht
      | start haccepts =>
        exact ⟨t, (List.getElem?_append_left (List.getElem?_eq_some_iff.mp ht).1).trans ht, rfl⟩
      | drift hdrift => exact ⟨t, ht, rfl⟩
    obtain ⟨t'', ht'', hkind'⟩ := ih ht'
    exact ⟨t'', ht'', hkind'.trans hkind⟩

/-! ## One worker running alone -/

/-- The events of at most `m` calls of a worker, its blocks run one after the other.  It stops at
a call that has no answer yet. -/
def roundsFor {k : Kind} (h : W → (c : Call k) → Option (Reply k c × W))
    (block : Label k → Prog (Reply k) (Option (Label k))) (n : Nat) :
    Nat → Prog (Reply k) (Option (Label k)) → W →
      List (W × Event Reply) × W × Prog (Reply k) (Option (Label k))
  | 0, p, w => ([], w, p)
  | _ + 1, .pure none, w => ([], w, .pure none)
  | m + 1, .pure (some l), w => roundsFor h block n m (block l) w
  | m + 1, .call c next, w =>
    match h w c with
    | none => ([], w, .call c next)
    | some (r, w') =>
      let (es, w'', p) := roundsFor h block n m (next r) w'
      ((w, .called n k c r) :: es, w'', p)

/-- A worker that runs alone for a while, in an environment the table allows. -/
theorem Shared.Rounds.alone {S : Shared Reply W} {accepts : Worker Reply Label → Prop}
    {blocks : Blocks Reply Label} {k : Kind} {h : W → (c : Call k) → Option (Reply k c × W)}
    {n : Nat} (hserve : ∀ w c r w', h w c = some (r, w') → S.serve n k w c r w') (m : Nat)
    (p : Prog (Reply k) (Option (Label k))) (w : W) (ts : List (Worker Reply Label))
    (hn : ts[n]? = some ⟨k, p⟩) :
    S.Rounds accepts blocks ⟨w, ts⟩ (roundsFor h (blocks k) n m p w).1
      ⟨(roundsFor h (blocks k) n m p w).2.1,
        ts.set n ⟨k, (roundsFor h (blocks k) n m p w).2.2⟩⟩ := by
  have hstays (ts : List (Worker Reply Label)) (p : Prog (Reply k) (Option (Label k)))
      (hn : ts[n]? = some ⟨k, p⟩) : ts.set n ⟨k, p⟩ = ts := by
    obtain ⟨hlt, heq⟩ := List.getElem?_eq_some_iff.mp hn
    rw [← heq]
    exact List.set_getElem_self hlt
  induction m generalizing p w ts with
  | zero =>
    rw [roundsFor, hstays ts p hn]
    exact .nil _
  | succ m ih =>
    have hlt := (List.getElem?_eq_some_iff.mp hn).1
    cases p with
    | pure next =>
      cases next with
      | none =>
        rw [roundsFor, hstays ts _ hn]
        exact .nil _
      | some l =>
        have hrest := ih (blocks k l) w (ts.set n ⟨k, blocks k l⟩) (List.getElem?_set_self hlt)
        rw [List.set_set] at hrest
        exact .turn hn hrest
    | call c next =>
      cases hh : h w c with
      | none =>
        simp only [roundsFor, hh]
        rw [hstays ts _ hn]
        exact .nil _
      | some answer =>
        obtain ⟨r, w'⟩ := answer
        simp only [roundsFor, hh]
        have hrest := ih (next r) w' (ts.set n ⟨k, next r⟩) (List.getElem?_set_self hlt)
        rw [List.set_set] at hrest
        exact .step (.call hn (hserve w c r w' hh)) hrest

end Effects

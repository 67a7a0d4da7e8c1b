import Greffer.Effects.Loops
import Greffer.Effects.Routine

/-! # What a thread may rely on

The rule of `Loops` judges the text of a thread for every answer of the right type.  Where the
text is right only because the shared world cannot give some of them — a value that nobody takes
back, a flag that nobody clears — the thread **relies** on the others.

A `Reliance` keeps a record of a thread, as a monitor does, and says of each record which calls it
allows and which answers it reckons with.  The text is judged for these answers alone
(`Prog.Relies`, which goes by the text as `Always` does); that the world gives no other is one more
premise of the rule (`Relied.may`), next to those that no thread disturbs another.  The
conclusions are those of `Loops`: everything holds in every state that any interleaving reaches
(`Relied.along`) and at every call on the way (`Relied.at_call`).

What a thread does by its text alone, whatever it is answered, needs no world: its own events move
its record on (`recordOf`), and every call of a run is one that the record allows
(`Shared.Rounds.allowed_call`).
-/
namespace Effects

/-! ## The judgement -/

/-- A record of what a thread has done, the calls it allows and the answers it reckons with. -/
structure Reliance {Call : Type} (Reply : Call → Type) (σ : Type) where
  after : σ → (c : Call) → Reply c → σ
  allowed : σ → Call → Prop
  may : σ → (c : Call) → Reply c → Prop

section Judgement
variable {Call : Type} {Reply : Call → Type} {σ α β : Type} {m : Reliance Reply σ} {s : σ}

/-- Given the answers it reckons with, the program makes allowed calls only, and `Q` holds of what
it returns and its record. -/
def Prog.Relies (m : Reliance Reply σ) (Q : α → σ → Prop) : Prog Reply α → σ → Prop
  | .pure a, s => Q a s
  | .call c next, s => m.allowed s c ∧ ∀ r, m.may s c r → (next r).Relies m Q (m.after s c r)

namespace Prog
variable {Q R : α → σ → Prop} {p : Prog Reply α}

theorem Relies.mono (h : p.Relies m Q s) (hQ : ∀ a s, Q a s → R a s) : p.Relies m R s := by
  induction p generalizing s with
  | pure a => exact hQ a s h
  | call c next ih => exact ⟨h.1, fun r hr => ih r (h.2 r hr)⟩

/-- Where everything is allowed, there is nothing to judge. -/
theorem relies_free (hallowed : ∀ s c, m.allowed s c) (hQ : ∀ a s, Q a s) : p.Relies m Q s := by
  induction p generalizing s with
  | pure a => exact hQ a s
  | call c next ih => exact ⟨hallowed s c, fun r _ => ih r⟩

theorem relies_bind {f : α → Prog Reply β} {Q : β → σ → Prop} :
    (p.bind f).Relies m Q s ↔ p.Relies m (fun a s => (f a).Relies m Q s) s := by
  induction p generalizing s with
  | pure a => rfl
  | call c next ih =>
    exact and_congr_right fun _ => forall_congr' fun r => imp_congr_right fun _ => ih r

end Prog

variable {Ans : Call → Type} {E : Type} {m : Reliance (Raises Ans E) σ}

namespace Action

/-- `Prog.Relies`, for an action. -/
def Relies (m : Reliance (Raises Ans E) σ) (Q : Except E α → σ → Prop) (a : Action Ans E α)
    (s : σ) : Prop := Prog.Relies m Q a s

variable {Q R : Except E α → σ → Prop} {a : Action Ans E α}

theorem Relies.mono (h : a.Relies m Q s) (hQ : ∀ r s, Q r s → R r s) : a.Relies m R s :=
  Prog.Relies.mono h hQ

@[simp] theorem relies_pure (x : α) : (pure x : Action Ans E α).Relies m Q s ↔ Q (.ok x) s := Iff.rfl

@[simp] theorem relies_raise (e : E) :
    (raise e : Action Ans E α).Relies m Q s ↔ Q (.error e) s := Iff.rfl

@[simp] theorem relies_ofExcept (r : Except E α) :
    (ofExcept r : Action Ans E α).Relies m Q s ↔ Q r s := Iff.rfl

@[simp] theorem relies_perform (c : Call) {Q : Except E (Ans c) → σ → Prop} :
    (perform c : Action Ans E (Ans c)).Relies m Q s ↔
      m.allowed s c ∧ ∀ r, m.may s c r → Q r (m.after s c r) := Iff.rfl

@[simp] theorem relies_bind {f : α → Action Ans E β} {Q : Except E β → σ → Prop} :
    (a >>= f).Relies m Q s ↔ a.Relies m (onOk (fun x s => (f x).Relies m Q s) Q) s := by
  refine Prog.relies_bind.trans ⟨fun h => ?_, fun h => ?_⟩
  all_goals
    refine Prog.Relies.mono h ?_
    rintro (e | x) s hs <;> exact hs

@[simp] theorem relies_tryExcept {h : E → Action Ans E α} :
    (a.tryExcept h).Relies m Q s ↔ a.Relies m (fun r s => match r with
      | .ok x => Q (.ok x) s
      | .error e => (h e).Relies m Q s) s := by
  refine Prog.relies_bind.trans ⟨fun h => ?_, fun h => ?_⟩
  all_goals
    refine Prog.Relies.mono h ?_
    rintro (e | x) s hs <;> exact hs

@[simp] theorem relies_outcome {Q : Except E (Except E α) → σ → Prop} :
    a.outcome.Relies m Q s ↔ a.Relies m (fun r s => Q (.ok r) s) s := Prog.relies_bind

theorem relies_ite (c : Prop) [Decidable c] {b : Action Ans E α} :
    (if c then a else b).Relies m Q s ↔ (c → a.Relies m Q s) ∧ (¬ c → b.Relies m Q s) := by
  by_cases hc : c <;> simp [hc]

/-- **A call and what follows it**: its exception leaves. -/
theorem relies_call {c : Call} {f : Ans c → Action Ans E α} (hallowed : m.allowed s c)
    (herror : ∀ e, m.may s c (.error e) → Q (.error e) (m.after s c (.error e)))
    (hnext : ∀ x, m.may s c (.ok x) → (f x).Relies m Q (m.after s c (.ok x))) :
    (perform c >>= f).Relies m Q s := by
  rw [relies_bind, relies_perform]
  refine ⟨hallowed, ?_⟩
  intro r hmay
  cases r with
  | ok x => exact hnext x hmay
  | error e => exact herror e hmay

theorem relies_attempt {c : Call} {f : Except E (Ans c) → Action Ans E α} (hallowed : m.allowed s c)
    (hnext : ∀ r, m.may s c r → (f r).Relies m Q (m.after s c r)) :
    ((perform c).outcome >>= f).Relies m Q s :=
  ⟨hallowed, hnext⟩

/-! ### Actions as blocks -/

variable {L : Type}

/-- A round of a loop as a block: an exception that nothing catches ends the thread. -/
def block (round : Action Ans E (Option L)) : Prog (Raises Ans E) (Option L) :=
  Prog.bind round fun
    | .ok next => .pure next
    | .error _ => .pure none

/-- A thread that is not a loop. -/
def once (a : Action Ans E Unit) : Prog (Raises Ans E) (Option L) :=
  block do
    a
    return none

/-- Where a block ends, once its round has ended so. -/
def AtEnd (P : Option L → σ → Prop) : Except E (Option L) → σ → Prop
  | .ok next, s => P next s
  | .error _, s => P none s

theorem relies_block {round : Action Ans E (Option L)} {P : Option L → σ → Prop} :
    (block round).Relies m P s ↔ round.Relies m (AtEnd P) s := by
  refine Prog.relies_bind.trans
    ⟨fun h => Prog.Relies.mono h ?_, fun h => Prog.Relies.mono h ?_⟩
  all_goals rintro (e | next) s hs <;> exact hs

theorem relies_once {a : Action Ans E Unit} {P : Option L → σ → Prop} :
    (once a : Prog (Raises Ans E) (Option L)).Relies m P s ↔
      a.Relies m (fun _ s => P none s) s := by
  unfold once
  rw [relies_block, relies_bind]
  refine ⟨fun h => h.mono ?_, fun h => h.mono ?_⟩
  all_goals rintro (e | u) s hs <;> exact hs

end Action

end Judgement

variable {Kind : Type} {Call : Kind → Type} {Reply : (k : Kind) → Call k → Type}
  {Label : Kind → Type} {W σ : Type}

/-! ## Runs -/

theorem Shared.Rounds.of_append {S : Shared Reply W} {accepts : Worker Reply Label → Prop}
    {blocks : Blocks Reply Label} {p q : Crew Reply Label W} {es es' : List (W × Event Reply)}
    (rounds : S.Rounds accepts blocks p (es ++ es') q) :
    ∃ m, S.Rounds accepts blocks p es m ∧ S.Rounds accepts blocks m es' q := by
  generalize hall : es ++ es' = all at rounds
  induction rounds generalizing es with
  | nil p =>
    obtain ⟨rfl, rfl⟩ := List.append_eq_nil_iff.mp hall
    exact ⟨p, .nil p, .nil p⟩
  | turn runs _ ih =>
    obtain ⟨m, first, second⟩ := ih hall
    exact ⟨m, .turn runs first, second⟩
  | @step p p' q e all hfirst hrest ih =>
    cases es with
    | nil =>
      rw [List.nil_append] at hall
      subst hall
      exact ⟨p, .nil p, .step hfirst hrest⟩
    | cons e' es =>
      obtain ⟨rfl, htail⟩ := List.cons.inj hall
      obtain ⟨m, first, second⟩ := ih htail
      exact ⟨m, .step hfirst first, second⟩

/-- What every call and every drift respects, a run respects. -/
theorem Shared.Rounds.respects {S : Shared Reply W} {accepts : Worker Reply Label → Prop}
    {blocks : Blocks Reply Label} {R : W → W → Prop} {p q : Crew Reply Label W}
    {es : List (W × Event Reply)} (rounds : S.Rounds accepts blocks p es q)
    (hrefl : ∀ w, R w w) (htrans : ∀ {w w' w''}, R w w' → R w' w'' → R w w'')
    (hserve : ∀ {n k w c r w'}, S.serve n k w c r w' → R w w')
    (hdrift : ∀ {w w'}, S.drift w w' → R w w') : R p.world q.world := by
  induction rounds with
  | nil p => exact hrefl p.world
  | turn runs _ ih => exact ih
  | step first _ ih =>
    cases first with
    | call runs served => exact htrans (hserve served) ih
    | start haccepts => exact ih
    | drift h => exact htrans (hdrift h) ih

/-- The first event of a run found the world of its start. -/
theorem Shared.Rounds.world_eq {S : Shared Reply W} {accepts : Worker Reply Label → Prop}
    {blocks : Blocks Reply Label} {p q : Crew Reply Label W} {w : W} {e : Event Reply}
    {es : List (W × Event Reply)} (rounds : S.Rounds accepts blocks p ((w, e) :: es) q) :
    p.world = w := by
  generalize hall : (w, e) :: es = all at rounds
  induction rounds with
  | nil => cases hall
  | turn runs _ ih => exact ih hall
  | step first _ _ =>
    cases hall
    rfl

/-- What a run respects holds between the worlds that any two of its events found. -/
theorem Shared.Rounds.respects_between {S : Shared Reply W} {accepts : Worker Reply Label → Prop}
    {blocks : Blocks Reply Label} {R : W → W → Prop} {p q : Crew Reply Label W} {w w' : W}
    {e e' : Event Reply} {es es' es'' : List (W × Event Reply)}
    (rounds : S.Rounds accepts blocks p (es ++ (w, e) :: (es' ++ (w', e') :: es'')) q)
    (hrespects : ∀ {p q es}, S.Rounds accepts blocks p es q → R p.world q.world) : R w w' := by
  obtain ⟨m, -, hfrom⟩ := rounds.of_append
  have hfirst := hfrom.world_eq
  rw [← List.cons_append] at hfrom
  obtain ⟨m', hbetween, hto⟩ := hfrom.of_append
  rw [← hfirst, ← hto.world_eq]
  exact hrespects hbetween

/-- Every call of a run was served in the world it found. -/
theorem Shared.Rounds.served {S : Shared Reply W} {accepts : Worker Reply Label → Prop}
    {blocks : Blocks Reply Label} {p q : Crew Reply Label W} {w : W} {n : Nat} {k : Kind}
    {c : Call k} {r : Reply k c} {es es' : List (W × Event Reply)}
    (rounds : S.Rounds accepts blocks p (es ++ (w, .called n k c r) :: es') q) :
    ∃ m m' : Crew Reply Label W, S.Rounds accepts blocks p es m ∧ m.world = w ∧
      S.serve n k w c r m'.world ∧ S.Rounds accepts blocks m' es' q := by
  obtain ⟨m, first, second⟩ := rounds.of_append
  clear rounds
  generalize hall : (w, Event.called n k c r) :: es' = all at second
  induction second generalizing es with
  | nil => cases hall
  | turn runs _ ih =>
    have turned := first.append (.turn runs (.nil _))
    rw [List.append_nil] at turned
    exact ih turned hall
  | step hfirst hrest ih =>
    obtain ⟨he, rfl⟩ := List.cons.inj hall
    cases hfirst with
    | call runs served =>
      cases he
      exact ⟨_, _, first, rfl, served, hrest⟩
    | start haccepts => cases he
    | drift hdrift => cases he

/-- Where no thread may start, only those that are there at first make calls. -/
theorem Shared.Rounds.thread_of_call {S : Shared Reply W} {accepts : Worker Reply Label → Prop}
    {blocks : Blocks Reply Label} {p q : Crew Reply Label W} {w : W} {n : Nat} {k : Kind}
    {c : Call k} {r : Reply k c} {es : List (W × Event Reply)}
    (rounds : S.Rounds accepts blocks p es q) (hnone : ∀ t, ¬ accepts t)
    (he : (w, .called n k c r) ∈ es) : ∃ t, p.threads[n]? = some t := by
  suffices hn : n < p.threads.length from ⟨_, List.getElem?_eq_getElem hn⟩
  induction rounds with
  | nil => cases he
  | turn runs _ ih =>
    have hrest := ih he
    rw [List.length_set] at hrest
    exact hrest
  | step first _ ih =>
    cases List.mem_cons.mp he with
    | inr hrest =>
      cases first with
      | call runs served =>
        have hlt := ih hrest
        rw [List.length_set] at hlt
        exact hlt
      | start haccepts => exact absurd haccepts (hnone _)
      | drift hdrift => exact ih hrest
    | inl hfirst =>
      cases first with
      | call runs served =>
        cases hfirst
        exact (List.getElem?_eq_some_iff.mp runs).1
      | start haccepts => cases hfirst
      | drift hdrift => cases hfirst

/-- The same table, where calls are answered only as `ok` says. -/
def Shared.answering (S : Shared Reply W) (ok : W → (k : Kind) → (c : Call k) → Reply k c → Prop) :
    Shared Reply W where
  serve n k w c r w' := ok w k c r ∧ S.serve n k w c r w'
  drift := S.drift

/-- A call of a run was answered as `ok` says. -/
def Answered (ok : W → (k : Kind) → (c : Call k) → Reply k c → Prop) : W × Event Reply → Prop
  | (w, .called _ k c r) => ok w k c r
  | _ => True

/-- A run whose calls are answered so is a run of the restricted table. -/
theorem Shared.Rounds.answering {S : Shared Reply W} {accepts : Worker Reply Label → Prop}
    {blocks : Blocks Reply Label} {ok : W → (k : Kind) → (c : Call k) → Reply k c → Prop}
    {p q : Crew Reply Label W} {es : List (W × Event Reply)}
    (h : S.Rounds accepts blocks p es q) (hall : ∀ e ∈ es, Answered ok e) :
    (S.answering ok).Rounds accepts blocks p es q := by
  induction h with
  | nil p => exact .nil p
  | turn runs _ ih => exact .turn runs (ih hall)
  | step first _ ih =>
    have hfirst := hall _ List.mem_cons_self
    refine .step ?_ (ih fun e he => hall e (List.mem_cons_of_mem _ he))
    cases first with
    | call runs served => exact .call runs ⟨hfirst, served⟩
    | start haccepts => exact .start haccepts
    | drift hdrift => exact .drift hdrift

/-! ## One thread's own events -/

/-- The thread makes allowed calls only, and ends its block with a record that fits. -/
def Thread.Relies (m : (k : Kind) → Reliance (Reply k) σ)
    (At : (k : Kind) → Option (Label k) → σ → Prop) (t : Worker Reply Label) (s : σ) : Prop :=
  t.rest.Relies (m t.kind) (fun next s => At t.kind next s) s

/-- The record of the thread `n` after the events of a run. -/
def recordOf (m : (k : Kind) → Reliance (Reply k) σ) (n : Nat) : List (W × Event Reply) → σ → σ
  | [], s => s
  | (_, .called n' k c r) :: es, s => recordOf m n es (if n' = n then (m k).after s c r else s)
  | (_, .started _) :: es, s => recordOf m n es s
  | (_, .drifted) :: es, s => recordOf m n es s

theorem recordOf_append (m : (k : Kind) → Reliance (Reply k) σ) (n : Nat)
    (es es' : List (W × Event Reply)) (s : σ) :
    recordOf m n (es ++ es') s = recordOf m n es' (recordOf m n es s) := by
  induction es generalizing s with
  | nil => rfl
  | cons e es ih =>
    obtain ⟨w, e⟩ := e
    cases e <;> exact ih _

/-- **A record of what was called**: what a call of the thread makes true stays so, and nothing
else makes it true. -/
theorem recordOf_iff {m : (k : Kind) → Reliance (Reply k) σ} {P : σ → Prop}
    {makes : (k : Kind) → (c : Call k) → Reply k c → Prop}
    (hafter : ∀ k s c r, P ((m k).after s c r) ↔ P s ∨ makes k c r) (n : Nat)
    (es : List (W × Event Reply)) (s : σ) :
    P (recordOf m n es s) ↔ P s ∨ ∃ w k c r, (w, .called n k c r) ∈ es ∧ makes k c r := by
  induction es generalizing s with
  | nil => simp [recordOf]
  | cons e es ih =>
    obtain ⟨w, e⟩ := e
    cases e with
    | called n' k c r =>
      rw [recordOf]
      by_cases hn : n' = n
      · subst hn
        rw [if_pos rfl, ih, hafter, or_assoc]
        refine or_congr_right ⟨?_, ?_⟩
        · rintro (hmakes | ⟨w', k', c', r', hmem, hmakes⟩)
          · exact ⟨w, k, c, r, List.mem_cons_self, hmakes⟩
          · exact ⟨w', k', c', r', List.mem_cons_of_mem _ hmem, hmakes⟩
        · rintro ⟨w', k', c', r', hmem, hmakes⟩
          rcases List.mem_cons.mp hmem with heq | hrest
          · cases heq
            exact .inl hmakes
          · exact .inr ⟨w', k', c', r', hrest, hmakes⟩
      · rw [if_neg hn, ih]
        refine or_congr_right ⟨?_, ?_⟩
        · rintro ⟨w', k', c', r', hmem, hmakes⟩
          exact ⟨w', k', c', r', List.mem_cons_of_mem _ hmem, hmakes⟩
        · rintro ⟨w', k', c', r', hmem, hmakes⟩
          rcases List.mem_cons.mp hmem with heq | hrest
          · cases heq
            exact absurd rfl hn
          · exact ⟨w', k', c', r', hrest, hmakes⟩
    | started | drifted =>
      rw [recordOf, ih]
      refine or_congr_right ⟨?_, ?_⟩
      · rintro ⟨w', k', c', r', hmem, hmakes⟩
        exact ⟨w', k', c', r', List.mem_cons_of_mem _ hmem, hmakes⟩
      · rintro ⟨w', k', c', r', hmem, hmakes⟩
        exact ⟨w', k', c', r', (List.mem_cons.mp hmem).resolve_left nofun, hmakes⟩

section Own
variable {S : Shared Reply W} {accepts : Worker Reply Label → Prop} {blocks : Blocks Reply Label}
  {m : (k : Kind) → Reliance (Reply k) σ} {At : (k : Kind) → Option (Label k) → σ → Prop}
  {p q : Crew Reply Label W} {es es' : List (W × Event Reply)}

/-- **A thread follows its blocks to the end of any run**, from where its own events have moved
its record, if it reckons with every answer it is served. -/
theorem Shared.Rounds.follows (rounds : S.Rounds accepts blocks p es q)
    (hmay : ∀ {n k w c r w' s}, S.serve n k w c r w' → (m k).may s c r)
    (hblock : ∀ {k l s}, At k (some l) s →
      (blocks k l).Relies (m k) (fun next s => At k next s) s)
    {n : Nat} {t : Worker Reply Label} {s : σ} (ht : p.threads[n]? = some t)
    (hs : t.Relies m At s) :
    ∃ t', q.threads[n]? = some t' ∧ t'.Relies m At (recordOf m n es s) := by
  induction rounds generalizing t s with
  | nil => exact ⟨t, ht, hs⟩
  | step first _ ih =>
    cases first with
    | @call w w' ts n' k c r next runs served =>
      by_cases hn : n' = n
      · subst hn
        rw [recordOf, if_pos rfl]
        cases runs.symm.trans ht
        exact ih (List.getElem?_set_self (List.getElem?_eq_some_iff.mp ht).1) (hs.2 r (hmay served))
      · rw [recordOf, if_neg hn]
        exact ih ((List.getElem?_set_ne hn).trans ht) hs
    | start haccepts =>
      refine ih ?_ hs
      exact (List.getElem?_append_left (List.getElem?_eq_some_iff.mp ht).1).trans ht
    | drift hdrift => exact ih ht hs
  | @turn w ts n' k l q es runs _ ih =>
    by_cases hn : n' = n
    · subst hn
      cases runs.symm.trans ht
      exact ih (List.getElem?_set_self (List.getElem?_eq_some_iff.mp ht).1) (hblock hs)
    · exact ih ((List.getElem?_set_ne hn).trans ht) hs

/-- The first call of a run is allowed by the record that its thread begins with. -/
theorem Shared.Rounds.allowed_first {w : W} {n : Nat} {k : Kind} {c : Call k} {r : Reply k c}
    (rounds : S.Rounds accepts blocks p ((w, .called n k c r) :: es') q)
    (hblock : ∀ {k l s}, At k (some l) s →
      (blocks k l).Relies (m k) (fun next s => At k next s) s)
    {t : Worker Reply Label} {s : σ} (ht : p.threads[n]? = some t) (hs : t.Relies m At s) :
    (m k).allowed s c := by
  generalize hall : (w, Event.called n k c r) :: es' = all at rounds
  -- the thread turns from block to block before it makes the call
  induction rounds generalizing t with
  | nil => cases hall
  | step first _ _ =>
    obtain ⟨he, rfl⟩ := List.cons.inj hall
    cases first with
    | call runs served =>
      cases he
      cases runs.symm.trans ht
      exact hs.1
    | start haccepts => cases he
    | drift hdrift => cases he
  | @turn w₁ ts n' k' l q es₂ runs _ ih =>
    by_cases hn : n' = n
    · subst hn
      cases runs.symm.trans ht
      exact ih (List.getElem?_set_self (List.getElem?_eq_some_iff.mp ht).1) (hblock hs) hall
    · exact ih ((List.getElem?_set_ne hn).trans ht) hs hall

/-- **Every call of a thread is allowed** by the record of its events before. -/
theorem Shared.Rounds.allowed_call {w : W} {n : Nat} {k : Kind} {c : Call k} {r : Reply k c}
    (rounds : S.Rounds accepts blocks p (es ++ (w, .called n k c r) :: es') q)
    (hmay : ∀ {n k w c r w' s}, S.serve n k w c r w' → (m k).may s c r)
    (hblock : ∀ {k l s}, At k (some l) s →
      (blocks k l).Relies (m k) (fun next s => At k next s) s)
    {t : Worker Reply Label} {s : σ} (ht : p.threads[n]? = some t) (hs : t.Relies m At s) :
    (m k).allowed (recordOf m n es s) c := by
  obtain ⟨mid, first, second⟩ := rounds.of_append
  obtain ⟨t', ht', hrelies⟩ := first.follows hmay hblock ht hs
  exact second.allowed_first hblock ht' hrelies

theorem Shared.Rounds.kind_call {w : W} {n : Nat} {k : Kind} {c : Call k} {r : Reply k c}
    (rounds : S.Rounds accepts blocks p (es ++ (w, .called n k c r) :: es') q)
    {t : Worker Reply Label} (ht : p.threads[n]? = some t) : k = t.kind := by
  let kept (k : Kind) : Reliance (Reply k) Unit :=
    ⟨fun _ _ _ => (), fun _ _ => k = t.kind, fun _ _ _ => True⟩
  have hfree (k : Kind) (h : k = t.kind) (p : Prog (Reply k) (Option (Label k))) :
      p.Relies (kept k) (fun _ _ => k = t.kind) () :=
    Prog.relies_free (fun _ _ => h) fun _ _ => h
  have hstart : t.Relies kept (fun k _ _ => k = t.kind) () := hfree t.kind rfl t.rest
  have hallowed := rounds.allowed_call (fun _ => trivial) (fun h => hfree _ h _) ht hstart
  exact hallowed

end Own

/-! ## Relying on the world -/

/-- **The rule's premises.**  `agree n s w` says that the record `s` of the thread `n` agrees with
the world `w`; `inv N w` is the invariant of the world with `N` threads. -/
structure Relied (S : Shared Reply W) (accepts : Worker Reply Label → Prop)
    (blocks : Blocks Reply Label) (m : (k : Kind) → Reliance (Reply k) σ)
    (At : (k : Kind) → Option (Label k) → σ → Prop) (agree : Nat → σ → W → Prop)
    (inv : Nat → W → Prop) : Prop where
  block : ∀ {k l s}, At k (some l) s → (blocks k l).Relies (m k) (fun next s => At k next s) s
  /-- The world gives only answers that the thread reckons with. -/
  may : ∀ {n k w c r w' s N}, S.serve n k w c r w' → n < N → inv N w → agree n s w →
    (m k).allowed s c → (m k).may s c r
  /-- A step keeps the agreement of the thread that takes it, -/
  own : ∀ {n k w c r w' s N}, S.serve n k w c r w' → n < N → inv N w → agree n s w →
    (m k).allowed s c → agree n ((m k).after s c r) w'
  /-- and of every other. -/
  other : ∀ {n k w c r w' s n' s' N}, S.serve n k w c r w' → n < N → inv N w → agree n s w →
    (m k).allowed s c → n' ≠ n → agree n' s' w → agree n' s' w'
  drift : ∀ {w w' n s N}, S.drift w w' → inv N w → agree n s w → agree n s w'
  /-- A thread that starts relies on what it is given, from a record that agrees. -/
  fresh : ∀ {t n w}, accepts t → inv n w → ∃ s, t.Relies m At s ∧ agree n s w
  inv_serve : ∀ {n k w c r w' s N}, S.serve n k w c r w' → n < N → inv N w → agree n s w →
    (m k).allowed s c → inv N w'
  inv_drift : ∀ {w w' N}, S.drift w w' → inv N w → inv N w'
  inv_succ : ∀ {w N}, inv N w → inv (N + 1) w

namespace Relied
variable {S : Shared Reply W} {accepts : Worker Reply Label → Prop} {blocks : Blocks Reply Label}
  {m : (k : Kind) → Reliance (Reply k) σ} {At : (k : Kind) → Option (Label k) → σ → Prop}
  {agree : Nat → σ → W → Prop} {inv : Nat → W → Prop}

/-- The world is as it should be, and every thread relies on what it is given and agrees. -/
def Agrees (m : (k : Kind) → Reliance (Reply k) σ)
    (At : (k : Kind) → Option (Label k) → σ → Prop) (agree : Nat → σ → W → Prop)
    (inv : Nat → W → Prop) (p : Crew Reply Label W) : Prop :=
  p.Each inv fun n t w => ∃ s, t.Relies m At s ∧ agree n s w

theorem step (h : Relied S accepts blocks m At agree inv) {p p' : Crew Reply Label W}
    {e : Event Reply} (hp : Agrees m At agree inv p) (hstep : S.Step accepts p e p') :
    Agrees m At agree inv p' := by
  cases hstep with
  | @call w w' ts n k c r next runs served =>
    obtain ⟨s, hrelies, hagree⟩ := hp.2 n _ runs
    have hn : n < ts.length := (List.getElem?_eq_some_iff.mp runs).1
    have hallowed := hrelies.1
    have hmay := h.may served hn hp.1 hagree hallowed
    refine hp.set hn (h.inv_serve served hn hp.1 hagree hallowed)
      ⟨_, hrelies.2 r hmay, h.own served hn hp.1 hagree hallowed⟩ ?_
    rintro n' t hn' ⟨s', hrelies', hagree'⟩
    exact ⟨s', hrelies', h.other served hn hp.1 hagree hallowed hn' hagree'⟩
  | start haccepts => exact hp.start (h.inv_succ hp.1) (h.fresh haccepts hp.1)
  | drift hdrift =>
    refine hp.drift (h.inv_drift hdrift hp.1) ?_
    rintro n t ⟨s, hrelies, hagree⟩
    exact ⟨s, hrelies, h.drift hdrift hp.1 hagree⟩

theorem turn (h : Relied S accepts blocks m At agree inv) {w : W}
    {ts : List (Worker Reply Label)} {n : Nat} {k : Kind} {l : Label k}
    (runs : ts[n]? = some ⟨k, .pure (some l)⟩) (hp : Agrees m At agree inv ⟨w, ts⟩) :
    Agrees m At agree inv ⟨w, ts.set n ⟨k, blocks k l⟩⟩ := by
  obtain ⟨s, hrelies, hagree⟩ := hp.2 n _ runs
  have hn : n < ts.length := (List.getElem?_eq_some_iff.mp runs).1
  exact hp.set hn hp.1 ⟨s, h.block hrelies, hagree⟩ fun _ _ _ hfits => hfits

/-- **All threads agree in every state reached.** -/
theorem along (h : Relied S accepts blocks m At agree inv) {p q : Crew Reply Label W}
    {es : List (W × Event Reply)} (rounds : S.Rounds accepts blocks p es q)
    (hp : Agrees m At agree inv p) : Agrees m At agree inv q := by
  induction rounds with
  | nil => exact hp
  | step first _ ih => exact ih (h.step hp first)
  | turn runs _ ih => exact ih (h.turn runs hp)

/-- **Every call is made with a record that allows it and agrees with the world it finds**, and is
answered as the thread reckons. -/
theorem at_call (h : Relied S accepts blocks m At agree inv) {p q : Crew Reply Label W}
    {es : List (W × Event Reply)} (rounds : S.Rounds accepts blocks p es q)
    (hp : Agrees m At agree inv p) {w : W} {n : Nat} {k : Kind} {c : Call k} {r : Reply k c}
    (he : (w, .called n k c r) ∈ es) :
    ∃ N s, inv N w ∧ agree n s w ∧ (m k).allowed s c ∧ (m k).may s c r := by
  induction rounds with
  | nil => cases he
  | turn runs _ ih => exact ih (h.turn runs hp) he
  | step first _ ih =>
    cases List.mem_cons.mp he with
    | inr hrest => exact ih (h.step hp first) hrest
    | inl hfirst =>
      cases first with
      | call runs served =>
        cases hfirst
        obtain ⟨s, hrelies, hagree⟩ := hp.2 _ _ runs
        have hn := (List.getElem?_eq_some_iff.mp runs).1
        exact ⟨_, s, hp.1, hagree, hrelies.1, h.may served hn hp.1 hagree hrelies.1⟩
      | start haccepts => cases hfirst
      | drift hdrift => cases hfirst

/-- **A thread's own record agrees, too**: the one that its events in the run have made. -/
theorem follows (h : Relied S accepts blocks m At agree inv) {p q : Crew Reply Label W}
    {es : List (W × Event Reply)} (rounds : S.Rounds accepts blocks p es q)
    (hp : Agrees m At agree inv p) {n : Nat} {t : Worker Reply Label} {s : σ}
    (ht : p.threads[n]? = some t) (hs : t.Relies m At s) (hagree : agree n s p.world) :
    ∃ t', q.threads[n]? = some t' ∧ t'.Relies m At (recordOf m n es s) ∧
      agree n (recordOf m n es s) q.world := by
  induction rounds generalizing t s with
  | nil => exact ⟨t, ht, hs, hagree⟩
  | @step p p' q e es first _ ih =>
    have hp' := h.step hp first
    cases first with
    | @call w w' ts n' k c r next runs served =>
      obtain ⟨s', hrelies', hagree'⟩ := hp.2 n' _ runs
      have hn' := (List.getElem?_eq_some_iff.mp runs).1
      by_cases hn : n' = n
      · subst hn
        rw [recordOf, if_pos rfl]
        cases runs.symm.trans ht
        have hmay := h.may served hn' hp.1 hagree hs.1
        exact ih hp' (List.getElem?_set_self hn') (hs.2 r hmay)
          (h.own served hn' hp.1 hagree hs.1)
      · rw [recordOf, if_neg hn]
        exact ih hp' ((List.getElem?_set_ne hn).trans ht) hs
          (h.other served hn' hp.1 hagree' hrelies'.1 (Ne.symm hn) hagree)
    | start haccepts =>
      refine ih hp' ?_ hs hagree
      exact (List.getElem?_append_left (List.getElem?_eq_some_iff.mp ht).1).trans ht
    | drift hdrift => exact ih hp' ht hs (h.drift hdrift hp.1 hagree)
  | @turn w ts n' k l q es runs _ ih =>
    have hp' := h.turn runs hp
    by_cases hn : n' = n
    · subst hn
      cases runs.symm.trans ht
      exact ih hp' (List.getElem?_set_self (List.getElem?_eq_some_iff.mp ht).1) (h.block hs) hagree
    · exact ih hp' ((List.getElem?_set_ne hn).trans ht) hs hagree

/-- **Every call of the thread is allowed by the record of its events before**, which agrees with
the world that the call finds. -/
theorem allowed_call (h : Relied S accepts blocks m At agree inv) {p q : Crew Reply Label W}
    {es es' : List (W × Event Reply)} {w : W} {n : Nat} {k : Kind} {c : Call k} {r : Reply k c}
    (rounds : S.Rounds accepts blocks p (es ++ (w, .called n k c r) :: es') q)
    (hp : Agrees m At agree inv p) {t : Worker Reply Label} {s : σ}
    (ht : p.threads[n]? = some t) (hs : t.Relies m At s) (hagree : agree n s p.world) :
    (m k).allowed (recordOf m n es s) c ∧ agree n (recordOf m n es s) w := by
  obtain ⟨mid, first, second⟩ := rounds.of_append
  obtain ⟨t', ht', hrelies, hagree'⟩ := h.follows first hp ht hs hagree
  rw [second.world_eq] at hagree'
  exact ⟨second.allowed_first h.block ht' hrelies, hagree'⟩

end Relied

end Effects

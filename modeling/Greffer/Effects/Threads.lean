import Greffer.Effects.Program

/-! # Threads

Programs of several kinds run as threads over one shared world.  At each step one
thread makes its next call, a new thread starts, or the world changes by itself — the
clock advances.  A trace is the list of the events of a run, each with the world it
found, in any interleaving.

What a thread holds or has promised is followed by a **monitor**, a state of its own
that each of its calls moves on; a program that never brings its monitor out of the
states `ok` obeys (`Thread.Obeys`), which is a judgement about one program alone.  The
rule of the module puts the judgements together: if each thread's monitor **agrees**
with the shared world as far as that thread goes, and no step of another thread
disturbs the agreement (`Monitored`), then all threads agree in every state that any
interleaving reaches (`Monitored.along`).
-/
namespace Effects

variable {Kind : Type} {Call : Kind → Type}

/-- A thread: what is left of a program of some kind. -/
structure Thread (Reply : (k : Kind) → Call k → Type) (Result : Kind → Type) where
  kind : Kind
  rest : Prog (Reply kind) (Result kind)

/-- What the threads share: what the call of a thread, given by its number, may be
answered and do, and how the world changes by itself. -/
structure Shared (Reply : (k : Kind) → Call k → Type) (W : Type) where
  serve : Nat → (k : Kind) → W → (c : Call k) → Reply k c → W → Prop
  drift : W → W → Prop

/-- The world and the threads, by number. -/
structure Pool (Reply : (k : Kind) → Call k → Type) (Result : Kind → Type) (W : Type) where
  world : W
  threads : List (Thread Reply Result)

/-- What a step was. -/
inductive Event (Reply : (k : Kind) → Call k → Type) where
  | called (thread : Nat) (kind : Kind) (c : Call kind) (r : Reply kind c)
  | started (thread : Nat)
  | drifted

variable {Reply : (k : Kind) → Call k → Type} {Result : Kind → Type} {W σ : Type}

/-- **One step** of the pool; `accepts` says what threads may start. -/
inductive Shared.Step (S : Shared Reply W) (accepts : Thread Reply Result → Prop) :
    Pool Reply Result W → Event Reply → Pool Reply Result W → Prop
  | call {w w' : W} {ts : List (Thread Reply Result)} {n : Nat} {k : Kind} {c : Call k}
      {r : Reply k c} {next : Reply k c → Prog (Reply k) (Result k)}
      (runs : ts[n]? = some ⟨k, .call c next⟩) (served : S.serve n k w c r w') :
      Step S accepts ⟨w, ts⟩ (.called n k c r) ⟨w', ts.set n ⟨k, next r⟩⟩
  | start {w : W} {ts : List (Thread Reply Result)} {t : Thread Reply Result} (h : accepts t) :
      Step S accepts ⟨w, ts⟩ (.started ts.length) ⟨w, ts ++ [t]⟩
  | drift {w w' : W} {ts : List (Thread Reply Result)} (h : S.drift w w') :
      Step S accepts ⟨w, ts⟩ .drifted ⟨w', ts⟩

/-- **A run**: its events in order, each with the world before it. -/
inductive Shared.Trace (S : Shared Reply W) (accepts : Thread Reply Result → Prop) :
    Pool Reply Result W → List (W × Event Reply) → Pool Reply Result W → Prop
  | nil (p : Pool Reply Result W) : Trace S accepts p [] p
  | cons {p p' q : Pool Reply Result W} {e : Event Reply} {es : List (W × Event Reply)}
      (step : S.Step accepts p e p') (rest : Trace S accepts p' es q) :
      Trace S accepts p ((p.world, e) :: es) q

/-- Once a thread has started, a thread is one of those before, or the new one. -/
theorem thread_of_started {α : Type} {ts : List α} {t t' : α} {n : Nat}
    (h : (ts ++ [t])[n]? = some t') : ts[n]? = some t' ∨ n = ts.length ∧ t' = t := by
  by_cases hn : n < ts.length
  · rw [List.getElem?_append_left hn] at h
    exact .inl h
  · rw [List.getElem?_append_right (Nat.not_lt.mp hn), List.getElem?_singleton] at h
    split at h
    · cases h
      exact .inr ⟨by omega, rfl⟩
    · cases h

namespace Shared.Trace
variable {S : Shared Reply W} {accepts : Thread Reply Result → Prop}
  {p q : Pool Reply Result W} {es es' : List (W × Event Reply)}

theorem of_append (h : S.Trace accepts p (es ++ es') q) :
    ∃ m, S.Trace accepts p es m ∧ S.Trace accepts m es' q := by
  induction es generalizing p with
  | nil => exact ⟨p, .nil p, h⟩
  | cons e es ih =>
    cases h with
    | cons step rest =>
      obtain ⟨m, first, second⟩ := ih rest
      exact ⟨m, .cons step first, second⟩

theorem of_cons {w : W} {e : Event Reply} (h : S.Trace accepts p ((w, e) :: es) q) :
    p.world = w ∧ ∃ m, S.Step accepts p e m ∧ S.Trace accepts m es q := by
  cases h with
  | cons step rest => exact ⟨rfl, _, step, rest⟩

theorem append {m : Pool Reply Result W} (h : S.Trace accepts p es m)
    (h' : S.Trace accepts m es' q) : S.Trace accepts p (es ++ es') q := by
  induction h with
  | nil => exact h'
  | cons step _ ih => exact .cons step (ih h')

/-- **What one step preserves, a run preserves.** -/
theorem invariant {I : Pool Reply Result W → Prop} (h : S.Trace accepts p es q)
    (hstep : ∀ p e p', I p → S.Step accepts p e p' → I p') (hp : I p) : I q := by
  induction h with
  | nil => exact hp
  | cons step _ ih => exact ih (hstep _ _ _ hp step)

end Shared.Trace

/-! ## One thread running alone -/

/-- The events of at most `m` calls of the thread `n`, each answered by `h`. -/
def eventsFor {k : Kind} (h : W → (c : Call k) → Reply k c × W) (n : Nat) :
    Nat → Prog (Reply k) (Result k) → W → List (W × Event Reply)
  | 0, _, _ => []
  | _ + 1, .pure _, _ => []
  | m + 1, .call c next, w =>
    (w, .called n k c (h w c).1) :: eventsFor h n m (next (h w c).1) (h w c).2

/-- A thread that runs alone for a while, in an environment the machine allows. -/
theorem Shared.Trace.alone {S : Shared Reply W} {accepts : Thread Reply Result → Prop} {k : Kind}
    {h : W → (c : Call k) → Reply k c × W} {n : Nat}
    (hserve : ∀ w c, S.serve n k w c (h w c).1 (h w c).2) (m : Nat)
    (p : Prog (Reply k) (Result k)) (w : W) (ts : List (Thread Reply Result))
    (hn : ts[n]? = some ⟨k, p⟩) :
    S.Trace accepts ⟨w, ts⟩ (eventsFor h n m p w)
      ⟨(p.evalFor h m w).1, ts.set n ⟨k, (p.evalFor h m w).2⟩⟩ := by
  induction m generalizing p w ts with
  | zero =>
    obtain ⟨hlt, heq⟩ := List.getElem?_eq_some_iff.mp hn
    have hset : ts.set n ⟨k, p⟩ = ts := by
      rw [← heq]
      exact List.set_getElem_self hlt
    simp only [eventsFor, Prog.evalFor, hset]
    exact .nil _
  | succ m ih =>
    cases p with
    | pure a =>
      obtain ⟨hlt, heq⟩ := List.getElem?_eq_some_iff.mp hn
      have hset : ts.set n ⟨k, .pure a⟩ = ts := by
        rw [← heq]
        exact List.set_getElem_self hlt
      simp only [eventsFor, Prog.evalFor, hset]
      exact .nil _
    | call c next =>
      have hlt := (List.getElem?_eq_some_iff.mp hn).1
      have hrest := ih (next (h w c).1) (h w c).2 (ts.set n ⟨k, next (h w c).1⟩)
        (List.getElem?_set_self hlt)
      rw [List.set_set] at hrest
      exact .cons (.call hn (hserve w c)) hrest

/-! ## Guards -/

/-- The same table, where calls are made only in worlds the guard allows. -/
def Shared.guard (S : Shared Reply W) (ok : W → (k : Kind) → Call k → Prop) : Shared Reply W where
  serve n k w c r w' := ok w k c ∧ S.serve n k w c r w'
  drift := S.drift

/-- A step of a run meets the guard. -/
def Meets (ok : W → (k : Kind) → Call k → Prop) : W × Event Reply → Prop
  | (w, .called _ k c _) => ok w k c
  | _ => True

theorem Shared.Step.guard {S : Shared Reply W} {accepts : Thread Reply Result → Prop}
    {ok : W → (k : Kind) → Call k → Prop} {p p' : Pool Reply Result W} {e : Event Reply}
    (h : S.Step accepts p e p') (hmeets : Meets ok (p.world, e)) :
    (S.guard ok).Step accepts p e p' := by
  cases h with
  | call runs served => exact .call runs ⟨hmeets, served⟩
  | start haccepts => exact .start haccepts
  | drift hdrift => exact .drift hdrift

/-- A run whose steps meet the guard is a run of the guarded table. -/
theorem Shared.Trace.guard {S : Shared Reply W} {accepts : Thread Reply Result → Prop}
    {ok : W → (k : Kind) → Call k → Prop} {p q : Pool Reply Result W} {es : List (W × Event Reply)}
    (h : S.Trace accepts p es q) (hmeets : ∀ e ∈ es, Meets ok e) :
    (S.guard ok).Trace accepts p es q := by
  induction h with
  | nil p => exact .nil p
  | cons step _ ih =>
    exact .cons (step.guard (hmeets _ List.mem_cons_self))
      (ih fun e he => hmeets e (List.mem_cons_of_mem _ he))

/-! ## What a result tells of the run -/

/-- As long as no answer it is given decides, the thread returns only what meets `ok`. -/
def Thread.Unless (decides : (k : Kind) → (c : Call k) → Reply k c → Prop)
    (ok : (k : Kind) → Result k → Prop) (t : Thread Reply Result) : Prop :=
  t.rest.Always (⟨fun _ c r _ => ¬ decides t.kind c r⟩ : Machine (Reply t.kind) Unit)
    (fun _ => True) (fun a _ => ok t.kind a) ()

/-- **A thread is where no answer has decided, or one of its events has.** -/
theorem Shared.Trace.unless_or_decided {S : Shared Reply W}
    {accepts : Thread Reply Result → Prop} {p q : Pool Reply Result W} {es : List (W × Event Reply)}
    {decides : (k : Kind) → (c : Call k) → Reply k c → Prop} {ok : (k : Kind) → Result k → Prop}
    (h : S.Trace accepts p es q) (haccepts : ∀ t, accepts t → t.Unless decides ok) (n : Nat)
    (hp : ∀ t, p.threads[n]? = some t → t.Unless decides ok) {t : Thread Reply Result}
    (hq : q.threads[n]? = some t) :
    t.Unless decides ok ∨ ∃ w k c r, (w, .called n k c r) ∈ es ∧ decides k c r := by
  induction h with
  | nil p => exact .inl (hp t hq)
  | cons step rest ih =>
    cases step with
    | @call w w' ts m k c r next runs served =>
      by_cases hdecides : m = n ∧ decides k c r
      · obtain ⟨rfl, hdecides⟩ := hdecides
        exact .inr ⟨w, k, c, r, List.mem_cons_self, hdecides⟩
      · refine (ih (fun t' ht' => ?_) hq).imp_right fun ⟨w, k, c, r, hmem, hd⟩ =>
          ⟨w, k, c, r, List.mem_cons_of_mem _ hmem, hd⟩
        dsimp only at ht'
        by_cases hm : m = n
        · subst hm
          rw [List.getElem?_set_self (List.getElem?_eq_some_iff.mp runs).1] at ht'
          cases ht'
          exact (hp _ runs).2 r () fun hd => hdecides ⟨rfl, hd⟩
        · rw [List.getElem?_set_ne hm] at ht'
          exact hp t' ht'
    | @start w ts t' haccepted =>
      refine (ih (fun t'' ht'' => ?_) hq).imp_right fun ⟨w, k, c, r, hmem, hd⟩ =>
        ⟨w, k, c, r, List.mem_cons_of_mem _ hmem, hd⟩
      dsimp only at ht''
      rcases thread_of_started ht'' with hold | ⟨rfl, rfl⟩
      · exact hp t'' hold
      · exact haccepts t'' haccepted
    | drift hdrift =>
      exact (ih hp hq).imp_right fun ⟨w, k, c, r, hmem, hd⟩ =>
        ⟨w, k, c, r, List.mem_cons_of_mem _ hmem, hd⟩

/-! ## Monitors -/

/-- A state beside each thread, moved on by its calls. -/
structure Monitor (Reply : (k : Kind) → Call k → Type) (σ : Type) where
  after : (k : Kind) → σ → (c : Call k) → Reply k c → σ

/-- The monitor of one kind of program, as a machine. -/
def Monitor.machine (m : Monitor Reply σ) (k : Kind) : Machine (Reply k) σ where
  serve s c r s' := s' = m.after k s c r

/-- Whatever it is answered, the thread keeps its monitor within `ok`. -/
def Thread.Obeys (m : Monitor Reply σ) (ok : σ → Prop) (t : Thread Reply Result) (s : σ) : Prop :=
  t.rest.Always (m.machine t.kind) ok (fun _ _ => True) s

theorem Thread.Obeys.next {m : Monitor Reply σ} {ok : σ → Prop} {k : Kind} {c : Call k}
    {next : Reply k c → Prog (Reply k) (Result k)} {s : σ}
    (h : Thread.Obeys m ok (⟨k, .call c next⟩ : Thread Reply Result) s) (r : Reply k c) :
    ok (m.after k s c r) ∧
      Thread.Obeys m ok (⟨k, next r⟩ : Thread Reply Result) (m.after k s c r) := by
  have hnext := h.2 r _ rfl
  exact ⟨hnext.inv, hnext⟩

/-- The thread also returns with its monitor in one of the states `ended`. -/
def Thread.Settles (m : Monitor Reply σ) (ok ended : σ → Prop) (t : Thread Reply Result) (s : σ) :
    Prop :=
  t.rest.Always (m.machine t.kind) ok (fun _ s => ended s) s

theorem Thread.Settles.next {m : Monitor Reply σ} {ok ended : σ → Prop} {k : Kind} {c : Call k}
    {next : Reply k c → Prog (Reply k) (Result k)} {s : σ}
    (h : Thread.Settles m ok ended (⟨k, .call c next⟩ : Thread Reply Result) s) (r : Reply k c) :
    ok (m.after k s c r) ∧
      Thread.Settles m ok ended (⟨k, next r⟩ : Thread Reply Result) (m.after k s c r) := by
  have hnext := h.2 r _ rfl
  exact ⟨hnext.inv, hnext⟩

/-- Nothing is left of the thread's program. -/
def Thread.Returned (t : Thread Reply Result) : Prop := ∃ a, t.rest = .pure a

/-- A thread that has returned has its monitor in a state `ended`. -/
theorem Thread.Settles.ended_of_returned {m : Monitor Reply σ} {ok ended : σ → Prop}
    {t : Thread Reply Result} {s : σ} (h : t.Settles m ok ended s) (hreturned : t.Returned) :
    ended s := by
  obtain ⟨a, ha⟩ := hreturned
  unfold Thread.Settles at h
  rw [ha] at h
  exact h.2

/-! ## Every thread of a pool -/

/-- The world is as it should be with so many threads, and each of them fits it. -/
def Pool.Each (inv : Nat → W → Prop) (Fits : Nat → Thread Reply Result → W → Prop)
    (p : Pool Reply Result W) : Prop :=
  inv p.threads.length p.world ∧ ∀ n t, p.threads[n]? = some t → Fits n t p.world

namespace Pool.Each
variable {inv : Nat → W → Prop} {Fits : Nat → Thread Reply Result → W → Prop} {w w' : W}
  {ts : List (Thread Reply Result)} {t : Thread Reply Result}

/-- One thread goes on, and the others still fit. -/
theorem set (h : Pool.Each inv Fits ⟨w, ts⟩) {n : Nat} (hn : n < ts.length)
    (hinv : inv ts.length w') (hown : Fits n t w')
    (hother : ∀ n' t', n' ≠ n → Fits n' t' w → Fits n' t' w') :
    Pool.Each inv Fits ⟨w', ts.set n t⟩ := by
  refine ⟨?_, fun n' t' ht => ?_⟩
  · dsimp only
    rwa [List.length_set]
  · dsimp only at ht
    by_cases hn' : n' = n
    · subst hn'
      rw [List.getElem?_set_self hn] at ht
      cases ht
      exact hown
    · rw [List.getElem?_set_ne (Ne.symm hn')] at ht
      exact hother n' t' hn' (h.2 n' t' ht)

theorem start (h : Pool.Each inv Fits ⟨w, ts⟩) (hinv : inv (ts.length + 1) w)
    (ht : Fits ts.length t w) : Pool.Each inv Fits ⟨w, ts ++ [t]⟩ := by
  refine ⟨?_, fun n' t' ht' => ?_⟩
  · dsimp only
    rwa [List.length_append]
  · dsimp only at ht'
    rcases thread_of_started ht' with hold | ⟨rfl, rfl⟩
    · exact h.2 n' t' hold
    · exact ht

theorem drift (h : Pool.Each inv Fits ⟨w, ts⟩) (hinv : inv ts.length w')
    (hfits : ∀ n t, Fits n t w → Fits n t w') : Pool.Each inv Fits ⟨w', ts⟩ :=
  ⟨hinv, fun n t ht => hfits n t (h.2 n t ht)⟩

end Pool.Each

/-- **The rule's premises.**  `agree n s w` says that the monitor `s` of the thread `n`
agrees with the world `w`; `bounded n w`, that the world knows only of threads below
`n`. -/
structure Supervised (S : Shared Reply W) (accepts : Thread Reply Result → Prop)
    (m : Monitor Reply σ) (ok ended : σ → Prop) (agree : Nat → σ → W → Prop)
    (bounded : Nat → W → Prop) : Prop where
  /-- A step keeps the agreement of the thread that takes it, -/
  own : ∀ {n k w c r w' s}, S.serve n k w c r w' → agree n s w → ok (m.after k s c r) →
    agree n (m.after k s c r) w'
  /-- and of every other. -/
  other : ∀ {n k w c r w' s n' s'}, S.serve n k w c r w' → agree n s w → ok (m.after k s c r) →
    n' ≠ n → agree n' s' w → agree n' s' w'
  drift : ∀ {w w' n s}, S.drift w w' → agree n s w → agree n s w'
  /-- A thread that starts settles, from a monitor that agrees. -/
  fresh : ∀ {t n w}, accepts t → bounded n w → ∃ s, t.Settles m ok ended s ∧ agree n s w
  bounded_serve : ∀ {n k w c r w' s N}, S.serve n k w c r w' → agree n s w →
    ok (m.after k s c r) → n < N → bounded N w → bounded N w'
  bounded_drift : ∀ {w w' N}, S.drift w w' → bounded N w → bounded N w'
  bounded_succ : ∀ {w N}, bounded N w → bounded (N + 1) w

namespace Supervised
variable {S : Shared Reply W} {accepts : Thread Reply Result → Prop} {m : Monitor Reply σ}
  {ok ended : σ → Prop} {agree : Nat → σ → W → Prop} {bounded : Nat → W → Prop}

/-- Every thread settles and agrees. -/
def Agrees (m : Monitor Reply σ) (ok ended : σ → Prop) (agree : Nat → σ → W → Prop)
    (bounded : Nat → W → Prop) (p : Pool Reply Result W) : Prop :=
  p.Each bounded fun n t w => ∃ s, t.Settles m ok ended s ∧ agree n s w

theorem step (h : Supervised S accepts m ok ended agree bounded) {p p' : Pool Reply Result W}
    {e : Event Reply} (hp : Agrees m ok ended agree bounded p) (hstep : S.Step accepts p e p') :
    Agrees m ok ended agree bounded p' := by
  cases hstep with
  | @call w w' ts n k c r next runs served =>
    obtain ⟨s, hsettles, hagree⟩ := hp.2 n _ runs
    obtain ⟨hok, hnext⟩ := hsettles.next r
    have hn : n < ts.length := (List.getElem?_eq_some_iff.mp runs).1
    refine hp.set hn (h.bounded_serve served hagree hok hn hp.1)
      ⟨_, hnext, h.own served hagree hok⟩ ?_
    rintro n' t hn' ⟨s', hsettles', hagree'⟩
    exact ⟨s', hsettles', h.other served hagree hok hn' hagree'⟩
  | start haccepts => exact hp.start (h.bounded_succ hp.1) (h.fresh haccepts hp.1)
  | drift hdrift =>
    refine hp.drift (h.bounded_drift hdrift hp.1) ?_
    rintro n t ⟨s, hsettles, hagree⟩
    exact ⟨s, hsettles, h.drift hdrift hagree⟩

/-- **All threads agree in every state reached.** -/
theorem along (h : Supervised S accepts m ok ended agree bounded) {p q : Pool Reply Result W}
    {es : List (W × Event Reply)} (trace : S.Trace accepts p es q)
    (hp : Agrees m ok ended agree bounded p) : Agrees m ok ended agree bounded q :=
  trace.invariant (fun _ _ _ => h.step) hp

end Supervised

/-- The premises of the rule for threads that only obey. -/
abbrev Monitored (S : Shared Reply W) (accepts : Thread Reply Result → Prop)
    (m : Monitor Reply σ) (ok : σ → Prop) (agree : Nat → σ → W → Prop)
    (bounded : Nat → W → Prop) : Prop :=
  Supervised S accepts m ok (fun _ => True) agree bounded

namespace Monitored
variable {S : Shared Reply W} {accepts : Thread Reply Result → Prop} {m : Monitor Reply σ}
  {ok : σ → Prop} {agree : Nat → σ → W → Prop} {bounded : Nat → W → Prop}

/-- Every thread obeys and agrees. -/
def Agrees (m : Monitor Reply σ) (ok : σ → Prop) (agree : Nat → σ → W → Prop)
    (bounded : Nat → W → Prop) (p : Pool Reply Result W) : Prop :=
  p.Each bounded fun n t w => ∃ s, t.Obeys m ok s ∧ agree n s w

theorem step (h : Monitored S accepts m ok agree bounded) {p p' : Pool Reply Result W}
    {e : Event Reply} (hp : Agrees m ok agree bounded p) (hstep : S.Step accepts p e p') :
    Agrees m ok agree bounded p' :=
  Supervised.step h hp hstep

/-- **All threads agree in every state reached.** -/
theorem along (h : Monitored S accepts m ok agree bounded) {p q : Pool Reply Result W}
    {es : List (W × Event Reply)} (trace : S.Trace accepts p es q)
    (hp : Agrees m ok agree bounded p) : Agrees m ok agree bounded q :=
  Supervised.along h trace hp

end Monitored

end Effects

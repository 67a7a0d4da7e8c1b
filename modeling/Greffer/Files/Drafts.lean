import Greffer.Files.Disk

/-! # Drafts

A thread with something to publish makes a file under a name of its own, fills it, and renames it
onto the target.  What it has done so far is its `Draft`; `drafting` says which calls that allows.

The file of a draft belongs to the thread that made it and stands under no target, so no other
thread's call reaches it (`Drafted.other`), and a file that stands under a target is nobody's draft
any more, so it never changes.  From this the rule of the module: in every state that threads which
keep to `drafting` reach, every target holds its first file or the whole text of one of them
(`Filed.along`).
-/
namespace Files
open Effects

variable {E : Type}

/-- What a thread publishes, where, whether it promises to have it on the disk by then, and upon
which exceptions it promises to take its draft away. -/
structure Job (E : Type) where
  target : Path
  text : String
  syncs : Bool
  cleans : E → Bool

/-- What a thread has done towards it. -/
structure Draft where
  made : Option (Nat × Path) := none
  /-- What it has handed over, as far as that is known. -/
  text : Option String := some ""
  /-- All of that has arrived. -/
  arrived : Bool := false
  synced : Bool := false
  published : Bool := false
  /-- The draft's own name is free again. -/
  gone : Bool := false
  /-- It could not be taken away. -/
  stuck : Bool := false

/-- The thread has a draft in the making. -/
def Draft.Holds (s : Draft) (fd : Nat) (tmp : Path) : Prop :=
  s.made = some (fd, tmp) ∧ s.gone = false

/-- Nothing is left of the draft that could be taken away. -/
def Draft.Settled (s : Draft) : Prop := s.made = none ∨ s.gone = true ∨ s.stuck = true

/-- All of the text is there, as safe as was promised. -/
structure Draft.Ready (s : Draft) (job : Job E) : Prop where
  text : s.text = some job.text
  arrived : s.arrived = true
  synced : job.syncs = true → s.synced = true

/-- **The discipline**, for a job that was given, where calls raise only `faults`. -/
def drafting (faults : FileCall E → E → Prop) (jobs : Job E → Prop) (job : Job E) :
    Reliance (Raises (FileCall.Answer (E := E)) E) Draft where
  after s
    | .mkstemp _ _ _, .ok made =>
      { s with made := some made, text := some "", arrived := false, synced := false }
    | .write _ text, .ok () =>
      { s with text := s.text.map (· ++ text), arrived := false, synced := false }
    | .write _ _, .error _ | .flush _, .error _ | .close _, .error _ =>
      { s with text := none, arrived := false, synced := false }
    | .flush _, .ok () | .close _, .ok () => { s with arrived := true }
    | .fsync _, .ok () => { s with synced := s.arrived }
    | .replace _ _, .ok () => { s with published := true, gone := true }
    | .unlink _, .ok () | .exists _, .ok false => { s with gone := true }
    | .unlink _, .error _ => { s with stuck := true }
    | _, _ => s
  allowed s
    | .mkstemp _ _ _ => s.made = none
    | .write fd _ | .flush fd | .fsync fd | .close fd => ∃ tmp, s.Holds fd tmp
    | .chmod path mode => mode = 0o600 ∧ ∃ fd, s.Holds fd path
    | .unlink path | .exists path => ∃ fd, s.Holds fd path
    | .replace tmp path => jobs job ∧ path = job.target ∧ s.Ready job ∧ ∃ fd, s.Holds fd tmp
    | .report (.ok ()) => s.published = true
    | .report (.error e) => s.published = false ∧ (job.cleans e = true → s.Settled)
    | .makedirs _ | .fdopen _ => True
  may _ c r := ∀ e, r = .error e → faults c e

/-- A file is what a draft says it is. -/
structure Filled (s : Draft) (f : File) : Prop where
  written : ∀ t, s.text = some t → f.written = t
  arrived : s.arrived = true → f.stored = f.written
  synced : s.synced = true → f.synced = true ∧ s.arrived = true
  mode : f.mode = 0o600

/-- The thread `n` has its draft to itself. -/
structure Owned (targets : Path → Prop) (n : Nat) (s : Draft) (fd : Nat) (tmp : Path) (w : Disk) :
    Prop where
  known : fd < w.opened
  owner : w.owner fd = some n
  named : w.names tmp = some fd
  aside : ¬ targets tmp
  fresh : ∀ p, targets p → some fd ∉ w.past p
  filled : Filled s (w.files fd)

def Drafted (targets : Path → Prop) (n : Nat) (s : Draft) (w : Disk) : Prop :=
  ∀ fd tmp, s.Holds fd tmp → Owned targets n s fd tmp w

/-! ## What a step can do -/

section Moves
variable {targets : Path → Prop} {jobs : Job E → Prop} {job : Job E} {n : Nat} {s s' : Draft}
  {w w' : Disk} {faults : FileCall E → E → Prop}

/-- **One step of a thread that keeps to it**, with its draft before and after. -/
inductive Move (targets : Path → Prop) (jobs : Job E → Prop) (job : Job E) (n : Nat) (s : Draft)
    (w : Disk) : Draft → Disk → Prop
  | stay {s' : Draft} (made : s'.made = s.made) (gone : s'.gone = false → s.gone = false)
      (filled : ∀ f, Filled s f → Filled s' f) : Move targets jobs job n s w s' w
  | make {tmp : Path} (free : w.names tmp = none) (aside : ¬ targets tmp) :
      Move targets jobs job n s w
        { s with made := some (w.opened, tmp), text := some "", arrived := false, synced := false }
        (w.make n tmp)
  | put {fd : Nat} {tmp : Path} {f : File} {s' : Draft} (holds : s.Holds fd tmp)
      (made : s'.made = s.made) (gone : s'.gone = s.gone)
      (filled : Filled s (w.files fd) → Filled s' f) : Move targets jobs job n s w s' (w.put fd f)
  | drop {fd : Nat} {tmp : Path} {s' : Draft} (holds : s.Holds fd tmp) (gone : s'.gone = true) :
      Move targets jobs job n s w s' (w.rename tmp none)
  | publish {fd : Nat} {tmp : Path} {s' : Draft} (holds : s.Holds fd tmp) (given : jobs job)
      (ready : s.Ready job) (gone : s'.gone = true) :
      Move targets jobs job n s w s' ((w.rename tmp none).rename job.target (some fd))

theorem Move.same : Move targets jobs job n s w s w := .stay rfl id fun _ => id

theorem Draft.Holds.unique {fd fd' : Nat} {tmp tmp' : Path} (h : s.Holds fd tmp)
    (h' : s.Holds fd' tmp') : fd = fd' ∧ tmp = tmp' := by
  have heq := h.1.symm.trans h'.1
  simpa using heq

/-- **An allowed call is one of these.** -/
theorem move_of_serve {c : FileCall E} {r : Raises FileCall.Answer E c}
    (served : serve targets n w c r w') (hallowed : (drafting faults jobs job).allowed s c)
    (hdraft : Drafted targets n s w) :
    Move targets jobs job n s w ((drafting faults jobs job).after s c r) w' := by
  cases c with
  | makedirs | fdopen =>
    cases served
    exact .same
  | report =>
    obtain ⟨-, rfl⟩ := served
    exact .same
  | «exists» path =>
    obtain ⟨rfl, rfl⟩ := served
    cases (w'.names path).isSome with
    | true => exact .same
    | false => exact .stay rfl nofun fun _ h => ⟨h.written, h.arrived, h.synced, h.mode⟩
  | mkstemp dir pre suf =>
    cases r with
    | error e =>
      cases served
      exact .same
    | ok made =>
      obtain ⟨fd, tmp⟩ := made
      obtain ⟨rfl, -, hfree, haside, rfl⟩ := served
      exact .make hfree haside
  | write fd text =>
    obtain ⟨tmp, hholds⟩ := hallowed
    cases r with
    | error e =>
      obtain ⟨written, stored, -, -, rfl⟩ := served
      exact .put hholds rfl rfl fun h => ⟨nofun, nofun, nofun, h.mode⟩
    | ok u =>
      obtain ⟨stored, -, rfl⟩ := served
      refine .put hholds rfl rfl fun h => ⟨fun t ht => ?_, nofun, nofun, h.mode⟩
      obtain ⟨t', ht', rfl⟩ := Option.map_eq_some_iff.mp ht
      rw [h.written t' ht']
  | flush fd | close fd =>
    obtain ⟨tmp, hholds⟩ := hallowed
    cases r with
    | error e =>
      obtain ⟨stored, -, rfl⟩ := served
      exact .put hholds rfl rfl fun h => ⟨nofun, nofun, nofun, h.mode⟩
    | ok u =>
      cases served
      refine .put hholds rfl rfl fun h => ⟨h.written, fun _ => rfl, fun hs => ?_, h.mode⟩
      obtain ⟨hsynced, harrived⟩ := h.synced hs
      exact ⟨by simp [hsynced, h.arrived harrived], rfl⟩
  | fsync fd =>
    obtain ⟨tmp, hholds⟩ := hallowed
    cases r with
    | error e =>
      cases served
      exact .same
    | ok u =>
      cases served
      exact .put hholds rfl rfl fun h => ⟨h.written, h.arrived, fun hs => ⟨rfl, hs⟩, h.mode⟩
  | chmod path mode =>
    obtain ⟨rfl, fd, hholds⟩ := hallowed
    cases r with
    | error e =>
      cases served
      exact .same
    | ok u =>
      obtain ⟨i, hnamed, rfl⟩ := served
      obtain rfl : fd = i := Option.some.inj ((hdraft fd path hholds).named.symm.trans hnamed)
      exact .put hholds rfl rfl fun h => ⟨h.written, h.arrived, h.synced, rfl⟩
  | replace tmp path =>
    obtain ⟨hgiven, rfl, hready, fd, hholds⟩ := hallowed
    cases r with
    | error e =>
      cases served
      exact .same
    | ok u =>
      obtain ⟨i, hnamed, rfl⟩ := served
      obtain rfl : fd = i := Option.some.inj ((hdraft fd tmp hholds).named.symm.trans hnamed)
      exact .publish hholds hgiven hready rfl
  | unlink path =>
    obtain ⟨fd, hholds⟩ := hallowed
    cases r with
    | error e =>
      cases served
      exact .stay rfl id fun _ h => ⟨h.written, h.arrived, h.synced, h.mode⟩
    | ok u =>
      obtain ⟨-, rfl⟩ := served
      exact .drop hholds rfl

/-! ## What it leaves -/

/-- What has to be so of the jobs: each has its target among the targets. -/
def Aimed (targets : Path → Prop) (jobs : Job E → Prop) : Prop := ∀ job, jobs job → targets job.target

/-- A draft of another name, which is not the one that is renamed, stays what it is. -/
theorem Owned.rename {m fd : Nat} {tmp p : Path} {i : Option Nat}
    (h : Owned targets m s fd tmp w) (hp : tmp ≠ p) (hi : i ≠ some fd) :
    Owned targets m s fd tmp (w.rename p i) where
  known := h.known
  owner := h.owner
  named := (Function.update_of_ne hp _ _).trans h.named
  aside := h.aside
  fresh q hq := by
    by_cases hqp : q = p
    · subst hqp
      have hpast : (w.rename q i).past q = i :: w.past q := Function.update_self _ _ _
      rw [hpast]
      exact List.not_mem_cons_of_ne_of_not_mem hi.symm (h.fresh q hq)
    · have hpast : (w.rename p i).past q = w.past q := Function.update_of_ne hqp _ _
      rw [hpast]
      exact h.fresh q hq
  filled := h.filled

theorem Owned.put {m fd fd' : Nat} {tmp : Path} {f : File} (h : Owned targets m s fd tmp w)
    (hfd : fd ≠ fd') : Owned targets m s fd tmp (w.put fd' f) where
  known := h.known
  owner := h.owner
  named := h.named
  aside := h.aside
  fresh := h.fresh
  filled := by
    have hfile : (w.put fd' f).files fd = w.files fd := Function.update_of_ne hfd _ _
    rw [hfile]
    exact h.filled

theorem Owned.grow {m m' fd : Nat} {tmp : Path} (h : Owned targets m s fd tmp w) :
    Owned targets m s fd tmp (w.grow m') where
  known := Nat.lt_succ_of_lt h.known
  owner := (Function.update_of_ne (Nat.ne_of_lt h.known) _ _).trans h.owner
  named := h.named
  aside := h.aside
  fresh := h.fresh
  filled := by
    have hfile : (w.grow m').files fd = w.files fd :=
      Function.update_of_ne (Nat.ne_of_lt h.known) _ _
    rw [hfile]
    exact h.filled

/-- **No other thread's step reaches a draft.** -/
theorem Move.other {m : Nat} {t : Draft} (h : Move targets jobs job n s w s' w')
    (haimed : Aimed targets jobs) (hdraft : Drafted targets n s w) (hm : m ≠ n)
    (hother : Drafted targets m t w) : Drafted targets m t w' := by
  intro fd tmp hholds
  have howned := hother fd tmp hholds
  have hapart {fd' : Nat} {tmp' : Path} (hholds' : s.Holds fd' tmp') : fd ≠ fd' ∧ tmp ≠ tmp' := by
    have howned' := hdraft fd' tmp' hholds'
    have hfd : fd ≠ fd' := by
      rintro rfl
      exact hm (Option.some.inj (howned.owner.symm.trans howned'.owner))
    refine ⟨hfd, ?_⟩
    rintro rfl
    exact hfd (Option.some.inj (howned.named.symm.trans howned'.named))
  cases h with
  | stay => exact howned
  | @make tmp' hfree =>
    refine howned.grow.rename ?_ ?_
    · rintro rfl
      exact nomatch hfree.symm.trans howned.named
    · exact fun h => Nat.ne_of_gt howned.known (Option.some.inj h)
  | put holds' => exact howned.put (hapart holds').1
  | drop holds' => exact howned.rename (hapart holds').2 nofun
  | @publish fd' tmp' s' holds' given =>
    have hdropped : Owned targets m t fd tmp (w.rename tmp' none) :=
      howned.rename (hapart holds').2 nofun
    refine hdropped.rename ?_ fun h => (hapart holds').1 (Option.some.inj h).symm
    rintro rfl
    exact howned.aside (haimed job given)

/-- **A thread's own step leaves it its draft.** -/
theorem Move.own (h : Move targets jobs job n s w s' w') (hknown : ∀ p i, some i ∈ w.past p → i < w.opened)
    (hdraft : Drafted targets n s w) : Drafted targets n s' w' := by
  intro fd tmp hholds
  cases h with
  | stay made gone filled =>
    have howned := hdraft fd tmp ⟨made ▸ hholds.1, gone hholds.2⟩
    exact { howned with filled := filled _ howned.filled }
  | @make tmp' hfree haside =>
    obtain ⟨rfl, rfl⟩ : w.opened = fd ∧ tmp' = tmp := by simpa using hholds.1
    exact
      { known := Nat.lt_succ_self _
        owner := Function.update_self _ _ _
        named := Function.update_self _ _ _
        aside := haside
        fresh := fun p hp hmem => by
          have hne : p ≠ tmp' := fun h => haside (h ▸ hp)
          have hpast : (w.make n tmp').past p = w.past p := Function.update_of_ne hne _ _
          rw [hpast] at hmem
          exact absurd (hknown p _ hmem) (Nat.lt_irrefl _)
        filled := by
          have hfile : (w.make n tmp').files w.opened = {} := Function.update_self _ _ _
          rw [hfile]
          exact ⟨fun t ht => Option.some.inj ht, nofun, nofun, rfl⟩ }
  | @put fd' tmp' f s' holds made gone filled =>
    obtain ⟨rfl, rfl⟩ := holds.unique ⟨made ▸ hholds.1, gone ▸ hholds.2⟩
    have howned := hdraft fd' tmp' holds
    exact
      { known := howned.known
        owner := howned.owner
        named := howned.named
        aside := howned.aside
        fresh := howned.fresh
        filled := by
          have hfile : (w.put fd' f).files fd' = f := Function.update_self _ _ _
          rw [hfile]
          exact filled howned.filled }
  | drop _ gone | publish _ _ _ gone => exact nomatch gone.symm.trans hholds.2

/-! ## What holds of the disk -/

/-- A file that was there at first, as it was, or the whole text of a job. -/
def Whole (jobs : Job E → Prop) (w₀ : Disk) (p : Path) (i : Nat) (f : File) : Prop :=
  (some i ∈ w₀.past p ∧ f = w₀.files i) ∨
    ∃ job, jobs job ∧ job.target = p ∧ f.stored = job.text ∧ f.mode = 0o600 ∧
      (job.syncs = true → f.synced = true)

/-- **The invariant of the disk**, since `w₀`. -/
structure Filed (targets : Path → Prop) (jobs : Job E → Prop) (w₀ w : Disk) : Prop where
  known : ∀ p i, some i ∈ w.past p → i < w.opened
  named : ∀ p, targets p → w.names p ∈ w.past p
  whole : ∀ p, targets p → ∀ i, some i ∈ w.past p → Whole jobs w₀ p i (w.files i)
  /-- No target is taken away. -/
  stays : ∀ p, targets p → none ∈ w.past p → none ∈ w₀.past p

theorem Filed.rename {w₀ : Disk} {p : Path} {i : Option Nat} (h : Filed targets jobs w₀ w)
    (hknown : ∀ fd, i = some fd → fd < w.opened)
    (hwhole : targets p → ∀ fd, i = some fd → Whole jobs w₀ p fd (w.files fd))
    (hstays : targets p → i ≠ none) : Filed targets jobs w₀ (w.rename p i) := by
  have hpast (q : Path) (j : Option Nat) (hmem : j ∈ (w.rename p i).past q) :
      j ∈ w.past q ∨ q = p ∧ j = i := by
    by_cases hq : q = p
    · subst hq
      have hself : (w.rename q i).past q = i :: w.past q := Function.update_self _ _ _
      rw [hself] at hmem
      exact (List.mem_cons.mp hmem).symm.imp_right fun hj => ⟨rfl, hj⟩
    · have hother : (w.rename p i).past q = w.past q := Function.update_of_ne hq _ _
      exact .inl (hother ▸ hmem)
  refine ⟨fun q j hmem => ?_, fun q hq => ?_, fun q hq j hmem => ?_, fun q hq hmem => ?_⟩
  · rcases hpast q _ hmem with hold | ⟨rfl, hj⟩
    · exact h.known q j hold
    · exact hknown j hj.symm
  · by_cases hqp : q = p
    · subst hqp
      have hself : (w.rename q i).past q = i :: w.past q := Function.update_self _ _ _
      have hname : (w.rename q i).names q = i := Function.update_self _ _ _
      rw [hself, hname]
      exact List.mem_cons_self
    · have hother : (w.rename p i).past q = w.past q := Function.update_of_ne hqp _ _
      have hname : (w.rename p i).names q = w.names q := Function.update_of_ne hqp _ _
      rw [hother, hname]
      exact h.named q hq
  · rcases hpast q _ hmem with hold | ⟨rfl, hj⟩
    · exact h.whole q hq j hold
    · exact hwhole hq j hj.symm
  · rcases hpast q _ hmem with hold | ⟨rfl, hj⟩
    · exact h.stays q hq hold
    · exact absurd hj.symm (hstays hq)

/-- **One step keeps the targets whole.** -/
theorem Move.filed {w₀ : Disk} (h : Move targets jobs job n s w s' w')
    (hdraft : Drafted targets n s w) (hfiled : Filed targets jobs w₀ w) :
    Filed targets jobs w₀ w' := by
  cases h with
  | stay => exact hfiled
  | @make tmp hfree haside =>
    have hgrown : Filed targets jobs w₀ (w.grow n) := by
      refine ⟨fun p i hmem => Nat.lt_succ_of_lt (hfiled.known p i hmem), hfiled.named,
        fun p hp i hmem => ?_, hfiled.stays⟩
      have hfile : (w.grow n).files i = w.files i :=
        Function.update_of_ne (Nat.ne_of_lt (hfiled.known p i hmem)) _ _
      rw [hfile]
      exact hfiled.whole p hp i hmem
    refine hgrown.rename ?_ (fun htarget => absurd htarget haside) fun _ => nofun
    rintro fd ⟨⟩
    exact Nat.lt_succ_self _
  | @put fd tmp f s' holds =>
    refine ⟨hfiled.known, hfiled.named, fun p hp i hmem => ?_, hfiled.stays⟩
    have hi : i ≠ fd := by
      rintro rfl
      exact (hdraft i tmp holds).fresh p hp hmem
    have hfile : (w.put fd f).files i = w.files i := Function.update_of_ne hi _ _
    rw [hfile]
    exact hfiled.whole p hp i hmem
  | drop holds =>
    have haside := (hdraft _ _ holds).aside
    exact hfiled.rename nofun (fun htarget => absurd htarget haside)
      fun htarget => absurd htarget haside
  | @publish fd tmp s' holds given ready =>
    have howned := hdraft fd tmp holds
    have hdropped : Filed targets jobs w₀ (w.rename tmp none) :=
      hfiled.rename nofun (fun htarget => absurd htarget howned.aside)
        fun htarget => absurd htarget howned.aside
    refine hdropped.rename ?_ ?_ fun _ => nofun
    · rintro fd' ⟨⟩
      exact howned.known
    · -- the whole text has arrived in the file that is renamed
      rintro - fd' ⟨⟩
      have hfilled := howned.filled
      refine .inr ⟨job, given, rfl, ?_, hfilled.mode, fun hsyncs => ?_⟩
      · exact (hfilled.arrived ready.arrived).trans (hfilled.written _ ready.text)
      · exact (hfilled.synced (ready.synced hsyncs)).1

end Moves

/-! ## Runs -/

variable {Kind : Type} {Label : Kind → Type}

/-- The calls are the same for writers of all kinds. -/
abbrev Replies (E Kind : Type) (_ : Kind) : FileCall E → Type := Raises FileCall.Answer E

/-- **Writers of all kinds work on one disk**, whose calls raise only `faults`. -/
def disk (Kind : Type) (faults : FileCall E → E → Prop) (targets : Path → Prop) :
    Shared (Replies E Kind) Disk where
  serve n _ w c r w' := (∀ e, r = .error e → faults c e) ∧ serve targets n w c r w'
  drift w w' := w' = w

section Runs
variable {faults : FileCall E → E → Prop} {targets : Path → Prop} {jobs : Job E → Prop} {job : Kind → Job E}
  {blocks : Blocks (Replies E Kind) Label}
  {accepts : Worker (Replies E Kind) Label → Prop}

/-- A thread has a job that was given, and begins without a draft. -/
def AtStart (jobs : Job E → Prop) (job : Kind → Job E) (k : Kind) (next : Option (Label k))
    (s : Draft) : Prop :=
  jobs (job k) ∧ (next.isSome → s = {})

/-- A worker before its start. -/
def Unstarted (jobs : Job E → Prop) (job : Kind → Job E)
    (t : Worker (Replies E Kind) Label) : Prop :=
  jobs (job t.kind) ∧ ∃ l, t.rest = .pure (some l)

/-- The blocks keep to the discipline, and are the whole of their threads. -/
def Disciplined (faults : FileCall E → E → Prop) (jobs : Job E → Prop) (job : Kind → Job E)
    (blocks : Blocks (Replies E Kind) Label) : Prop :=
  ∀ k l, jobs (job k) →
    (blocks k l).Relies (drafting faults jobs (job k)) (fun next _ => next = none) {}

theorem Disciplined.block (h : Disciplined faults jobs job blocks) {k : Kind} {l : Label k} {s : Draft}
    (hat : AtStart jobs job k (some l) s) :
    (blocks k l).Relies (drafting faults jobs (job k)) (fun next s => AtStart jobs job k next s) s := by
  obtain ⟨hgiven, hstart⟩ := hat
  obtain rfl := hstart rfl
  refine (h k l hgiven).mono ?_
  rintro next s rfl
  exact ⟨hgiven, nofun⟩

theorem Unstarted.relies {t : Worker (Replies E Kind) Label}
    (h : Unstarted jobs job t) :
    t.Relies (fun k => drafting faults jobs (job k)) (AtStart jobs job) {} := by
  obtain ⟨hgiven, l, hl⟩ := h
  unfold Thread.Relies
  rw [hl]
  exact ⟨hgiven, fun _ => rfl⟩

theorem relied (haimed : Aimed targets jobs) (hblocks : Disciplined faults jobs job blocks)
    (haccepts : ∀ t, accepts t → Unstarted jobs job t) (w₀ : Disk) :
    Relied (disk Kind faults targets) accepts blocks (fun k => drafting faults jobs (job k))
      (AtStart jobs job) (Drafted targets) (fun _ w => Filed targets jobs w₀ w) where
  block hat := hblocks.block hat
  may served _ _ _ _ := served.1
  own served _ hfiled hdraft hallowed := (move_of_serve served.2 hallowed hdraft).own hfiled.known hdraft
  other served _ _ hdraft hallowed hne hother :=
    (move_of_serve served.2 hallowed hdraft).other haimed hdraft hne hother
  drift hdrift _ hdraft := hdrift ▸ hdraft
  fresh haccepted _ := ⟨{}, (haccepts _ haccepted).relies, fun _ _ hholds => nomatch hholds.1⟩
  inv_serve served _ hfiled hdraft hallowed :=
    (move_of_serve served.2 hallowed hdraft).filed hdraft hfiled
  inv_drift hdrift hfiled := hdrift ▸ hfiled
  inv_succ hfiled := hfiled

/-- A disk before the first of its writers: what each name has stood for is what it stands for. -/
structure Disk.Initial (w : Disk) : Prop where
  past : ∀ p, w.past p = [w.names p]
  known : ∀ p i, w.names p = some i → i < w.opened

theorem Disk.Initial.filed {w : Disk} (h : w.Initial) : Filed targets jobs w w where
  known p i hmem := h.known p i (List.mem_singleton.mp (h.past p ▸ hmem)).symm
  named p _ := by
    rw [h.past p]
    exact List.mem_singleton_self _
  whole _ _ _ hmem := .inl ⟨hmem, rfl⟩
  stays _ _ hmem := hmem

/-- **The targets stay whole**, in every state that any interleaving reaches. -/
theorem whole_along (haimed : Aimed targets jobs) (hblocks : Disciplined faults jobs job blocks)
    {ts : List (Worker (Replies E Kind) Label)}
    (hts : ∀ t ∈ ts, Unstarted jobs job t) {w : Disk} (hw : w.Initial)
    {q : Crew (Replies E Kind) Label Disk}
    {es : List (Disk × Event (Replies E Kind))}
    (rounds : (disk Kind faults targets).Rounds (fun _ => False) blocks ⟨w, ts⟩ es q) :
    Filed targets jobs w q.world := by
  refine ((relied haimed hblocks (fun _ => False.elim) w).along rounds ⟨hw.filed, ?_⟩).1
  exact fun n t ht => ⟨{}, (hts t (List.mem_of_getElem? ht)).relies, fun _ _ hholds => nomatch hholds.1⟩

/-! ## What the calls of a thread tell of its draft -/

/-- A rename. -/
def Renames : (c : FileCall E) → Raises FileCall.Answer E c → Prop
  | .replace _ _, .ok () => True
  | _, _ => False

/-- A file is taken away, or that was tried, or it is found to be gone. -/
def Removes : (c : FileCall E) → Raises FileCall.Answer E c → Prop
  | .unlink _, _ => True
  | .exists _, .ok false => True
  | _, _ => False

variable {n : Nat} {es : List (Disk × Event (Replies E Kind))}

theorem published_iff : (recordOf (fun k => drafting faults jobs (job k)) n es {}).published = true ↔
    ∃ w k c r, (w, .called n k c r) ∈ es ∧ Renames c r := by
  have hafter (k : Kind) (s : Draft) (c : FileCall E) (r : Raises FileCall.Answer E c) :
      ((drafting faults jobs (job k)).after s c r).published = true ↔
        s.published = true ∨ Renames c r := by
    cases c with
    | «exists» path => rcases r with e | _ | _ <;> simp [drafting, Renames]
    | _ => cases r <;> simp [drafting, Renames]
  exact (recordOf_iff (P := fun s : Draft => s.published = true) hafter n es {}).trans (or_iff_right nofun)

/-- It no longer waits to be taken away once it was renamed, or once that was done or tried. -/
theorem away_iff :
    ((recordOf (fun k => drafting faults jobs (job k)) n es {}).gone = true ∨
      (recordOf (fun k => drafting faults jobs (job k)) n es {}).stuck = true) ↔
    ∃ w k c r, (w, .called n k c r) ∈ es ∧ (Renames c r ∨ Removes c r) := by
  have hafter (k : Kind) (s : Draft) (c : FileCall E) (r : Raises FileCall.Answer E c) :
      (((drafting faults jobs (job k)).after s c r).gone = true ∨
        ((drafting faults jobs (job k)).after s c r).stuck = true) ↔
        (s.gone = true ∨ s.stuck = true) ∨ (Renames c r ∨ Removes c r) := by
    cases c with
    | «exists» path => rcases r with e | _ | _ <;> simp [drafting, Renames, Removes]
    | _ => cases r <;> simp [drafting, Renames, Removes]
  exact (recordOf_iff (P := fun s : Draft => s.gone = true ∨ s.stuck = true) hafter n es {}).trans
    (or_iff_right (by simp))

/-- Every call of a thread is one that its record allows. -/
def Allowed (faults : FileCall E → E → Prop) (jobs : Job E → Prop) (job : Kind → Job E) (n : Nat)
    (es : List (Disk × Event (Replies E Kind))) : Prop :=
  ∀ before after w k c r, es = before ++ (w, .called n k c r) :: after →
    (drafting faults jobs (job k)).allowed
      (recordOf (fun k => drafting faults jobs (job k)) n before {}) c

/-- **A thread makes one temporary file**: once it has one, it stays with it. -/
theorem made_stays {before after : List (Disk × Event (Replies E Kind))} {fd : Nat} {tmp : Path}
    (hallowed : Allowed faults jobs job n (before ++ after))
    (hmade : (recordOf (fun k => drafting faults jobs (job k)) n before {}).made = some (fd, tmp)) :
    (recordOf (fun k => drafting faults jobs (job k)) n (before ++ after) {}).made =
      some (fd, tmp) := by
  induction after generalizing before with
  | nil => rwa [List.append_nil]
  | cons e after ih =>
    have hnext : (recordOf (fun k => drafting faults jobs (job k)) n (before ++ [e]) {}).made =
        some (fd, tmp) := by
      rw [recordOf_append]
      obtain ⟨w, e⟩ := e
      cases e with
      | started | drifted => exact hmade
      | called m k c r =>
        by_cases hm : m = n
        · subst hm
          have hcall := hallowed before after w k c r rfl
          simp only [recordOf, if_true]
          cases c with
          | mkstemp dir pre suf => cases hmade.symm.trans hcall
          | «exists» path => rcases r with e | _ | _ <;> exact hmade
          | _ => cases r <;> exact hmade
        · simp only [recordOf, if_neg hm]
          exact hmade
    rw [List.append_cons] at hallowed ⊢
    exact ih hallowed hnext

/-- The temporary file of a thread is the one that `mkstemp` gave it. -/
theorem made_of_mkstemp {w : Disk} {k : Kind} {dir pre suf : String} {fd : Nat} {tmp : Path}
    (hallowed : Allowed faults jobs job n es)
    (hmem : (w, .called n k (.mkstemp dir pre suf) (.ok (fd, tmp))) ∈ es) :
    (recordOf (fun k => drafting faults jobs (job k)) n es {}).made = some (fd, tmp) := by
  obtain ⟨before, after, rfl⟩ := List.append_of_mem hmem
  rw [List.append_cons] at hallowed ⊢
  refine made_stays hallowed ?_
  rw [recordOf_append]
  simp only [recordOf, if_true]
  rfl

/-- **What a thread takes away is the temporary file it has made.** -/
theorem removes_made {w : Disk} {k : Kind} {dir pre suf : String} {fd : Nat} {tmp : Path}
    (hallowed : Allowed faults jobs job n es)
    (hmade : (w, .called n k (.mkstemp dir pre suf) (.ok (fd, tmp))) ∈ es)
    (haway : ∃ w k c r, (w, .called n k c r) ∈ es ∧ Removes c r) :
    ∃ w k, (∃ r, (w, .called n k (.unlink tmp) r) ∈ es) ∨
      (w, .called n k (.exists tmp) (.ok false)) ∈ es := by
  have hown := made_of_mkstemp hallowed hmade
  obtain ⟨w', k', c, r, hmem, hremoves⟩ := haway
  obtain ⟨before, after, rfl⟩ := List.append_of_mem hmem
  have hcall := hallowed before after w' k' c r rfl
  have hpath {fd' : Nat} {path : Path}
      (hholds : (recordOf (fun k => drafting faults jobs (job k)) n before {}).Holds fd' path) :
      path = tmp := by
    have hheld := (made_stays hallowed hholds.1).symm.trans hown
    exact (Prod.mk.inj (Option.some.inj hheld)).2
  cases c with
  | unlink path =>
    obtain ⟨fd', hholds⟩ := hcall
    obtain rfl := hpath hholds
    exact ⟨w', k', .inl ⟨r, hmem⟩⟩
  | «exists» path =>
    obtain ⟨fd', hholds⟩ := hcall
    obtain rfl := hpath hholds
    rcases r with e | _ | _
    · exact hremoves.elim
    · exact ⟨w', k', .inr hmem⟩
    · exact hremoves.elim
  | _ => exact hremoves.elim

end Runs

end Files

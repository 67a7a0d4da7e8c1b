import Greffer.Health.Readiness

/-! # When the watchdog restarts the process

What the watchdog has seen is read off its own calls: at each probe either nothing fatal, or
something fatal and the time it read then.  A fatal condition is **sustained** when these
observations end in a streak of fatal ones whose last reading is at least the grace after its
first.

At every point of every run the watchdog sends its SIGTERM exactly when what it has seen is
sustained (`restarts_iff_sustained`): one clean probe starts the grace anew, no pause between two
probes counts for more than the clock says, and a sustained condition is answered by nothing else
first.
-/
namespace Greffer.Health
open Effects

/-- What a probe showed: nothing fatal, or the time at which something fatal was seen. -/
abbrev Observation := Option Rat

/-- The observations, newest first, end in a streak of fatal ones that lasts for the grace. -/
def Sustained (grace : Rat) (seen : List Observation) : Prop :=
  ∃ (now : Rat) (between : List Rat) (since : Rat) (older : List Observation),
    seen = some now :: (between.map some ++ some since :: older) ∧
      (∀ t, older.head? ≠ some (some t)) ∧ grace ≤ now - since

/-- The first reading of the streak that the observations end in. -/
def streakStart : List Observation → Option Rat
  | some t :: older => some ((streakStart older).getD t)
  | _ => none

theorem streakStart_none {seen : List Observation} :
    streakStart seen = none ↔ ∀ t, seen.head? ≠ some (some t) := by
  match seen with
  | [] => simp [streakStart]
  | none :: older => simp [streakStart]
  | some t :: older => simp [streakStart]

theorem streakStart_some {seen : List Observation} {since : Rat} :
    streakStart seen = some since ↔ ∃ (between : List Rat) (older : List Observation),
      seen = between.map some ++ some since :: older ∧ ∀ t, older.head? ≠ some (some t) := by
  induction seen with
  | nil => simp [streakStart]
  | cons o older ih =>
    cases o with
    | none =>
      refine ⟨nofun, ?_⟩
      rintro ⟨between, rest, heq, -⟩
      cases between <;> cases heq
    | some t =>
      cases hstart : streakStart older with
      | none =>
        have hclean := streakStart_none.mp hstart
        simp only [streakStart, hstart, Option.getD_none, Option.some.injEq]
        constructor
        · rintro rfl
          exact ⟨[], older, rfl, hclean⟩
        · rintro ⟨between, rest, heq, -⟩
          cases between with
          | nil => exact Option.some.inj (List.cons.inj heq).1
          | cons b between =>
            obtain ⟨-, htail⟩ := List.cons.inj heq
            cases between with
            | nil => exact absurd (by rw [htail]; rfl) (hclean since)
            | cons b' between => exact absurd (by rw [htail]; rfl) (hclean b')
      | some first =>
        rw [hstart] at ih
        simp only [streakStart, hstart, Option.getD_some]
        rw [ih]
        constructor
        · rintro ⟨between, rest, rfl, hrest⟩
          exact ⟨t :: between, rest, rfl, hrest⟩
        · rintro ⟨between, rest, heq, hrest⟩
          cases between with
          | nil =>
            -- the streak would begin here, but it goes on
            obtain ⟨-, rfl⟩ := List.cons.inj heq
            rw [streakStart_none.mpr hrest] at hstart
            cases hstart
          | cons b between => exact ⟨between, rest, (List.cons.inj heq).2, hrest⟩

/-- **One more observation**: it has to be fatal, and late enough. -/
theorem sustained_cons {grace : Rat} {o : Observation} {seen : List Observation} :
    Sustained grace (o :: seen) ↔
      ∃ now since, o = some now ∧ streakStart seen = some since ∧ grace ≤ now - since := by
  constructor
  · rintro ⟨now, between, since, older, heq, holder, hgrace⟩
    obtain ⟨rfl, rfl⟩ := List.cons.inj heq
    exact ⟨now, since, rfl, streakStart_some.mpr ⟨between, older, rfl, holder⟩, hgrace⟩
  · rintro ⟨now, since, rfl, hstart, hgrace⟩
    obtain ⟨between, older, rfl, holder⟩ := streakStart_some.mp hstart
    exact ⟨now, between, since, older, rfl, holder, hgrace⟩

theorem not_sustained_nil (grace : Rat) : ¬ Sustained grace [] := by
  rintro ⟨now, between, since, older, heq, -⟩
  cases heq

/-! ## The record of the watchdog -/

/-- The observations after a call. -/
def observed (seen : List Observation) :
    (c : HealthCall) → Raises HealthCall.Answer Exn c → List Observation
  | .await _, .ok (some readiness) => if readiness.fatal then seen else none :: seen
  | .monotonic, .ok now => some now :: seen
  | _, _ => seen

/-- A record of the observations, which allows every call. -/
def looker (k : Role) : Reliance k.Reply (List Observation) where
  after := observed
  allowed _ _ := True
  may _ _ _ := True

/-- What the thread `n` has seen in the events of a run, newest first. -/
def observations (n : Nat) (es : List (Node × Event Role.Reply)) : List Observation :=
  recordOf looker n es []

/-- The same record, which allows the watchdog a SIGTERM when it is due, and nothing else then. -/
def keeper (settings : HealthSettings) (k : Role) : Reliance k.Reply (List Observation) where
  after := observed
  allowed seen c :=
    k = .watchdog → (c = .terminate ↔ Sustained settings.grefferWatchdogGrace seen)
  may _ _ _ := True

theorem recordOf_keeper (settings : HealthSettings) (n : Nat) (es : List (Node × Event Role.Reply))
    (seen : List Observation) : recordOf (keeper settings) n es seen = recordOf looker n es seen := by
  induction es generalizing seen with
  | nil => rfl
  | cons e es ih =>
    obtain ⟨w, e⟩ := e
    cases e <;> exact ih _

/-- What `fatal_since` is at the watchdog's loop head. -/
def AtHead (settings : HealthSettings) :
    (k : Role) → Option k.Label → List Observation → Prop
  | .watchdog, some fatalSince, seen =>
    streakStart seen = fatalSince ∧ ¬ Sustained settings.grefferWatchdogGrace seen
  | _, _, _ => True

/-- Before anything is due, the watchdog may call whatever is no SIGTERM. -/
theorem keeper_quiet {settings : HealthSettings} {seen : List Observation}
    (hnot : ¬ Sustained settings.grefferWatchdogGrace seen) {c : HealthCall} (hc : c ≠ .terminate) :
    (keeper settings .watchdog).allowed seen c :=
  fun _ => iff_of_false hc hnot

theorem onFatal_relies (settings : HealthSettings) {fatalSince : Option Rat}
    {seen : List Observation} (hstart : streakStart seen = fatalSince)
    (hnot : ¬ Sustained settings.grefferWatchdogGrace seen) :
    (onFatal settings fatalSince).Relies (keeper settings .watchdog)
      (Action.AtEnd (AtHead settings .watchdog)) seen := by
  unfold onFatal
  refine Action.relies_call (keeper_quiet hnot (by simp)) (fun e _ => trivial) fun now _ => ?_
  have hnow : (keeper settings .watchdog).after seen .monotonic (.ok now) = some now :: seen := rfl
  rw [hnow]
  cases fatalSince with
  | none =>
    refine ⟨by simp [streakStart, hstart], fun h => ?_⟩
    obtain ⟨now', since, -, hs, -⟩ := sustained_cons.mp h
    rw [hstart] at hs
    cases hs
  | some since =>
    have hdue : Sustained settings.grefferWatchdogGrace (some now :: seen) ↔
        settings.grefferWatchdogGrace ≤ now - since := by
      rw [sustained_cons]
      simp [hstart]
    dsimp only
    rw [Action.relies_ite]
    refine ⟨fun hgrace => ?_, fun hgrace => ?_⟩
    · exact Action.relies_call (fun _ => iff_of_true rfl (hdue.mpr hgrace)) (fun e _ => trivial)
        fun _ _ => trivial
    · exact ⟨by simp [streakStart, hstart], fun h => hgrace (hdue.mp h)⟩

/-- **A round of the watchdog**: `fatal_since` is where the streak began, and nothing is called
in its course but what is due. -/
theorem watchdogRound_relies (settings : HealthSettings) {fatalSince : Option Rat}
    {seen : List Observation} (hstart : streakStart seen = fatalSince)
    (hnot : ¬ Sustained settings.grefferWatchdogGrace seen) :
    (watchdogRound settings fatalSince).Relies (keeper settings .watchdog)
      (Action.AtEnd (AtHead settings .watchdog)) seen := by
  unfold watchdogRound
  refine Action.relies_call (keeper_quiet hnot (by simp)) (fun e _ => trivial) fun _ _ => ?_
  unfold probe
  rw [Action.relies_bind, Action.relies_bind, Action.relies_perform]
  refine ⟨keeper_quiet hnot (by simp), ?_⟩
  rintro (e | ticket) -
  · trivial
  · rw [onOk_ok, Action.relies_bind, Action.relies_perform]
    refine ⟨keeper_quiet hnot (by simp), ?_⟩
    rintro (e | (_ | ⟨fatal, reasons⟩)) -
    · trivial
    · exact onFatal_relies settings hstart hnot
    · cases fatal with
      | true => exact onFatal_relies settings hstart hnot
      | false =>
        -- the observation that ends every streak
        refine ⟨rfl, fun h => ?_⟩
        obtain ⟨now, since, hnone, -⟩ := sustained_cons.mp h
        cases hnone

theorem blocks_rely (settings : HealthSettings) {k : Role} {l : k.Label} {seen : List Observation}
    (h : AtHead settings k (some l) seen) : (blocks settings k l).Relies (keeper settings k)
      (fun next s => AtHead settings k next s) seen := by
  cases k with
  | watchdog => exact Action.relies_block.mpr (watchdogRound_relies settings h.1 h.2)
  | readyz | probe =>
    -- the others may call what they like
    exact Prog.relies_free (fun _ _ hk => nomatch hk) fun _ _ => trivial

/-- Every call of the watchdog is allowed by what it has seen. -/
theorem watchdog_allowed {settings : HealthSettings} {w w' : Node}
    {others : List (Worker Role.Reply Role.Label)} {q : Crew Role.Reply Role.Label Node}
    {es es' : List (Node × Event Role.Reply)} {c : HealthCall}
    {r : Raises HealthCall.Answer Exn c}
    (rounds : (node settings).Rounds Starts (blocks settings) ⟨w, watchdogWorker :: others⟩
      (es ++ (w', .called 0 .watchdog c r) :: es') q) :
    (keeper settings .watchdog).allowed (observations 0 es) c := by
  have hstart : Thread.Relies (keeper settings) (AtHead settings) watchdogWorker [] :=
    ⟨rfl, not_sustained_nil _⟩
  have hallowed := rounds.allowed_call (fun _ => trivial) (blocks_rely settings) rfl hstart
  rw [recordOf_keeper] at hallowed
  exact hallowed

/-- **The watchdog restarts the process exactly when a fatal condition is sustained.**  Whatever
else runs and whatever the probes are answered, each call it makes is a SIGTERM if and only if its
observations up to there end in a streak of fatal ones that lasts for the grace. -/
theorem restarts_iff_sustained {settings : HealthSettings} {w w' : Node}
    {others : List (Worker Role.Reply Role.Label)} {q : Crew Role.Reply Role.Label Node}
    {es es' : List (Node × Event Role.Reply)} {c : HealthCall}
    {r : Raises HealthCall.Answer Exn c}
    (rounds : (node settings).Rounds Starts (blocks settings) ⟨w, watchdogWorker :: others⟩
      (es ++ (w', .called 0 .watchdog c r) :: es') q) :
    c = .terminate ↔ Sustained settings.grefferWatchdogGrace (observations 0 es) :=
  watchdog_allowed rounds rfl

/-! ### A daemon that hangs -/

/-- The watchdog alone asks for its first probe; -/
def firstAsked := runsFor defaultHealth 0 .watchdog 10 (.pure (some none)) idleNode

/-- five seconds later it has timed out, and the second is asked for; -/
def secondAsked :=
  runsFor defaultHealth 0 .watchdog 10 firstAsked.2.2 { firstAsked.2.1 with clock := 5 }

/-- half a minute later, too. -/
def timedOutTwice :=
  runsFor defaultHealth 0 .watchdog 2 secondAsked.2.2 { secondAsked.2.1 with clock := 35 }

/-- The events up to the SIGTERM. -/
def hungEvents : List (Node × Event Role.Reply) :=
  firstAsked.1 ++ ((firstAsked.2.1, .drifted) :: secondAsked.1) ++
    ((secondAsked.2.1, .drifted) :: timedOutTwice.1)

theorem timedOutTwice_rest : ∃ next, timedOutTwice.2.2 = .call .terminate next := by
  have hdue : (match timedOutTwice.2.2 with
    | .call .terminate _ => true
    | _ => false) = true := by decide +kernel
  split at hdue
  case h_1 next heq => exact ⟨next, heq⟩
  case h_2 => cases hdue

theorem hung_rounds : ∃ q, (node defaultHealth).Rounds Starts (blocks defaultHealth)
    ⟨idleNode, [watchdogWorker]⟩
    (hungEvents ++ [(timedOutTwice.2.1, .called 0 .watchdog .terminate (.ok ()))]) q := by
  have hfirst := runsFor_rounds defaultHealth 0 .watchdog 10 (.pure (some none)) idleNode
    [watchdogWorker] rfl
  have hsecond := (pause_rounds defaultHealth firstAsked.2.1 5 (by decide +kernel) _).append
    (runsFor_rounds defaultHealth 0 .watchdog 10 firstAsked.2.2 { firstAsked.2.1 with clock := 5 }
      [⟨.watchdog, firstAsked.2.2⟩] rfl)
  have hthird := (pause_rounds defaultHealth secondAsked.2.1 35 (by decide +kernel) _).append
    (runsFor_rounds defaultHealth 0 .watchdog 2 secondAsked.2.2 { secondAsked.2.1 with clock := 35 }
      [⟨.watchdog, secondAsked.2.2⟩] rfl)
  obtain ⟨next, hnext⟩ := timedOutTwice_rest
  have hsigterm : (node defaultHealth).Rounds Starts (blocks defaultHealth)
      ⟨timedOutTwice.2.1, [⟨.watchdog, timedOutTwice.2.2⟩]⟩
      [(timedOutTwice.2.1, .called 0 .watchdog .terminate (.ok ()))]
      ⟨{ timedOutTwice.2.1 with terminated := true }, [⟨.watchdog, next (.ok ())⟩]⟩ := by
    rw [hnext]
    exact .step (.call rfl ⟨rfl, rfl⟩) (.nil _)
  exact ⟨_, ((hfirst.append hsecond).append hthird).append hsigterm⟩

/-- A daemon that hangs for the grace is answered with a restart. -/
theorem restarts_iff_sustained_hung : Sustained 30 (observations 0 hungEvents) := by
  obtain ⟨q, rounds⟩ := hung_rounds
  exact (restarts_iff_sustained rounds).mp rfl

end Greffer.Health

import Mathlib.Algebra.Order.Floor.Semiring
import Mathlib.Data.Rat.Floor
import Mathlib.Tactic.Linarith
import Greffer.Bringup.Told

/-! # `greffer up` comes to an end

No answer of the manager, of docker or of a probe keeps the command going for ever: neither an
outage, nor an endless row of 429s, nor a `Retry-After` of an hour.  Every round of a wait that is
not its last sleeps for two seconds or up to its deadline, so that there are no more rounds than
fit into the timeout, and the calls of a whole run are bounded by the timeout alone
(`up_ends`).
-/
namespace Greffer.Bringup
open Effects

/-! ## The bound -/

/-- How many rounds a wait may still have. -/
def roundsLeft (deadline now : Rat) : Nat := ⌈(deadline - now) / 2⌉₊ + 1

/-- The calls of `wait_for_…` and of what follows it: three a round. -/
def waitCalls (deadline now : Rat) (then_ : Nat) : Nat := 3 * roundsLeft deadline now + then_

/-- The rounds of a whole wait. -/
def allRounds (timeout : Rat) : Nat := roundsLeft timeout 0

/-- The calls from the start of each phase on. -/
def healthCalls (timeout : Rat) : Nat := 3 * allRounds timeout + 2

def certCalls (timeout : Rat) : Nat := 3 * allRounds timeout + (1 + healthCalls timeout)

def pollingCalls (timeout : Rat) : Nat := 9 * allRounds timeout + (2 + certCalls timeout)

def composingCalls (timeout : Rat) : Nat := 3 * allRounds timeout + (3 + pollingCalls timeout)

/-- **The calls of the command.** -/
def callsAtMost (timeout : Rat) : Nat := 15 + composingCalls timeout

theorem callsAtMost_eq (timeout : Rat) : callsAtMost timeout = 18 * ⌈timeout / 2⌉₊ + 41 := by
  simp only [callsAtMost, composingCalls, pollingCalls, certCalls, healthCalls, allRounds,
    roundsLeft, sub_zero]
  omega

theorem roundsLeft_start (now timeout : Rat) :
    roundsLeft (now + timeout) now = allRounds timeout := by
  unfold allRounds roundsLeft
  rw [add_sub_cancel_left, sub_zero]

theorem roundsLeft_anti {deadline now now' : Rat} (h : now ≤ now') :
    roundsLeft deadline now' ≤ roundsLeft deadline now := by
  unfold roundsLeft
  have hle : (deadline - now') / 2 ≤ (deadline - now) / 2 := by linarith
  exact Nat.add_le_add_right (Nat.ceil_mono hle) 1

/-- **A round that is not the last**: it began before the deadline, and ends two seconds later or
at the deadline. -/
theorem roundsLeft_lt {deadline now now' : Rat} (hbefore : now < deadline)
    (hslept : now + 2 ≤ now' ∨ deadline ≤ now') :
    roundsLeft deadline now' + 1 ≤ roundsLeft deadline now := by
  have hpos : 0 < ⌈(deadline - now) / 2⌉₊ := by
    rw [Nat.ceil_pos]
    linarith
  unfold roundsLeft
  rcases hslept with hslept | hlate
  · have hle : (deadline - now') / 2 ≤ (⌈(deadline - now) / 2⌉₊ : Rat) - 1 := by
      have hceil := Nat.le_ceil ((deadline - now) / 2)
      linarith
    have hceil : ⌈(deadline - now') / 2⌉₊ ≤ ⌈(deadline - now) / 2⌉₊ - 1 := by
      refine Nat.ceil_le.mpr (hle.trans ?_)
      rw [Nat.cast_sub hpos, Nat.cast_one]
    omega
  · have hzero : ⌈(deadline - now') / 2⌉₊ = 0 := by
      rw [Nat.ceil_eq_zero]
      linarith
    omega

/-! ## Counting -/

/-- How many calls were made, and what the clock is at least. -/
structure Tally where
  calls : Nat := 0
  low : Rat

/-- One more call. -/
def Tally.after (s : Tally) : (c : UpCall) → Raises UpCall.Answer Exn c → Tally
  | .monotonic, .ok t => ⟨s.calls + 1, t⟩
  | .sleep seconds, .ok _ => ⟨s.calls + 1, s.low + seconds⟩
  | _, _ => ⟨s.calls + 1, s.low⟩

/-- Only so many calls; the clock does not fail, nor go back. -/
def counting (most : Nat) (_ : Unit) : Reliance (Replies ()) Tally where
  after := Tally.after
  allowed s _ := s.calls < most
  may s
    | .monotonic, r => ∃ t, r = .ok t ∧ s.low ≤ t
    | _, _ => True

/-- The calls that may still be made from a loop head. -/
def callsLeft (timeout : Rat) : UpLabel → Rat → Nat
  | .command, _ => callsAtMost timeout
  | .starting _, _ => 4 + composingCalls timeout
  | .composing _ deadline, now => waitCalls deadline now (3 + pollingCalls timeout)
  | .polling _ p, now => 9 * roundsLeft p.deadline now + (2 + certCalls timeout)
  | .certPolling _ deadline, now => waitCalls deadline now (1 + healthCalls timeout)
  | .healthPolling _ deadline, now => waitCalls deadline now 2

/-- The timeout of each wait is that of the command, and no interval is below two seconds. -/
def Timed (timeout : Rat) : UpLabel → Prop
  | .command => True
  | .starting target | .composing target _ | .certPolling target _ | .healthPolling target _ =>
    target.timeout = timeout
  | .polling target p => target.timeout = timeout ∧ 2 ≤ p.interval

/-- What has been called and what may still be is within the bound. -/
def InTime (args : UpArgs) (_ : Unit) : Option UpLabel → Tally → Prop
  | none, _ => True
  | some l, s => Timed args.timeout l ∧
      s.calls + callsLeft args.timeout l s.low ≤ callsAtMost args.timeout

section Steps
variable {args : UpArgs} {target : Target} {p : Polling} {s : Tally} {most : Nat}

/-- A round that ends so, ends within the bound. -/
abbrev EndsInTime (args : UpArgs) : Except Exn Next → Tally → Prop := Action.AtEnd (InTime args ())

theorem counts {α : Type} {c : UpCall} {f : c.Answer → Bringing α}
    {Q : Except Exn α → Tally → Prop} (hroom : s.calls < most) (herror : ∀ e s', Q (.error e) s')
    (hnext : ∀ a s', s'.calls = s.calls + 1 → s' = s.after c (.ok a) →
      (f a).Relies (counting most ()) Q s') :
    (ask c >>= f).Relies (counting most ()) Q s := by
  have hcalls (a : c.Answer) : (s.after c (.ok a)).calls = s.calls + 1 := by
    cases c <;> rfl
  exact Action.relies_call hroom (fun e _ => herror e _) fun a _ => hnext a _ (hcalls a) rfl

theorem ticks {α : Type} {f : Rat → Bringing α} {Q : Except Exn α → Tally → Prop}
    (hroom : s.calls < most)
    (hnext : ∀ t, s.low ≤ t → (f t).Relies (counting most ()) Q ⟨s.calls + 1, t⟩) :
    (ask .monotonic >>= f).Relies (counting most ()) Q s := by
  refine Action.relies_call hroom ?_ ?_
  · rintro e ⟨t, ht, -⟩
    cases ht
  · rintro t ⟨t', ht, hlow⟩
    cases ht
    exact hnext t hlow

theorem giveUp_counts {line : UpLine} {code : Nat} (hroom : s.calls + 2 ≤ callsAtMost args.timeout) :
    (giveUp line code).Relies (counting (callsAtMost args.timeout) ()) (EndsInTime args) s := by
  unfold giveUp
  refine counts (by omega) (fun _ _ => trivial) fun _ s₁ hs₁ _ => ?_
  exact counts (by omega) (fun _ _ => trivial) fun _ _ _ _ => trivial

theorem look_counts {c : UpCall} {g : c.Answer → Bool} {Q : Except Exn Bool → Tally → Prop}
    (hroom : s.calls < most) (herror : ∀ e s', Q (.error e) s')
    (hnext : ∀ a, Q (.ok (g a)) (s.after c (.ok a))) :
    (g <$> ask c).Relies (counting most ()) Q s := by
  refine ⟨hroom, ?_⟩
  rintro (e | a) -
  · exact herror e _
  · exact hnext a

theorem waitRound_counts {deadline : Rat} {c : UpCall} {g : c.Answer → Bool}
    {again : UpLabel} {done expired : Bringing Next} {then_ : Nat}
    (hagain : ∀ now, callsLeft args.timeout again now = waitCalls deadline now then_)
    (hlook : ∀ (s : Tally) a, s.after c (.ok a) = ⟨s.calls + 1, s.low⟩)
    (hdone : ∀ s : Tally, s.calls + then_ ≤ callsAtMost args.timeout →
      done.Relies (counting (callsAtMost args.timeout) ()) (EndsInTime args) s)
    (hexpired : ∀ s : Tally, s.calls + 2 ≤ callsAtMost args.timeout →
      expired.Relies (counting (callsAtMost args.timeout) ()) (EndsInTime args) s)
    (h : InTime args () (some again) s) :
    (waitRound deadline (g <$> ask c) 2 again done expired).Relies
      (counting (callsAtMost args.timeout) ()) (EndsInTime args) s := by
  obtain ⟨htimed, hroom⟩ := h
  rw [hagain, waitCalls] at hroom
  have hone : 1 ≤ roundsLeft deadline s.low := Nat.le_add_left 1 _
  unfold waitRound
  refine ticks (by omega) fun t hlow => ?_
  rw [Action.relies_ite]
  refine ⟨fun hbefore => ?_, fun _ => hexpired _ (by dsimp only; omega)⟩
  rw [Action.relies_bind]
  refine look_counts (by dsimp only; omega) (fun _ _ => trivial) fun a => ?_
  rw [hlook, onOk_ok]
  cases g a with
  | true => exact hdone _ (by dsimp only; omega)
  | false =>
    refine counts (by dsimp only; omega) (fun _ _ => trivial) fun _ s₃ _ hs₃ => ?_
    have hnext : roundsLeft deadline (t + 2) + 1 ≤ roundsLeft deadline t :=
      roundsLeft_lt hbefore (.inl le_rfl)
    have hround : roundsLeft deadline t ≤ roundsLeft deadline s.low := roundsLeft_anti hlow
    refine ⟨htimed, ?_⟩
    rw [hagain, waitCalls, hs₃]
    show s.calls + 1 + 1 + 1 + (3 * roundsLeft deadline (t + 2) + then_) ≤ _
    omega

/-! ### Up to Starting -/

theorem writeConfig_counts {managerUrl : String} (hroom : s.calls + 5 ≤ most)
    {Q : Except Exn Unit → Tally → Prop} (herror : ∀ e s', Q (.error e) s')
    (hok : ∀ s', s'.calls = s.calls + 5 → Q (.ok ()) s') :
    (writeConfig args managerUrl).Relies (counting most ()) Q s := by
  unfold writeConfig
  rw [Action.relies_bind, Action.relies_ofExcept]
  cases buildEnvValues managerUrl args.id args.mode args.address with
  | error e => exact herror e s
  | ok values =>
    refine counts (by omega) herror fun template s₁ h₁ _ => ?_
    refine counts (by omega) herror fun tag s₂ h₂ _ => ?_
    refine counts (by omega) herror fun _ s₃ h₃ _ => ?_
    refine counts (by omega) herror fun _ s₄ h₄ _ => ?_
    refine ⟨by show s₄.calls < most; omega, ?_⟩
    rintro (e | _) -
    · exact herror e _
    · exact hok _ (by show s₄.calls + 1 = s.calls + 5; omega)

theorem reportConfig_counts (hroom : s.calls + 2 ≤ most)
    {Q : Except Exn Unit → Tally → Prop} (herror : ∀ e s', Q (.error e) s')
    (hok : ∀ s', s'.calls ≤ s.calls + 2 → Q (.ok ()) s') :
    (reportConfig args).Relies (counting most ()) Q s := by
  unfold reportConfig
  refine counts (by omega) herror fun _ s₁ h₁ _ => ?_
  rw [Action.relies_ite]
  refine ⟨fun _ => ⟨by show s₁.calls < most; omega, ?_⟩, fun _ => hok s₁ (by omega)⟩
  rintro (e | _) -
  · exact herror e _
  · exact hok _ (by show s₁.calls + 1 ≤ s.calls + 2; omega)

theorem bringUp_counts {managerUrl : String}
    (hroom : s.calls + (5 + composingCalls args.timeout) ≤ callsAtMost args.timeout) :
    (bringUp args managerUrl).Relies (counting (callsAtMost args.timeout) ()) (EndsInTime args)
      s := by
  unfold bringUp
  refine counts (by omega) (fun _ _ => trivial) fun env s₁ h₁ _ => ⟨rfl, ?_⟩
  rw [h₁]
  show s.calls + 1 + (4 + composingCalls args.timeout) ≤ _
  omega

theorem up_counts (hnew : s.calls = 0) :
    (up args).Relies (counting (callsAtMost args.timeout) ()) (EndsInTime args) s := by
  have hmost : callsAtMost args.timeout = 15 + composingCalls args.timeout := rfl
  unfold up
  refine counts (by omega) (fun _ _ => trivial) fun _ s₁ h₁ _ => ?_
  have hresolve : (resolveManager args).Relies (counting (callsAtMost args.timeout) ())
      (fun _ s' => s'.calls ≤ 2) s₁ := by
    unfold resolveManager
    cases args.manager with
    | some url => show s₁.calls ≤ 2; omega
    | none =>
      refine Action.relies_call (by show s₁.calls < _; omega) (fun _ _ => ?_) fun env _ => ?_
      · show s₁.calls + 1 ≤ 2
        omega
      · show s₁.calls + 1 ≤ 2
        omega
  rw [Action.relies_bind]
  refine hresolve.mono ?_
  rintro (e | managerUrl) s₂ h₂
  · trivial
  · refine counts (by omega) (fun _ _ => trivial) fun env s₃ h₃ _ => ?_
    cases env.lookup "GREFFER_ID" with
    | none =>
      rw [Action.relies_bind]
      refine writeConfig_counts (by omega) (fun _ _ => trivial) fun s₄ h₄ => ?_
      rw [onOk_ok, Action.relies_bind]
      exact reportConfig_counts (by omega) (fun _ _ => trivial) fun s₅ h₅ =>
        bringUp_counts (by omega)
    | some existing =>
      dsimp only
      rw [Action.relies_ite]
      refine ⟨fun _ => ?_, fun _ => giveUp_counts (by omega)⟩
      exact counts (by omega) (fun _ _ => trivial) fun _ s₄ h₄ _ => bringUp_counts (by omega)

theorem awaitCompose_counts (htimed : target.timeout = args.timeout)
    (hroom : s.calls + (1 + composingCalls args.timeout) ≤ callsAtMost args.timeout) :
    (awaitCompose target).Relies (counting (callsAtMost args.timeout) ()) (EndsInTime args) s := by
  unfold awaitCompose
  refine ticks (by omega) fun t _ => ⟨htimed, ?_⟩
  rw [callsLeft, htimed, waitCalls, roundsLeft_start]
  show s.calls + 1 + composingCalls args.timeout ≤ _
  omega

theorem starting_counts (h : InTime args () (some (.starting target)) s) :
    (starting target).Relies (counting (callsAtMost args.timeout) ()) (EndsInTime args) s := by
  obtain ⟨htimed, hroom⟩ := h
  rw [callsLeft] at hroom
  have hlong : 2 ≤ composingCalls args.timeout := by
    unfold composingCalls
    omega
  unfold starting
  refine counts (by omega) (fun _ _ => trivial) fun _ s₁ h₁ _ => ?_
  refine counts (by omega) (fun _ _ => trivial) fun services s₂ h₂ _ => ?_
  rw [Action.relies_ite]
  refine ⟨fun _ => awaitCompose_counts htimed (by omega), fun _ => ?_⟩
  refine counts (by omega) (fun _ _ => trivial) fun r s₃ h₃ _ => ?_
  rw [Action.relies_ite]
  exact ⟨fun _ => awaitCompose_counts htimed (by omega), fun _ => giveUp_counts (by omega)⟩

theorem awaitAcceptance_counts (htimed : target.timeout = args.timeout)
    (hroom : s.calls + (3 + pollingCalls args.timeout) ≤ callsAtMost args.timeout) :
    (awaitAcceptance target).Relies (counting (callsAtMost args.timeout) ()) (EndsInTime args)
      s := by
  unfold awaitAcceptance
  refine counts (by omega) (fun _ _ => trivial) fun _ s₁ h₁ _ => ?_
  refine ticks (by omega) fun t _ => ticks (by dsimp only; omega) fun t' hlater =>
    ⟨⟨htimed, le_rfl⟩, ?_⟩
  have hrounds : roundsLeft (t + args.timeout) t' ≤ allRounds args.timeout := by
    rw [← roundsLeft_start t args.timeout]
    exact roundsLeft_anti hlater
  have hpolling : pollingCalls args.timeout =
      9 * allRounds args.timeout + (2 + certCalls args.timeout) := rfl
  rw [callsLeft, htimed]
  dsimp only
  omega

theorem composingRound_counts {deadline : Rat}
    (h : InTime args () (some (.composing target deadline)) s) :
    (composingRound target deadline).Relies (counting (callsAtMost args.timeout) ())
      (EndsInTime args) s :=
  waitRound_counts (fun _ => rfl) (fun _ _ => rfl) (fun _ => awaitAcceptance_counts h.1)
    (fun _ => giveUp_counts) h

/-! ### Registering -/

/-- A part of a round: it may take time and so many calls, and leaves the deadline. -/
def Takes (n : Nat) (p : Polling) (s : Tally) (r : Except Exn Polling) (s' : Tally) : Prop :=
  s'.calls ≤ s.calls + n ∧ s.low ≤ s'.low ∧ ∀ p', r = .ok p' → p'.deadline = p.deadline

theorem takes_none {n : Nat} {p' : Polling} (h : p'.deadline = p.deadline) :
    Takes n p s (.ok p') s := by
  refine ⟨Nat.le_add_right _ _, le_rfl, ?_⟩
  rintro p'' ⟨rfl⟩
  exact h

/-- A line that may be printed. -/
theorem print_takes {line : UpLine} {p' : Polling} (hroom : s.calls < most)
    (h : p'.deadline = p.deadline) :
    ((ask (.print line) >>= fun _ => pure p' : Bringing Polling)).Relies (counting most ())
      (Takes 1 p s) s := by
  refine Action.relies_call hroom (fun e _ => ⟨le_rfl, le_rfl, nofun⟩) fun _ _ => ?_
  refine ⟨le_rfl, le_rfl, ?_⟩
  rintro p'' ⟨rfl⟩
  exact h

theorem noteState_takes {observed : StateValue} (hroom : s.calls < most) :
    (noteState target p observed).Relies (counting most ()) (Takes 1 p s) s := by
  unfold noteState
  rw [Action.relies_ite]
  refine ⟨fun _ => takes_none rfl, fun _ => ?_⟩
  unfold onStateChange
  rw [Action.relies_ite]
  exact ⟨fun _ => print_takes hroom rfl, fun _ => takes_none rfl⟩

theorem noteUnknown_takes {observed : StateValue} (hroom : s.calls < most) :
    (noteUnknown p observed).Relies (counting most ()) (Takes 1 p s) s := by
  unfold noteUnknown
  rw [Action.relies_ite]
  refine ⟨fun _ => takes_none rfl, fun _ => ?_⟩
  rw [Action.relies_ite]
  refine ⟨fun _ => ⟨Nat.le_add_right _ _, le_rfl, nofun⟩, fun _ => ?_⟩
  rw [Action.relies_ite]
  exact ⟨fun _ => takes_none rfl, fun _ => print_takes hroom rfl⟩

theorem heartbeat_takes {observed : StateValue} (hroom : s.calls + 2 ≤ most) :
    (heartbeat target p observed).Relies (counting most ()) (Takes 2 p s) s := by
  unfold heartbeat
  rw [Action.relies_ite]
  refine ⟨fun _ => ?_, fun _ => ?_⟩
  · refine Action.relies_call (by show s.calls < most; omega)
      (fun e _ => ⟨Nat.le_succ _, le_rfl, nofun⟩) fun _ _ => ?_
    unfold pendingHint
    rw [Action.relies_ite]
    refine ⟨fun _ => ?_, fun _ => ?_⟩
    · refine ⟨Nat.le_succ _, le_rfl, ?_⟩
      rintro p' ⟨rfl⟩
      rfl
    · have hroom' : s.calls + 1 < most := by omega
      refine (print_takes hroom' rfl).mono ?_
      rintro r s' ⟨hcalls, hlow, hdeadline⟩
      exact ⟨hcalls, hlow, hdeadline⟩
  · refine (print_takes (by omega) rfl).mono ?_
    rintro r s' ⟨hcalls, hlow, hdeadline⟩
    exact ⟨by omega, hlow, hdeadline⟩

theorem beat_takes {observed : StateValue} (hroom : s.calls + 4 ≤ most) :
    (beat target p observed).Relies (counting most ()) (Takes 4 p s) s := by
  unfold beat
  refine ticks (by omega) fun now hnow => ?_
  rw [Action.relies_ite]
  refine ⟨fun _ => ?_, fun _ => ?_⟩
  · rw [Action.relies_bind]
    refine (heartbeat_takes (p := p) (by dsimp only; omega)).mono ?_
    rintro (e | p') s' ⟨hcalls, hlow, hdeadline⟩
    · exact ⟨by dsimp only at hcalls; omega, hnow.trans hlow, nofun⟩
    · refine ticks (by dsimp only at hcalls; omega) fun t ht => ?_
      refine ⟨by dsimp only at hcalls ⊢; omega, (hnow.trans hlow).trans ht, ?_⟩
      rintro p'' ⟨rfl⟩
      exact hdeadline p' rfl
  · refine ⟨by dsimp only; omega, hnow, ?_⟩
    rintro p' ⟨rfl⟩
    rfl

theorem takes_bind {n : Nat} {a : Bringing Polling} {f : Polling → Bringing Next}
    {Q : Except Exn Next → Tally → Prop} (ha : a.Relies (counting most ()) (Takes n p s) s)
    (herror : ∀ e s', Q (.error e) s')
    (hf : ∀ p' s', s'.calls ≤ s.calls + n → s.low ≤ s'.low → p'.deadline = p.deadline →
      (f p').Relies (counting most ()) Q s') :
    (a >>= f).Relies (counting most ()) Q s := by
  rw [Action.relies_bind]
  refine ha.mono ?_
  rintro (e | p') s' ⟨hcalls, hlow, hdeadline⟩
  · exact herror e s'
  · exact hf p' s' hcalls hlow (hdeadline p' rfl)

theorem accepted_counts (htimed : target.timeout = args.timeout)
    (hroom : s.calls + (2 + certCalls args.timeout) ≤ callsAtMost args.timeout) :
    (accepted target).Relies (counting (callsAtMost args.timeout) ()) (EndsInTime args) s := by
  have hcert : certCalls args.timeout =
      3 * allRounds args.timeout + (1 + healthCalls args.timeout) := rfl
  have hhealth : healthCalls args.timeout = 3 * allRounds args.timeout + 2 := rfl
  unfold accepted
  refine counts (by omega) (fun _ _ => trivial) fun _ s₁ h₁ _ => ticks (by omega) fun t _ => ?_
  by_cases hproxy : target.mode = "proxy"
  · rw [if_pos hproxy]
    refine ⟨htimed, ?_⟩
    rw [callsLeft, waitCalls, htimed, roundsLeft_start]
    dsimp only
    omega
  · rw [if_neg hproxy]
    refine ⟨htimed, ?_⟩
    rw [callsLeft, waitCalls, htimed, roundsLeft_start]
    dsimp only
    omega

theorem le_backedOff (interval : Rat) : 2 ≤ backedOff interval := by
  unfold backedOff
  rw [le_min_iff]
  refine ⟨?_, by norm_num⟩
  split <;> linarith

/-- After a failure: nothing makes it sleep past the deadline, nor, before it, for less than two
seconds. -/
theorem backOff_counts {wanted : PyFloat} (hwanted : ∀ q, wanted = .fin q → 2 ≤ q)
    (htimed : target.timeout = args.timeout)
    (hroom : s.calls + (8 + 9 * (roundsLeft p.deadline s.low - 1) + (2 + certCalls args.timeout)) ≤
      callsAtMost args.timeout) :
    (backOff target p wanted).Relies (counting (callsAtMost args.timeout) ()) (EndsInTime args)
      s := by
  unfold backOff
  refine ticks (by omega) fun t ht => ?_
  rw [Action.relies_ite]
  refine ⟨fun _ => giveUp_counts (by dsimp only; omega), fun hlate => ?_⟩
  have hbefore : t < p.deadline := not_le.mp hlate
  have hround : roundsLeft p.deadline t ≤ roundsLeft p.deadline s.low := roundsLeft_anti ht
  refine ticks (by dsimp only; omega) fun t' ht' => ?_
  -- the round ends two seconds later, or at the deadline
  have hnext (q : Rat) (hq : t + 2 ≤ t' + q ∨ p.deadline ≤ t' + q) : InTime args ()
      (some (.polling target { p with interval := backedOff p.interval }))
      ⟨s.calls + 1 + 1 + 1, t' + q⟩ := by
    have hlt := roundsLeft_lt hbefore hq
    refine ⟨⟨htimed, le_backedOff p.interval⟩, ?_⟩
    rw [callsLeft]
    dsimp only
    omega
  rw [Action.relies_bind]
  rcases PyFloat.min_fin wanted (max 0 (p.deadline - t')) with ⟨hnan, -⟩ | hinf | ⟨q, hq, -, hfrom⟩
  · rw [hnan]
    trivial
  · rw [hinf]
    trivial
  · rw [hq, sleepFor, Action.relies_ite]
    refine ⟨fun _ => trivial, fun _ => ?_⟩
    rw [Action.relies_ite]
    refine ⟨fun _ => trivial, fun _ => ⟨by show s.calls + 1 + 1 < _; omega, ?_⟩⟩
    rintro (e | _) -
    · trivial
    · refine hnext q ?_
      rcases hfrom with rfl | hfin
      · have hmax := le_max_right 0 (p.deadline - t')
        exact .inr (by linarith)
      · have htwo := hwanted q hfin
        dsimp only at ht'
        exact .inl (by linarith)

theorem keepPolling_counts {observed : StateValue} (htimed : target.timeout = args.timeout)
    (hroom : s.calls + (7 + 9 * (roundsLeft p.deadline s.low - 1) + (2 + certCalls args.timeout)) ≤
      callsAtMost args.timeout) :
    (keepPolling target p observed).Relies (counting (callsAtMost args.timeout) ())
      (EndsInTime args) s := by
  unfold keepPolling
  refine takes_bind (noteUnknown_takes (by omega)) (fun _ _ => trivial) fun p₁ s₁ h₁ hl₁ hd₁ => ?_
  refine ticks (by omega) fun t ht => ?_
  rw [Action.relies_ite]
  refine ⟨fun _ => giveUp_counts (by dsimp only; omega), fun hlate => ?_⟩
  rw [hd₁] at hlate
  have hround : roundsLeft p.deadline t ≤ roundsLeft p.deadline s.low :=
    roundsLeft_anti (hl₁.trans ht)
  refine takes_bind (beat_takes (by dsimp only; omega)) (fun _ _ => trivial)
    fun p₃ s₃ h₃ hl₃ hd₃ => ?_
  dsimp only at h₃ hl₃
  refine counts (by omega) (fun _ _ => trivial) fun _ s₄ h₄ hs₄ => ⟨⟨htimed, le_rfl⟩, ?_⟩
  have hlow : s₄.low = s₃.low + 2 := by
    rw [hs₄]
    rfl
  have hlt : roundsLeft p.deadline s₄.low + 1 ≤ roundsLeft p.deadline t := by
    refine roundsLeft_lt (not_le.mp hlate) (.inl ?_)
    rw [hlow]
    linarith
  rw [callsLeft]
  dsimp only
  rw [hd₃, hd₁]
  omega

theorem pollingRound_counts (h : InTime args () (some (.polling target p)) s) :
    (pollingRound target p).Relies (counting (callsAtMost args.timeout) ()) (EndsInTime args)
      s := by
  obtain ⟨htimed, hroom⟩ := h
  rw [callsLeft] at hroom
  have hone : 1 ≤ roundsLeft p.deadline s.low := Nat.le_add_left 1 _
  unfold pollingRound fetchState
  rw [Action.relies_bind]
  refine counts (by omega) (fun _ _ => trivial) fun r s₁ h₁ hs₁ => ?_
  have hlow : s₁.low = s.low := by
    rw [hs₁]
    rfl
  rw [Action.relies_ofExcept]
  cases fetched r with
  | error e => trivial
  | ok f =>
    rw [onOk_ok]
    cases f with
    | notFound => exact giveUp_counts (by omega)
    | rateLimited retryAfter =>
      refine backOff_counts (fun q hq => htimed.2.trans (PyFloat.le_of_max_fin hq)) htimed.1 ?_
      rw [hlow]
      omega
    | unreachable =>
      refine backOff_counts ?_ htimed.1 ?_
      · rintro q ⟨rfl⟩
        exact htimed.2
      · rw [hlow]
        omega
    | state observed =>
      show (observe target p observed).Relies _ _ _
      unfold observe
      refine takes_bind (noteState_takes (by omega)) (fun _ _ => trivial)
        fun p₂ s₂ h₂ hl₂ hd₂ => ?_
      rw [Action.relies_ite]
      refine ⟨fun _ => accepted_counts htimed.1 (by omega), fun _ => ?_⟩
      have hround : roundsLeft p₂.deadline s₂.low ≤ roundsLeft p.deadline s.low := by
        rw [hd₂, ← hlow]
        exact roundsLeft_anti hl₂
      exact keepPolling_counts htimed.1 (by omega)

/-! ### Awaiting cert, and Connected -/

theorem awaitHealthz_counts (htimed : target.timeout = args.timeout)
    (hroom : s.calls + (1 + healthCalls args.timeout) ≤ callsAtMost args.timeout) :
    (awaitHealthz target).Relies (counting (callsAtMost args.timeout) ()) (EndsInTime args) s := by
  unfold awaitHealthz
  refine ticks (by omega) fun t _ => ⟨htimed, ?_⟩
  rw [callsLeft, htimed, waitCalls, roundsLeft_start]
  show s.calls + 1 + healthCalls args.timeout ≤ _
  omega

theorem blocks_count {k : Unit} {l : UpLabel} (h : InTime args k (some l) s) :
    (blocks args k l).Relies (counting (callsAtMost args.timeout) k)
      (fun next s => InTime args k next s) s := by
  obtain ⟨⟩ := k
  cases l with
  | command =>
    have hnew : s.calls = 0 := by
      have hroom : s.calls + callsAtMost args.timeout ≤ callsAtMost args.timeout := h.2
      omega
    exact Action.relies_block.mpr (up_counts hnew)
  | starting target => exact Action.relies_block.mpr (starting_counts h)
  | composing target deadline => exact Action.relies_block.mpr (composingRound_counts h)
  | polling target p => exact Action.relies_block.mpr (pollingRound_counts h)
  | certPolling target deadline =>
    exact Action.relies_block.mpr (waitRound_counts (fun _ => rfl) (fun _ _ => rfl)
      (fun _ => awaitHealthz_counts h.1) (fun _ => giveUp_counts) h)
  | healthPolling target deadline =>
    exact Action.relies_block.mpr (waitRound_counts (fun _ => rfl) (fun _ _ => rfl)
      (fun _ => giveUp_counts) (fun _ => giveUp_counts) h)

end Steps

/-! ## Runs -/

/-- The tally is within the bound, and not ahead of the clock. -/
def Behind (args : UpArgs) (_ : Nat) (s : Tally) (w : Rat) : Prop :=
  s.calls ≤ callsAtMost args.timeout ∧ s.low ≤ w

theorem calls_after (s : Tally) (c : UpCall) (r : Raises UpCall.Answer Exn c) :
    (s.after c r).calls = s.calls + 1 := by
  cases c <;> cases r <;> rfl

theorem relied_counting (args : UpArgs) : Relied operatorHost Starts (blocks args)
    (counting (callsAtMost args.timeout)) (InTime args) (Behind args) (fun _ _ => True) where
  block := blocks_count
  may := by
    rintro n ⟨⟩ w c r w' s N served - - hbehind -
    cases c with
    | monotonic => exact ⟨w, served.1, hbehind.2⟩
    | _ => trivial
  own := by
    rintro n ⟨⟩ w c r w' s N served - - ⟨-, hlow⟩ hallowed
    refine ⟨?_, ?_⟩
    · show (s.after c r).calls ≤ _
      rw [calls_after]
      exact hallowed
    · cases c with
      | monotonic =>
        obtain ⟨rfl, rfl⟩ := served
        exact le_rfl
      | sleep seconds =>
        cases r with
        | ok u => exact (add_le_add_left hlow seconds).trans (served.2 rfl)
        | error e => exact hlow.trans served.1
      | _ => cases r <;> exact hlow.trans served
  other served _ _ _ _ _ h := ⟨h.1, h.2.trans (le_of_serve served)⟩
  drift hdrift _ h := ⟨h.1, h.2.trans hdrift⟩
  fresh := False.elim
  inv_serve _ _ _ _ _ := trivial
  inv_drift _ _ := trivial
  inv_succ _ := trivial

/-- A call of the command. -/
def isCall : Rat × Event Replies → Bool
  | (_, .called _ _ _ _) => true
  | _ => false

/-- The tally of a thread that is alone counts all calls. -/
theorem recordOf_calls (most : Nat) (es : List (Rat × Event Replies)) (s : Tally)
    (halone : ∀ w n k c r, (w, .called n k c r) ∈ es → n = 0) :
    (recordOf (counting most) 0 es s).calls = s.calls + es.countP isCall := by
  induction es generalizing s with
  | nil => rfl
  | cons e es ih =>
    have hrest : ∀ w n k c r, (w, .called n k c r) ∈ es → n = 0 :=
      fun w n k c r h => halone w n k c r (List.mem_cons_of_mem _ h)
    obtain ⟨w, e⟩ := e
    cases e with
    | called n k c r =>
      rw [recordOf, if_pos (halone w n k c r List.mem_cons_self), ih _ hrest]
      show (s.after c r).calls + _ = _
      rw [calls_after, List.countP_cons_of_pos (by rfl)]
      omega
    | started n | drifted =>
      rw [recordOf, ih _ hrest, List.countP_cons_of_neg (by simp [isCall])]

/-- **`greffer up` comes to an end.**  Whatever it is answered, and however its waits go, it makes
no more calls than its timeout allows. -/
theorem up_ends {args : UpArgs} {w₀ : Rat} {q : Crew Replies Label Rat}
    {es : List (Rat × Event Replies)}
    (rounds : operatorHost.Rounds Starts (blocks args) ⟨w₀, [upWorker]⟩ es q) :
    es.countP isCall ≤ 18 * ⌈args.timeout / 2⌉₊ + 41 := by
  have hstart : upWorker.Relies (counting (callsAtMost args.timeout)) (InTime args) ⟨0, w₀⟩ :=
    ⟨trivial, (Nat.zero_add _).le⟩
  have hbehind : Behind args 0 ⟨0, w₀⟩ w₀ := ⟨Nat.zero_le _, le_rfl⟩
  have hagrees : Relied.Agrees (counting (callsAtMost args.timeout)) (InTime args) (Behind args)
      (fun _ _ => True) ⟨w₀, [upWorker]⟩ := by
    refine ⟨trivial, fun n t ht => ?_⟩
    cases n with
    | zero =>
      cases ht
      exact ⟨_, hstart, hbehind⟩
    | succ n => cases ht
  obtain ⟨t, -, -, hcalls, -⟩ :=
    (relied_counting args).follows rounds hagrees (n := 0) rfl hstart hbehind
  rw [recordOf_calls, Nat.zero_add, callsAtMost_eq] at hcalls
  · exact hcalls
  · intro w n k c r hmem
    obtain ⟨t, ht⟩ := rounds.thread_of_call (fun _ => id) hmem
    cases n with
    | zero => rfl
    | succ n => cases ht

/-! ### A manager that is down -/

/-- The command gives up after four seconds. -/
def impatient : UpArgs := { proxyArgs with timeout := 4 }

/-- All that it calls while nothing answers it. -/
def outage := callsFor impatient (fun _ => none) 60 (.pure (some .command)) 0

example : outage.2.2 = .pure none := by with_unfolding_all rfl

theorem up_ends_outage : outage.1.countP isCall ≤ 18 * ⌈impatient.timeout / 2⌉₊ + 41 :=
  up_ends (callsFor_rounds impatient (fun _ => none) 60 (.pure (some .command)) 0)

end Greffer.Bringup

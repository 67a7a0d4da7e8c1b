import Greffer.CertRenewal.Pass

/-! # Attempts before expiry

The settings promise four attempts between the moment a certificate enters its renewal
window and its expiry.  The promise is kept by arithmetic: a failure backs the instance off
for at most a day, a deadline is noticed one tick later at most, and the window is wider than
three such gaps and one more tick.

`Ticks` is what the worker does of one instance in that window, tick by tick: skip it, or
attempt it and fail.  **The `n`-th attempt comes before `lastBy n`**, and there are ticks
for which it comes as late as that, so four attempts are certain exactly if the fourth
bound is within the window (`four_attempts_iff`).  With no backoff from before the window it
is (`window_fits_fresh`); a backoff that was left by an earlier failure costs up to a day
more, for which the validated window has no room (`carried_backoff_starves`).
-/
namespace Greffer.CertRenewal
open Effects

/-! ## The settings -/

/-- `_MIN_ATTEMPTS_IN_WINDOW`. -/
def minAttemptsInWindow : Int := 4

/-- `_cert_renewal_interval_in_range`. -/
def certRenewalIntervalInRange (v : Int) : Except String Int :=
  if 60 ≤ v ∧ v ≤ 86400 then .ok v
  else .error "greffer_cert_renewal_interval must be between 60 and 86400"

/-- `_cert_renewal_window_sane`. -/
def certRenewalWindowSane (v : Int) : Except String Int :=
  if 1 ≤ v ∧ v ≤ 29 then .ok v
  else .error "greffer_cert_renewal_window_days must be between 1 and 29"

/-- The seconds that a window has to exceed. -/
def retryFloor (interval : Int) : Int :=
  (minAttemptsInWindow - 1) * backoffCapSeconds + minAttemptsInWindow * interval

/-- `_renewal_window_fits_the_retries`. -/
def renewalWindowFitsTheRetries (interval windowDays : Int) : Except String Unit :=
  if windowDays * 86400 ≤ retryFloor interval then
    .error (s!"greffer_cert_renewal_window_days={windowDays} is too narrow to guarantee " ++
      s!"{minAttemptsInWindow} renewal attempts before expiry at " ++
      s!"greffer_cert_renewal_interval={interval}: retries back off up to " ++
      s!"{backoffCapSeconds / 3600}h and are only picked up on a tick, so the window must " ++
      s!"exceed {retryFloor interval / 3600}h. Widen the window or shorten the interval.")
  else .ok ()

/-- The renewal settings that are accepted: the fields first, then the two together. -/
def acceptRenewal (interval windowDays : Int) : Except (List String) Settings :=
  match certRenewalIntervalInRange interval, certRenewalWindowSane windowDays with
  | .ok interval, .ok windowDays =>
    match renewalWindowFitsTheRetries interval windowDays with
    | .ok () => .ok
      { grefferCertRenewalInterval := interval.toNat
        grefferCertRenewalWindowDays := windowDays }
    | .error e => .error [e]
  | .error e, .error e' => .error [e, e']
  | .error e, .ok _ | .ok _, .error e => .error [e]

namespace Settings
variable (settings : Settings)

/-- The seconds between two ticks, at most. -/
def interval : Rat := settings.grefferCertRenewalInterval

/-- The seconds of the renewal window. -/
def window : Rat := (settings.grefferCertRenewalWindowDays * 86400 : Int)

/-- The delay after so many failures in a row. -/
def delay (failures : Nat) : Rat :=
  (min (settings.grefferCertRenewalInterval * 2 ^ (failures - 1)) backoffCapSeconds : Nat)

end Settings

section Settings
variable {interval windowDays : Int} {settings : Settings}

/-- **What is accepted**: the bounds of the fields, and a window wider than the floor. -/
theorem acceptRenewal_ok (h : acceptRenewal interval windowDays = .ok settings) :
    60 ≤ settings.interval ∧ 3 * (backoffCapSeconds : Rat) + 4 * settings.interval <
      settings.window := by
  unfold acceptRenewal certRenewalIntervalInRange certRenewalWindowSane
    renewalWindowFitsTheRetries at h
  by_cases hinterval : 60 ≤ interval ∧ interval ≤ 86400
  · by_cases hwindow : 1 ≤ windowDays ∧ windowDays ≤ 29
    · by_cases hfits : windowDays * 86400 ≤ retryFloor interval
      · simp only [if_pos hinterval, if_pos hwindow, if_pos hfits] at h
        cases h
      · simp only [if_pos hinterval, if_pos hwindow, if_neg hfits] at h
        obtain rfl := Except.ok.inj h
        obtain ⟨n, rfl⟩ := Int.eq_ofNat_of_zero_le (show 0 ≤ interval by omega)
        have hn : 60 ≤ n := by omega
        refine ⟨?_, ?_⟩
        · show (60 : Rat) ≤ ((n : Int).toNat : Nat)
          rw [Int.toNat_natCast]
          exact_mod_cast hn
        · have hfloor : 3 * (86400 : Int) + 4 * n < windowDays * 86400 := by
            unfold retryFloor minAttemptsInWindow backoffCapSeconds at hfits
            omega
          show 3 * ((86400 : Nat) : Rat) + 4 * (((n : Int).toNat : Nat) : Rat) <
            ((windowDays * 86400 : Int) : Rat)
          rw [Int.toNat_natCast]
          exact_mod_cast hfloor
    · simp only [if_pos hinterval, if_neg hwindow] at h
      cases h
  · by_cases hwindow : 1 ≤ windowDays ∧ windowDays ≤ 29
    · simp only [if_neg hinterval, if_pos hwindow] at h
      cases h
    · simp only [if_neg hinterval, if_neg hwindow] at h
      cases h

theorem delay_le_cap (settings : Settings) (failures : Nat) :
    settings.delay failures ≤ backoffCapSeconds := by
  unfold Settings.delay
  exact_mod_cast min_le_right _ _

theorem delay_mono (settings : Settings) {failures failures' : Nat} (h : failures ≤ failures') :
    settings.delay failures ≤ settings.delay failures' := by
  unfold Settings.delay
  have hpow : 2 ^ (failures - 1) ≤ 2 ^ (failures' - 1) :=
    Nat.pow_le_pow_right (by decide) (by omega)
  exact_mod_cast min_le_min_right _ (Nat.mul_le_mul_left _ hpow)

theorem one_le_delay (hinterval : 0 < settings.interval) (failures : Nat) :
    1 ≤ settings.delay failures := by
  have hpos : 0 < settings.grefferCertRenewalInterval := by
    unfold Settings.interval at hinterval
    exact_mod_cast hinterval
  have hdelay : 1 ≤ min (settings.grefferCertRenewalInterval * 2 ^ (failures - 1))
      backoffCapSeconds :=
    le_min (Nat.mul_pos hpos (Nat.two_pow_pos _)) (by decide)
  unfold Settings.delay
  exact_mod_cast hdelay

theorem delay_pos (hinterval : 0 < settings.interval) (failures : Nat) :
    0 < settings.delay failures :=
  lt_of_lt_of_le one_pos (one_le_delay hinterval failures)

end Settings

/-! ## The backoff of an instance -/

/-- The clocks say `now`. -/
def clockAt (now : Rat) : Machine (Raises Answer RenewalError) Unit where
  serve _ c r _ :=
    match c, r with
    | .monotonic, r | .utcNow, r => r = .ok now
    | _, _ => True

namespace Memory
variable (m : Memory) (settings : Settings) (greffonId : String) (now : Rat)

/-- The failures in a row, and the deadline; an instance that does not back off has none. -/
def failures : Nat := ((m.renewalBackoff.lookup greffonId).map Prod.fst).getD 0

/-- The instance backs off at this time. -/
def backsOff : Bool :=
  match m.renewalBackoff.lookup greffonId with
  | none => false
  | some entry => decide (now < entry.2)

/-- The memory after a failure at this time. -/
def noted : Memory :=
  { m with
    renewalBackoff := upsert m.renewalBackoff greffonId
      (m.failures greffonId + 1, now + settings.delay (m.failures greffonId + 1)) }

end Memory

section Clock
variable {m m' : Memory} {settings : Settings} {greffonId : String} {now expiry : Rat} {b : Bool}

theorem monotonic_serve : (clockAt now).serve () .monotonic (.ok now) () := rfl

theorem utcNow_serve : (clockAt now).serve () .utcNow (.ok now) () := rfl

theorem inBackoff_at : (inBackoff greffonId).Always (clockAt now) (fun _ => True)
    (fun r m' _ => r = .ok (m.backsOff greffonId now) ∧ m' = m) m () := by
  unfold inBackoff Memory.backsOff
  rw [Routine.always_bind, Routine.always_locals]
  refine ⟨trivial, ?_⟩
  rw [Routine.onOk_ok]
  cases m.renewalBackoff.lookup greffonId with
  | none => exact ⟨trivial, rfl, rfl⟩
  | some entry =>
    dsimp only
    rw [Routine.always_bind, Routine.always_monadLift]
    refine ⟨trivial, fun r _ hserve => ?_⟩
    obtain rfl : r = .ok now := hserve
    exact ⟨trivial, trivial, rfl, rfl⟩

theorem inBackoff_runs (m : Memory) (greffonId : String) (now : Rat) :
    Run (clockAt now) () (inBackoff greffonId m) ()
      (.pure (.ok (m.backsOff greffonId now), m)) := by
  unfold inBackoff Memory.backsOff
  dsimp only [bind, Routine.bind, Routine.locals, Prog.pure_bind]
  cases m.renewalBackoff.lookup greffonId with
  | none => exact .refl _ _
  | some entry => exact .step monotonic_serve (.refl _ _)

theorem noteFailure_at : (noteFailure settings greffonId).Always (clockAt now) (fun _ => True)
    (fun r m' _ => r = .ok () ∧ m' = m.noted settings greffonId now) m () := by
  unfold noteFailure
  rw [Routine.always_bind, Routine.always_locals]
  refine ⟨trivial, ?_⟩
  rw [Routine.onOk_ok, Routine.always_bind, Routine.always_monadLift]
  refine ⟨trivial, fun r _ hserve => ?_⟩
  obtain rfl : r = .ok now := hserve
  exact ⟨trivial, trivial, rfl, rfl⟩

theorem noteFailure_runs (settings : Settings) (m : Memory) (greffonId : String) (now : Rat) :
    Run (clockAt now) () (noteFailure settings greffonId m) ()
      (.pure (.ok (), m.noted settings greffonId now)) :=
  .step monotonic_serve (.refl _ _)

theorem wantsRenewal_at : (wantsRenewal settings false (some expiry)).Always (clockAt now)
    (fun _ => True) (fun r _ => r = .ok (decide (expiry - now ≤ settings.window))) () := by
  unfold wantsRenewal dueForRenewal
  rw [if_neg (by decide)]
  dsimp only
  rw [Action.always_bind]
  refine ⟨trivial, fun r _ hserve => ?_⟩
  obtain rfl : r = .ok now := hserve
  refine ⟨trivial, trivial, ?_⟩
  unfold Settings.window
  push_cast
  rfl

theorem wantsRenewal_runs (settings : Settings) (expiry now : Rat) :
    Run (clockAt now) () (wantsRenewal settings false (some expiry)) ()
      (.pure (.ok (decide (expiry - now ≤ settings.window)))) := by
  have hrun : Run (clockAt now) () (wantsRenewal settings false (some expiry)) ()
      (.pure (.ok (decide (expiry - now ≤ settings.grefferCertRenewalWindowDays * 86400)))) :=
    .step utcNow_serve (.refl _ _)
  unfold Settings.window
  push_cast
  exact hrun

end Clock

/-! ## The worker, tick by tick -/

/-- One tick at which the instance is looked at: whether it was attempted, and the memory
after.  A failed attempt is noted, unless the manager alone is to blame. -/
inductive Tick (settings : Settings) (greffonId : String) (expiry now : Rat) (m : Memory) :
    Bool → Memory → Prop
  | skipped (backoff : Run (clockAt now) () (inBackoff greffonId m) () (.pure (.ok true, m))) :
      Tick settings greffonId expiry now m false m
  | failed {m' : Memory}
      (free : Run (clockAt now) () (inBackoff greffonId m) () (.pure (.ok false, m)))
      (due : Run (clockAt now) () (wantsRenewal settings false (some expiry)) ()
        (.pure (.ok true)))
      (after : m' = m ∨
        Run (clockAt now) () (noteFailure settings greffonId m) () (.pure (.ok (), m'))) :
      Tick settings greffonId expiry now m true m'

/-- **The ticks of the worker**, at most an interval apart and every attempt failing: from a
tick at one time to a tick at another, with the times of the attempts. -/
inductive Ticks (settings : Settings) (greffonId : String) (expiry : Rat) :
    Rat → Memory → List Rat → Rat → Memory → Prop
  | stop (t : Rat) (m : Memory) : Ticks settings greffonId expiry t m [] t m
  | skip {t t' t'' : Rat} {m m' m'' : Memory} {attempts : List Rat} (later : t ≤ t')
      (soon : t' ≤ t + settings.interval) (tick : Tick settings greffonId expiry t' m false m')
      (rest : Ticks settings greffonId expiry t' m' attempts t'' m'') :
      Ticks settings greffonId expiry t m attempts t'' m''
  | attempt {t t' t'' : Rat} {m m' m'' : Memory} {attempts : List Rat} (later : t ≤ t')
      (soon : t' ≤ t + settings.interval) (tick : Tick settings greffonId expiry t' m true m')
      (rest : Ticks settings greffonId expiry t' m' attempts t'' m'') :
      Ticks settings greffonId expiry t m (t' :: attempts) t'' m''

/-- The memories that the worker's own operations can have left at a time: failures noted
and settled, of attempts that were due or forced. -/
inductive Left (settings : Settings) (greffonId : String) : Rat → Memory → Prop
  | start (t : Rat) : Left settings greffonId t {}
  | wait {t t' : Rat} {m : Memory} (before : Left settings greffonId t m) (later : t ≤ t') :
      Left settings greffonId t' m
  | note {t : Rat} {m m' : Memory} (before : Left settings greffonId t m)
      (run : Run (clockAt t) () (noteFailure settings greffonId m) () (.pure (.ok (), m'))) :
      Left settings greffonId t m'
  | clear {t : Rat} {m m' : Memory} (before : Left settings greffonId t m)
      (run : Run (clockAt t) () (clearBackoff greffonId m) () (.pure (.ok (), m'))) :
      Left settings greffonId t m'

/-- The bound of the `n`-th attempt after the first, if the instance may be attempted from
`free` on, after so many failures. -/
def lastBy (settings : Settings) : Nat → Rat → Nat → Rat
  | 0, free, _ => free + settings.interval
  | n + 1, free, failures =>
    lastBy settings n (free + settings.interval + settings.delay (failures + 1)) (failures + 1)

/-- From this time on the instance may be attempted. -/
def Memory.freeFrom (m : Memory) (greffonId : String) (entered : Rat) : Rat :=
  match m.renewalBackoff.lookup greffonId with
  | none => entered
  | some entry => max entered entry.2

/-- The time is in the window, and before its end. -/
def within (entered expiry a : Rat) : Bool := decide (entered ≤ a ∧ a < expiry)

section Ticks
variable {settings : Settings} {greffonId : String} {expiry now t t'' free : Rat}
  {m m' m'' : Memory} {attempts : List Rat}

theorem Tick.skipped_iff : Tick settings greffonId expiry now m false m' ↔
    m.backsOff greffonId now = true ∧ m' = m := by
  constructor
  · intro h
    cases h with
    | skipped backoff =>
      exact ⟨(Except.ok.inj (inBackoff_at.at_return backoff).1).symm, rfl⟩
  · intro h
    obtain ⟨hback, rfl⟩ := h
    have hrun := inBackoff_runs m' greffonId now
    rw [hback] at hrun
    exact .skipped hrun

theorem Tick.failed_iff : Tick settings greffonId expiry now m true m' ↔
    m.backsOff greffonId now = false ∧ expiry - settings.window ≤ now ∧
      (m' = m ∨ m' = m.noted settings greffonId now) := by
  constructor
  · intro h
    cases h with
    | failed free due after =>
      have hdue := Except.ok.inj (wantsRenewal_at.at_return due)
      refine ⟨(Except.ok.inj (inBackoff_at.at_return free).1).symm, ?_, ?_⟩
      · have hle := of_decide_eq_true hdue.symm
        linarith
      · exact after.imp_right fun run => (noteFailure_at.at_return run).2
  · intro h
    obtain ⟨hback, hdue, hafter⟩ := h
    have hfree := inBackoff_runs m greffonId now
    rw [hback] at hfree
    have hrun := wantsRenewal_runs settings expiry now
    rw [decide_eq_true (show expiry - now ≤ settings.window by linarith)] at hrun
    refine .failed hfree hrun (hafter.imp_right fun h => ?_)
    rw [h]
    exact noteFailure_runs settings m greffonId now

theorem backsOff_lt (h : m.backsOff greffonId now = true)
    (hfree : ∀ e, m.renewalBackoff.lookup greffonId = some e → e.2 ≤ free) : now < free := by
  unfold Memory.backsOff at h
  split at h
  · cases h
  · rename_i entry hentry
    exact lt_of_lt_of_le (of_decide_eq_true h) (hfree entry hentry)

theorem backsOff_le (h : m.backsOff greffonId now = false) :
    ∀ e, m.renewalBackoff.lookup greffonId = some e → e.2 ≤ now := by
  intro e he
  unfold Memory.backsOff at h
  rw [he] at h
  exact not_lt.mp (of_decide_eq_false h)

theorem failures_noted : (m.noted settings greffonId now).failures greffonId =
    m.failures greffonId + 1 := by
  unfold Memory.noted
  show (((upsert m.renewalBackoff greffonId _).lookup greffonId).map Prod.fst).getD 0 = _
  rw [lookup_upsert_self]
  rfl

theorem lookup_noted : (m.noted settings greffonId now).renewalBackoff.lookup greffonId =
    some (m.failures greffonId + 1, now + settings.delay (m.failures greffonId + 1)) :=
  lookup_upsert_self _ _ _

/-! ### Early enough -/

/-- **The next attempt comes one interval after the instance is free**, at the latest. -/
theorem next_attempt (hinterval : 0 < settings.interval)
    (h : Ticks settings greffonId expiry t m attempts t'' m'') (ht : t < free)
    (hfree : ∀ e, m.renewalBackoff.lookup greffonId = some e → e.2 ≤ free)
    (hend : free + settings.interval ≤ t'') :
    ∃ a rest m', attempts = a :: rest ∧ a < free + settings.interval ∧
      expiry - settings.window ≤ a ∧
      (∀ e, m.renewalBackoff.lookup greffonId = some e → e.2 ≤ a) ∧
      (m' = m ∨ m' = m.noted settings greffonId a) ∧
      Ticks settings greffonId expiry a m' rest t'' m'' := by
  induction h with
  | stop t m => linarith
  | skip later soon tick rest ih =>
    obtain ⟨hback, rfl⟩ := Tick.skipped_iff.mp tick
    exact ih (backsOff_lt hback hfree) hfree hend
  | @attempt t t' t'' m m' m'' attempts later soon tick rest ih =>
    obtain ⟨hback, hdue, hafter⟩ := Tick.failed_iff.mp tick
    exact ⟨t', attempts, m', rfl, by linarith, hdue, backsOff_le hback, hafter, rest⟩

theorem le_lastBy (hinterval : 0 < settings.interval) (n : Nat) (free : Rat) (failures : Nat) :
    free + settings.interval ≤ lastBy settings n free failures := by
  induction n generalizing free failures with
  | zero => exact le_refl _
  | succ n ih =>
    have hdelay := delay_pos hinterval (failures + 1)
    refine le_trans ?_ (ih _ _)
    linarith

/-- **So many attempts are made before the bound.** -/
theorem attempts_by (hinterval : 0 < settings.interval) (n : Nat) {failures : Nat}
    (h : Ticks settings greffonId expiry t m attempts t'' m'') (ht : t < free)
    (hfree : ∀ e, m.renewalBackoff.lookup greffonId = some e → e.2 ≤ free)
    (hfailures : m.failures greffonId ≤ failures)
    (hend : lastBy settings n free failures ≤ t'') :
    n + 1 ≤ attempts.countP (within (expiry - settings.window)
      (lastBy settings n free failures)) := by
  induction n generalizing t m attempts free failures with
  | zero =>
    obtain ⟨a, rest, m', rfl, ha, hdue, -⟩ := next_attempt hinterval h ht hfree hend
    have hfirst : within (expiry - settings.window) (lastBy settings 0 free failures) a = true :=
      decide_eq_true ⟨hdue, ha⟩
    rw [List.countP_cons_of_pos hfirst]
    omega
  | succ n ih =>
    have hlast := le_lastBy hinterval n (free + settings.interval +
      settings.delay (failures + 1)) (failures + 1)
    have hdelay := delay_pos hinterval (failures + 1)
    have hbound : free + settings.interval ≤ lastBy settings (n + 1) free failures := by
      show _ ≤ lastBy settings n _ _
      linarith
    obtain ⟨a, rest, m', rfl, ha, hdue, hfree', hafter, hrest⟩ :=
      next_attempt hinterval h ht hfree (hbound.trans hend)
    -- the deadline of the next attempt, noted or not
    have hnext : (∀ e, m'.renewalBackoff.lookup greffonId = some e →
        e.2 ≤ free + settings.interval + settings.delay (failures + 1)) ∧
        m'.failures greffonId ≤ failures + 1 := by
      obtain rfl | rfl := hafter
      · refine ⟨fun e he => ?_, by omega⟩
        have := hfree' e he
        linarith
      · refine ⟨fun e he => ?_, by rw [failures_noted]; omega⟩
        rw [lookup_noted] at he
        obtain rfl := Option.some.inj he
        have := delay_mono settings (show m.failures greffonId + 1 ≤ failures + 1 by omega)
        dsimp only
        linarith
    have hmore := ih hrest (by linarith) hnext.1 hnext.2 hend
    have hfirst : within (expiry - settings.window) (lastBy settings (n + 1) free failures) a =
        true := decide_eq_true ⟨hdue, lt_of_lt_of_le ha hbound⟩
    rw [List.countP_cons_of_pos hfirst]
    exact Nat.succ_le_succ hmore

/-! ### No earlier than that -/

theorem lastBy_zero (free : Rat) (failures : Nat) :
    lastBy settings 0 free failures = free + settings.interval := rfl

theorem lastBy_succ (n : Nat) (free : Rat) (failures : Nat) :
    lastBy settings (n + 1) free failures =
      lastBy settings n (free + settings.interval + settings.delay (failures + 1))
        (failures + 1) := rfl

theorem lastBy_add (n : Nat) (free shift : Rat) (failures : Nat) :
    lastBy settings n (free + shift) failures = lastBy settings n free failures + shift := by
  induction n generalizing free failures with
  | zero =>
    rw [lastBy_zero, lastBy_zero]
    ring
  | succ n ih =>
    rw [lastBy_succ, lastBy_succ,
      show free + shift + settings.interval + settings.delay (failures + 1) =
        free + settings.interval + settings.delay (failures + 1) + shift by ring]
    exact ih _ _

/-- While the instance backs off, any time may be a tick. -/
theorem skip_to (hinterval : 0 < settings.interval) {t' : Rat} {failures : Nat}
    (hentry : m.renewalBackoff.lookup greffonId = some (failures, free)) (hle : t ≤ t')
    (hlt : t' < free) : Ticks settings greffonId expiry t m [] t' m := by
  obtain ⟨n, hn⟩ := exists_nat_ge ((t' - t) / settings.interval)
  have hgap : t' ≤ t + n * settings.interval := by
    rw [div_le_iff₀ hinterval] at hn
    linarith
  have hskip (s : Rat) (hs : s ≤ t') : Tick settings greffonId expiry s m false m := by
    refine Tick.skipped_iff.mpr ⟨?_, rfl⟩
    unfold Memory.backsOff
    rw [hentry]
    exact decide_eq_true (lt_of_le_of_lt hs hlt)
  clear hn
  induction n generalizing t with
  | zero =>
    have ht : t' = t := le_antisymm (by simpa using hgap) hle
    rw [ht]
    exact .stop t m
  | succ n ih =>
    by_cases hsoon : t' ≤ t + settings.interval
    · exact .skip hle hsoon (hskip t' (le_refl t')) (.stop t' m)
    · have hstep : t + settings.interval ≤ t' := le_of_lt (not_le.mp hsoon)
      refine .skip (by linarith) (le_refl _) (hskip _ hstep) (ih hstep ?_)
      push_cast at hgap
      linarith

theorem Ticks.trans {t' : Rat} {attempts' : List Rat}
    (h : Ticks settings greffonId expiry t m attempts t' m')
    (h' : Ticks settings greffonId expiry t' m' attempts' t'' m'') :
    Ticks settings greffonId expiry t m (attempts ++ attempts') t'' m'' := by
  induction h with
  | stop => exact h'
  | skip later soon tick _ ih => exact .skip later soon tick (ih h')
  | attempt later soon tick _ ih => exact .attempt later soon tick (ih h')

/-- The attempt is missed by one tick and made at the next. -/
theorem late_attempt (hinterval : 0 < settings.interval) {failures : Nat} {margin : Rat}
    (hentry : m.renewalBackoff.lookup greffonId = some (failures, free))
    (hmargin : 0 < margin) (hsmall : margin ≤ settings.interval) (ht : t + margin ≤ free)
    (hdue : expiry - settings.window ≤ free) :
    Ticks settings greffonId expiry t m [free - margin + settings.interval]
      (free - margin + settings.interval)
      (m.noted settings greffonId (free - margin + settings.interval)) := by
  have hskip : Ticks settings greffonId expiry t m [] (free - margin) m :=
    skip_to hinterval hentry (by linarith) (by linarith)
  refine hskip.trans (.attempt (by linarith) (le_refl _) (Tick.failed_iff.mpr ⟨?_, ?_, .inr rfl⟩)
    (.stop _ _))
  · unfold Memory.backsOff
    rw [hentry]
    exact decide_eq_false (by dsimp only; linarith)
  · linarith

/-- **Ticks for which the attempts come that late**, but for a margin at each. -/
theorem attempts_late (hinterval : 0 < settings.interval) (n : Nat) {failures : Nat}
    {margin : Rat} (hfailures : m.failures greffonId = failures)
    (hfirst : Ticks settings greffonId expiry t m [free - margin + settings.interval]
      (free - margin + settings.interval)
      (m.noted settings greffonId (free - margin + settings.interval)))
    (hmargin : 0 < margin) (hsmall : margin ≤ settings.interval)
    (hdelays : ∀ k, margin ≤ settings.delay k) (hdue : expiry - settings.window ≤ free) :
    ∃ earlier last m'', Ticks settings greffonId expiry t m (earlier ++ [last]) last m'' ∧
      earlier.length = n ∧ last = lastBy settings n free failures - (n + 1) * margin := by
  induction n generalizing t m free failures with
  | zero =>
    refine ⟨[], _, _, hfirst, rfl, ?_⟩
    rw [lastBy_zero]
    push_cast
    ring
  | succ n ih =>
    have hnoted : (m.noted settings greffonId
        (free - margin + settings.interval)).renewalBackoff.lookup greffonId =
        some (failures + 1,
          free - margin + settings.interval + settings.delay (failures + 1)) := by
      rw [lookup_noted, hfailures]
    have hdelay := hdelays (failures + 1)
    have hdelaypos := delay_pos hinterval (failures + 1)
    have hlate : expiry - settings.window ≤
        free - margin + settings.interval + settings.delay (failures + 1) := by linarith
    have hnext := late_attempt (t := free - margin + settings.interval) hinterval
      hnoted hmargin hsmall (by linarith) hlate
    have hagain : (m.noted settings greffonId (free - margin + settings.interval)).failures
        greffonId = failures + 1 := by
      rw [failures_noted, hfailures]
    obtain ⟨earlier, last, m'', hticks, hlength, hlast⟩ := ih hagain hnext (by linarith)
    refine ⟨_ :: earlier, last, m'', hfirst.trans hticks, by rw [List.length_cons, hlength], ?_⟩
    rw [hlast, show free - margin + settings.interval + settings.delay (failures + 1) =
      free + settings.interval + settings.delay (failures + 1) + -margin by ring, lastBy_add,
      lastBy_succ]
    push_cast
    ring

end Ticks

/-! ## The law -/

section Law
variable {settings : Settings} {greffonId : String} {entered : Rat} {m : Memory}

/-- **Every run of failing ticks over the window makes four attempts in it**, the worker's
memory of the instance being `m` when its certificate enters the window. -/
def FourAttempts (settings : Settings) (greffonId : String) (entered : Rat) (m : Memory) : Prop :=
  ∀ t attempts t' m', t < entered → entered + settings.window ≤ t' →
    Ticks settings greffonId (entered + settings.window) t m attempts t' m' →
      4 ≤ attempts.countP (within entered (entered + settings.window))

theorem le_freeFrom (m : Memory) (greffonId : String) (entered : Rat) :
    entered ≤ m.freeFrom greffonId entered := by
  unfold Memory.freeFrom
  split
  · exact le_refl _
  · exact le_max_left _ _

/-- **A bound within the window is enough.** -/
theorem fourAttempts_of_fits (hinterval : 0 < settings.interval)
    (h : lastBy settings 3 (m.freeFrom greffonId entered) (m.failures greffonId) ≤
      entered + settings.window) : FourAttempts settings greffonId entered m := by
  intro t attempts t' m' ht hend hticks
  have hentered : entered ≤ m.freeFrom greffonId entered := le_freeFrom m greffonId entered
  have hfree : ∀ e, m.renewalBackoff.lookup greffonId = some e →
      e.2 ≤ m.freeFrom greffonId entered := by
    intro e he
    unfold Memory.freeFrom
    rw [he]
    exact le_max_right _ _
  have hcount := attempts_by hinterval 3 hticks (lt_of_lt_of_le ht hentered) hfree (le_refl _)
    (h.trans hend)
  rw [show entered + settings.window - settings.window = entered by ring] at hcount
  refine le_trans hcount (List.countP_mono_left fun a _ ha => ?_)
  have hin := of_decide_eq_true ha
  exact decide_eq_true ⟨hin.1, lt_of_lt_of_le hin.2 h⟩

/-- **A bound beyond the window is reached**: the fourth attempt comes too late. -/
theorem late_fourth (hinterval : 1 ≤ settings.interval)
    (h : entered + settings.window <
      lastBy settings 3 (m.freeFrom greffonId entered) (m.failures greffonId)) :
    ¬ FourAttempts settings greffonId entered m := by
  have hpos : 0 < settings.interval := lt_of_lt_of_le one_pos hinterval
  -- Room to spare: every tick comes a margin before the next attempt would be due.
  obtain ⟨margin, hmargin, hone, hspare⟩ : ∃ margin : Rat, 0 < margin ∧ margin ≤ 1 ∧
      entered + settings.window + 4 * margin ≤
        lastBy settings 3 (m.freeFrom greffonId entered) (m.failures greffonId) := by
    refine ⟨min 1 ((lastBy settings 3 (m.freeFrom greffonId entered) (m.failures greffonId) -
      (entered + settings.window)) / 4), lt_min one_pos (by linarith), min_le_left _ _, ?_⟩
    have := min_le_right (1 : Rat) ((lastBy settings 3 (m.freeFrom greffonId entered)
      (m.failures greffonId) - (entered + settings.window)) / 4)
    linarith
  have hexpiry : entered + settings.window - settings.window = entered := by ring
  have hentered : entered ≤ m.freeFrom greffonId entered := le_freeFrom m greffonId entered
  -- The first attempt, at the end of the backoff from before or at the window.
  have hfirst : Ticks settings greffonId (entered + settings.window) (entered - margin) m
      [m.freeFrom greffonId entered - margin + settings.interval]
      (m.freeFrom greffonId entered - margin + settings.interval)
      (m.noted settings greffonId (m.freeFrom greffonId entered - margin + settings.interval)) := by
    by_cases hcarried : ∃ e, m.renewalBackoff.lookup greffonId = some e ∧ entered ≤ e.2
    · obtain ⟨e, hentry, hlate⟩ := hcarried
      have hfree : m.freeFrom greffonId entered = e.2 := by
        unfold Memory.freeFrom
        rw [hentry]
        exact max_eq_right hlate
      rw [hfree]
      exact late_attempt hpos hentry hmargin (hone.trans hinterval) (by linarith) (by linarith)
    · have hfree : m.freeFrom greffonId entered = entered := by
        unfold Memory.freeFrom
        split
        · rfl
        · rename_i e hentry
          exact max_eq_left (le_of_lt (not_le.mp fun hle => hcarried ⟨e, hentry, hle⟩))
      rw [hfree]
      refine .attempt (by linarith) (le_refl _) (Tick.failed_iff.mpr ⟨?_, by linarith, .inr rfl⟩)
        (.stop _ _)
      unfold Memory.backsOff
      split
      · rfl
      · rename_i e hentry
        refine decide_eq_false (not_lt.mpr ?_)
        have := not_le.mp fun hle => hcarried ⟨e, hentry, hle⟩
        linarith
  obtain ⟨earlier, last, m', hticks, hlength, hlast⟩ := attempts_late hpos 3 rfl hfirst hmargin
    (hone.trans hinterval) (fun k => hone.trans (one_le_delay hpos k)) (by linarith)
  intro hfour
  have hend : entered + settings.window ≤ last := by
    rw [hlast]
    push_cast
    linarith
  have hcount := hfour _ _ _ _ (by linarith) hend hticks
  have hlate : within entered (entered + settings.window) last = false :=
    decide_eq_false fun hin => absurd hin.2 (not_lt.mpr hend)
  rw [List.countP_append, List.countP_singleton, if_neg (by rw [hlate]; decide)] at hcount
  have := List.countP_le_length (p := within entered (entered + settings.window)) (l := earlier)
  omega

/-- **Four attempts before expiry**: what the accepted settings promise holds, of an
instance whose certificate enters its window, exactly if the fourth bound is within the
window.  The bound starts at the deadline of a backoff from before. -/
theorem four_attempts_iff {interval windowDays : Int}
    (h : acceptRenewal interval windowDays = .ok settings) (greffonId : String) (entered : Rat)
    (m : Memory) : FourAttempts settings greffonId entered m ↔
      lastBy settings 3 (m.freeFrom greffonId entered) (m.failures greffonId) ≤
        entered + settings.window := by
  have hinterval := (acceptRenewal_ok h).1
  constructor
  · intro hfour
    by_contra hbeyond
    exact late_fourth (by linarith) (not_le.mp hbeyond) hfour
  · intro hfits
    exact fourAttempts_of_fits (by linarith) hfits

theorem four_attempts_iff_default : FourAttempts {} "a" 0 {} ↔
    lastBy {} 3 (({} : Memory).freeFrom "a" 0) (({} : Memory).failures "a") ≤
      0 + ({} : Settings).window :=
  four_attempts_iff (show acceptRenewal 21600 7 = .ok {} by rfl) "a" 0 {}

/-! ### What the window has room for -/

/-- The bound of the fourth attempt, with every delay at its cap. -/
theorem lastBy_three_le (free : Rat) (failures : Nat) : lastBy settings 3 free failures ≤
    free + 3 * (backoffCapSeconds : Rat) + 4 * settings.interval := by
  have h₁ := delay_le_cap settings (failures + 1)
  have h₂ := delay_le_cap settings (failures + 1 + 1)
  have h₃ := delay_le_cap settings (failures + 1 + 1 + 1)
  rw [lastBy_succ, lastBy_succ, lastBy_succ, lastBy_zero]
  linarith

/-- **With no backoff from before the window the promise is kept.** -/
theorem window_fits_fresh {interval windowDays : Int}
    (h : acceptRenewal interval windowDays = .ok settings)
    (hfresh : ∀ e, m.renewalBackoff.lookup greffonId = some e → e.2 ≤ entered) :
    FourAttempts settings greffonId entered m := by
  obtain ⟨hinterval, hfloor⟩ := acceptRenewal_ok h
  refine fourAttempts_of_fits (by linarith) ?_
  have hfree : m.freeFrom greffonId entered = entered := by
    unfold Memory.freeFrom
    split
    · rfl
    · rename_i e hentry
      exact max_eq_left (hfresh e hentry)
  have hbound : lastBy settings 3 (m.freeFrom greffonId entered) (m.failures greffonId) ≤
      m.freeFrom greffonId entered + 3 * (backoffCapSeconds : Rat) + 4 * settings.interval :=
    lastBy_three_le _ _
  rw [hfree] at hbound ⊢
  linarith

/-- What the worker has left backs the instance off for no more than the cap. -/
theorem Left.deadline (h : Left settings greffonId entered m) :
    ∀ e, m.renewalBackoff.lookup greffonId = some e → e.2 ≤ entered + backoffCapSeconds := by
  induction h with
  | start t =>
    intro e he
    cases he
  | wait before later ih =>
    intro e he
    have := ih e he
    linarith
  | @note t m m' before run ih =>
    obtain ⟨-, rfl⟩ := noteFailure_at.at_return run
    intro e he
    rw [lookup_noted] at he
    obtain rfl := Option.some.inj he
    have := delay_le_cap settings (m.failures greffonId + 1)
    dsimp only
    linarith
  | @clear t m m' before run ih =>
    have hcleared : (clearBackoff greffonId).Keeps fun m' =>
        ∀ e, m'.renewalBackoff.lookup greffonId = some e → e.2 ≤ t + backoffCapSeconds := by
      intro m hm e he
      have hlookup := lookup_filter_keys m.renewalBackoff (fun k => k != greffonId) greffonId
      rw [if_neg (by simp)] at hlookup
      exact absurd (he.symm.trans hlookup) (by simp)
    have htrivial : Prog.Always (clockAt t) (fun _ => True) (fun _ _ => True)
        (clearBackoff greffonId m) () := Prog.always_iff_runs.mpr fun _ _ _ => ⟨trivial, by simp⟩
    exact ((htrivial.returning (hcleared m ih)).at_return run).1

/-- A window one cap wider has room for a backoff from before, too. -/
theorem window_fits_carried {interval windowDays : Int}
    (h : acceptRenewal interval windowDays = .ok settings)
    (hwide : 4 * (backoffCapSeconds : Rat) + 4 * settings.interval ≤ settings.window)
    (left : Left settings greffonId entered m) : FourAttempts settings greffonId entered m := by
  obtain ⟨hinterval, -⟩ := acceptRenewal_ok h
  refine fourAttempts_of_fits (by linarith) ?_
  have hfree : m.freeFrom greffonId entered ≤ entered + backoffCapSeconds := by
    unfold Memory.freeFrom
    split
    · have : (0 : Rat) ≤ backoffCapSeconds := by exact_mod_cast Nat.zero_le _
      linarith
    · rename_i e hentry
      refine max_le ?_ (left.deadline e hentry)
      have : (0 : Rat) ≤ backoffCapSeconds := by exact_mod_cast Nat.zero_le _
      linarith
  have hbound : lastBy settings 3 (m.freeFrom greffonId entered) (m.failures greffonId) ≤
      m.freeFrom greffonId entered + 3 * (backoffCapSeconds : Rat) + 4 * settings.interval :=
    lastBy_three_le _ _
  linarith

/-! ### What it has no room for -/

/-- Ticks every 20000 seconds, and a window of four days. -/
def tightSettings : Settings where
  grefferCertRenewalInterval := 20000
  grefferCertRenewalWindowDays := 4

/-- Four failures before the window, each at the first tick after the last one's deadline. -/
def failingBefore : Memory :=
  (((({} : Memory).noted tightSettings "a" 0).noted tightSettings "a" 20000).noted tightSettings "a"
    60000).noted tightSettings "a" 140000

theorem failingBefore_left : Left tightSettings "a" 140001 failingBefore := by
  have hnote {t t' : Rat} {m : Memory} (h : Left tightSettings "a" t m) (hle : t ≤ t') :
      Left tightSettings "a" t' (m.noted tightSettings "a" t') :=
    .note (h.wait hle) (noteFailure_runs tightSettings m "a" t')
  refine .wait (t := 140000) ?_ (by norm_num)
  refine hnote (t := 60000) ?_ (by norm_num)
  refine hnote (t := 20000) ?_ (by norm_num)
  exact hnote (t := 0) (hnote (.start 0) (le_refl 0)) (by norm_num)

/-- **A backoff from before the window starves the renewal**: the settings are accepted, the
first attempt in the window waits for a deadline a day away, and the fourth comes after the
certificate has expired. -/
theorem carried_backoff_starves : ¬ ∀ (interval windowDays : Int) (settings : Settings)
    (greffonId : String) (entered : Rat) (m : Memory),
    acceptRenewal interval windowDays = .ok settings → Left settings greffonId entered m →
      FourAttempts settings greffonId entered m := by
  intro h
  have hfour := h 20000 4 tightSettings "a" 140001 failingBefore (by rfl) failingBefore_left
  have hfailures : failingBefore.failures "a" = 4 := by
    unfold failingBefore
    rw [failures_noted, failures_noted, failures_noted, failures_noted]
    rfl
  have hdelay (k : Nat) (hk : 3 ≤ k) : tightSettings.delay (k + 1) = 86400 := by
    have hpow : 2 ^ 3 ≤ 2 ^ k := Nat.pow_le_pow_right (by decide) hk
    have hcap : min (20000 * 2 ^ (k + 1 - 1)) 86400 = 86400 := by
      rw [Nat.add_sub_cancel]
      omega
    show ((min (20000 * 2 ^ (k + 1 - 1)) 86400 : Nat) : Rat) = 86400
    rw [hcap]
    norm_num
  have hentry : failingBefore.renewalBackoff.lookup "a" = some (4, 140000 + 86400) := by
    unfold failingBefore
    rw [lookup_noted, failures_noted, failures_noted, failures_noted]
    exact congrArg (fun d => some (4, 140000 + d)) (hdelay 3 (le_refl 3))
  have hfree : failingBefore.freeFrom "a" 140001 = 226400 := by
    unfold Memory.freeFrom
    rw [hentry]
    norm_num
  refine late_fourth (by norm_num [tightSettings, Settings.interval]) ?_ hfour
  rw [hfree, hfailures, lastBy_succ, lastBy_succ, lastBy_succ, lastBy_zero,
    hdelay 4 (by decide), hdelay 5 (by decide), hdelay 6 (by decide)]
  norm_num [tightSettings, Settings.interval, Settings.window]

end Law

end Greffer.CertRenewal

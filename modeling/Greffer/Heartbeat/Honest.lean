import Greffer.Heartbeat.Sweep

/-! # Heartbeats are honest

Whatever the interleaving of the monitor and the heartbeat, and whatever fails, a beat that is not
degraded sends one whole sweep, of the heartbeat's own or of the monitor's, in which every status was
read no earlier than the time that the beat gives; what it reuses is no older than the window.  A
degraded beat is empty, and docker or the listing of the data root has failed it.  (`beats_honest`)

The wall clock is not set back.
-/
namespace Greffer.Heartbeat
open Effects

/-! ## What a worker knows -/

/-- The map is what these findings amount to: every instance that was listed, and nothing else, each
with the status that was found. -/
structure Amounts (found : Finding → Prop) (map : Statuses) : Prop where
  listed : ∃ names, found (.listed names) ∧
    ∀ greffonId, greffonId ∈ map.map Prod.fst ↔ greffonId ∈ names ∧ isDotfile greffonId = false
  statuses : ∀ e ∈ map, found (.status e.1 e.2)

theorem Amounts.mono {found found' : Finding → Prop} {map : Statuses} (h : Amounts found map)
    (himp : ∀ f, found f → found' f) : Amounts found' map where
  listed := by
    obtain ⟨names, hfound, hall⟩ := h.listed
    exact ⟨names, himp _ hfound, hall⟩
  statuses e he := himp _ (h.statuses e he)

/-- A sweep has broken off: the data root could not be listed, or docker has not told a status. -/
def Broken (found : Finding → Prop) : Prop :=
  found .unlisted ∨ ∃ greffonId, found (.noStatus greffonId)

theorem Broken.mono {found found' : Finding → Prop} (h : Broken found)
    (himp : ∀ f, found f → found' f) : Broken found' := by
  rcases h with hunlisted | ⟨greffonId, hfailed⟩
  · exact .inl (himp _ hunlisted)
  · exact .inr ⟨greffonId, himp _ hfailed⟩

/-- The record of a worker: when it last looked at the wall clock, what it has found since, the last
time it has read, the sweeps it has seen published, and the number of its last beat. -/
structure Witness where
  stamp : Option Rat := none
  found : List Finding := []
  judged : Option Rat := none
  seen : List Sweep := []
  last : Nat := 0

/-- A report that a worker may make. -/
structure Witness.Vouches (settings : Intervals) (s : Witness) (report : Report) : Prop where
  whole : report.degraded = false →
    (s.stamp = some report.capturedAt ∧ Amounts (· ∈ s.found) report.instances) ∨
      ∃ sweep ∈ s.seen, report.instances = sweep.map ∧ report.capturedAt = sweep.capturedAt ∧
        ∃ now, s.judged = some now ∧ now - sweep.takenAt < settings.window
  degraded : report.degraded = true → s.stamp = some report.capturedAt ∧ Broken (· ∈ s.found) ∧
    report.instances = [] ∧ report.reasons = ["docker_unreachable"]

/-- What a worker may call, and reckons with. -/
def witnessing (settings : Intervals) (k : Role) : Reliance k.Reply Witness where
  after s c r := match c, r with
    | .now, .ok t => { s with stamp := some t, found := [] }
    | .monotonic, .ok t => { s with judged := some t }
    | .statusMap, .ok published => { s with seen := published.toList ++ s.seen }
    | .post beat, _ => { s with last := max s.last beat.seq }
    | c, r => { s with found := (finds c r).toList ++ s.found }
  allowed s c := match c with
    | .publish (some sweep) => s.stamp = some sweep.capturedAt ∧ Amounts (· ∈ s.found) sweep.map
    | .post beat => s.last < beat.seq ∧ s.Vouches settings beat.toReport
    | _ => True
  may _ c r := match c, r with
    | .listdir, _ | .getStatus _, _ | .reportStatusChange _ _, _ | .post _, _ => True
    | _, r => ∃ a, r = .ok a

/-! ## The workers keep to it -/

section Programs
variable {settings : Intervals} {k : Role} {s : Witness}

theorem witnessing_call {α : Type} {c : BeatCall} {f : c.Answer → Beating α}
    {Q : Except BeatError α → Witness → Prop} (hallowed : (witnessing settings k).allowed s c)
    (hmay : ∀ r, (witnessing settings k).may s c r → ∃ a, r = .ok a)
    (hnext : ∀ a, (f a).Relies (witnessing settings k) Q ((witnessing settings k).after s c (.ok a))) :
    (ask c >>= f).Relies (witnessing settings k) Q s := by
  refine Action.relies_call hallowed (fun e he => ?_) fun a _ => hnext a
  obtain ⟨a, ha⟩ := hmay _ he
  cases ha

/-- What a worker has besides is as it was. -/
structure Witness.Extends (s s' : Witness) : Prop where
  stamp : s'.stamp = s.stamp
  last : s'.last = s.last
  found : ∀ f ∈ s.found, f ∈ s'.found

theorem Witness.Extends.refl (s : Witness) : s.Extends s := ⟨rfl, rfl, fun _ h => h⟩

theorem Witness.Extends.trans {s₁ s₂ : Witness} (h : s.Extends s₁) (h' : s₁.Extends s₂) :
    s.Extends s₂ :=
  ⟨h'.stamp.trans h.stamp, h'.last.trans h.last, fun f hf => h'.found f (h.found f hf)⟩

theorem collectFrom_witnessing {names : List String} (done : List String) {result : Statuses}
    (hkeys : ∀ greffonId, greffonId ∈ result.map Prod.fst ↔
      greffonId ∈ done ∧ isDotfile greffonId = false)
    (hfound : ∀ e ∈ result, .status e.1 e.2 ∈ s.found) :
    (collectFrom names result).Relies (witnessing settings k) (fun r s' => s.Extends s' ∧
      match r with
      | .ok map => (∀ greffonId, greffonId ∈ map.map Prod.fst ↔
          (greffonId ∈ done ∨ greffonId ∈ names) ∧ isDotfile greffonId = false) ∧
            ∀ e ∈ map, .status e.1 e.2 ∈ s'.found
      | .error _ => Broken (· ∈ s'.found)) s := by
  induction names generalizing s done result with
  | nil =>
    refine ⟨.refl s, ?_, hfound⟩
    simpa using hkeys
  | cons name rest ih =>
    rw [collectFrom, Action.relies_ite]
    refine ⟨fun hdot => ?_, fun hdot => ?_⟩
    · refine (ih (name :: done) ?_ hfound).mono ?_
      · intro greffonId
        rw [hkeys, List.mem_cons]
        refine ⟨fun h => ⟨.inr h.1, h.2⟩, ?_⟩
        rintro ⟨rfl | hmem, hname⟩
        · rw [hdot] at hname
          cases hname
        · exact ⟨hmem, hname⟩
      · rintro (e | map) s' ⟨hext, h⟩
        · exact ⟨hext, h⟩
        · refine ⟨hext, fun greffonId => ?_, h.2⟩
          rw [h.1]
          simp only [List.mem_cons]
          tauto
    · refine Action.relies_call trivial (fun e _ => ?_) fun status _ => ?_
      · exact ⟨⟨rfl, rfl, fun f hf => List.mem_cons_of_mem _ hf⟩,
          .inr ⟨name, List.mem_cons_self⟩⟩
      · refine (ih (name :: done) ?_ ?_).mono ?_
        · intro greffonId
          rw [mem_keys_upsert, hkeys, List.mem_cons]
          have hname : isDotfile name = false := by simpa using hdot
          refine ⟨?_, ?_⟩
          · rintro (rfl | ⟨hmem, hplain⟩)
            · exact ⟨.inl rfl, hname⟩
            · exact ⟨.inr hmem, hplain⟩
          · rintro ⟨rfl | hmem, hplain⟩
            · exact .inl rfl
            · exact .inr ⟨hmem, hplain⟩
        · intro e he
          rcases mem_upsert he with rfl | hold
          · exact List.mem_cons_self
          · exact List.mem_cons_of_mem _ (hfound e hold)
        · rintro r s' ⟨hext, h⟩
          have hstep : s.Extends { s with found := .status name status :: s.found } :=
            ⟨rfl, rfl, fun f hf => List.mem_cons_of_mem _ hf⟩
          refine ⟨hstep.trans hext, ?_⟩
          cases r with
          | error e => exact h
          | ok map =>
            refine ⟨fun greffonId => ?_, h.2⟩
            rw [h.1]
            simp only [List.mem_cons]
            tauto

/-- **A sweep** yields what it has found, or has broken off. -/
theorem collectStatusMap_witnessing (s : Witness) :
    collectStatusMap.Relies (witnessing settings k) (fun r s' => s.Extends s' ∧
      match r with
      | .ok map => Amounts (· ∈ s'.found) map
      | .error _ => Broken (· ∈ s'.found)) s := by
  unfold collectStatusMap
  refine Action.relies_call trivial (fun e _ => ?_) fun names _ => ?_
  · exact ⟨⟨rfl, rfl, fun f hf => List.mem_cons_of_mem _ hf⟩, .inl List.mem_cons_self⟩
  · have hstep : s.Extends { s with found := .listed names :: s.found } :=
      ⟨rfl, rfl, fun f hf => List.mem_cons_of_mem _ hf⟩
    refine (collectFrom_witnessing [] (by simp) (by simp)).mono ?_
    rintro r s' ⟨hext, h⟩
    refine ⟨hstep.trans hext, ?_⟩
    cases r with
    | error e => exact h
    | ok map =>
      refine ⟨⟨names, hext.found _ List.mem_cons_self, fun greffonId => ?_⟩, h.2⟩
      rw [h.1]
      simp

/-- The reports of a tick find nothing. -/
theorem reportEach_witnessing (map prevStatus : Statuses) (s : Witness) :
    (reportEach map prevStatus).Relies (witnessing settings k)
      (fun r s' => s' = s ∧ ∃ x, r = .ok x) s := by
  induction map generalizing prevStatus with
  | nil => exact ⟨rfl, _, rfl⟩
  | cons e rest ih =>
    rw [reportEach, Action.relies_ite]
    refine ⟨fun _ => ?_, fun _ => ih _⟩
    refine Action.relies_attempt trivial fun r _ => ?_
    cases r with
    | error error =>
      dsimp only
      rw [Action.relies_ite]
      exact ⟨fun _ => ih _, fun _ => ⟨rfl, _, rfl⟩⟩
    | ok code =>
      dsimp only
      rw [Action.relies_ite]
      exact ⟨fun _ => ih _, fun _ => ih _⟩

theorem publishAndSleep_witnessing (sweep : Option Sweep) (prevStatus : Statuses)
    (hsweep : ∀ sw, sweep = some sw → s.stamp = some sw.capturedAt ∧ Amounts (· ∈ s.found) sw.map) :
    (publishAndSleep settings sweep prevStatus).Relies (witnessing settings k)
      (fun _ _ => True) s := by
  have hallowed : (witnessing settings k).allowed s (.publish sweep) := by
    cases sweep with
    | none => trivial
    | some sw => exact hsweep sw rfl
  unfold publishAndSleep
  refine witnessing_call hallowed (fun _ h => h) fun _ => ?_
  exact witnessing_call trivial (fun _ h => h) fun _ => trivial

/-- A tick publishes only what it has found since it began. -/
theorem monitorTick_witnessing (prevStatus : Statuses) (s : Witness) :
    (monitorTick settings prevStatus).Relies (witnessing settings k) (fun _ _ => True) s := by
  unfold monitorTick
  refine witnessing_call trivial (fun _ h => h) fun capturedAt => ?_
  rw [Action.relies_bind, Action.relies_outcome]
  refine (collectStatusMap_witnessing _).mono ?_
  rintro r s₁ ⟨hext, hswept⟩
  cases r with
  | error e => exact publishAndSleep_witnessing none prevStatus nofun
  | ok map =>
    rw [onOk_ok]
    dsimp only
    rw [Action.relies_bind]
    refine (reportEach_witnessing map prevStatus s₁).mono ?_
    rintro r s₂ ⟨rfl, ⟨prevStatus, raised⟩, rfl⟩
    rw [onOk_ok]
    cases raised with
    | some e => exact publishAndSleep_witnessing none prevStatus nofun
    | none =>
      refine witnessing_call trivial (fun _ h => h) fun takenAt => ?_
      refine publishAndSleep_witnessing _ prevStatus ?_
      rintro sw ⟨rfl⟩
      exact ⟨hext.stamp, hswept⟩

theorem collectFresh_witnessing {nowIso : Rat} (hstamp : s.stamp = some nowIso) :
    (collectFresh nowIso).Relies (witnessing settings k) (fun r s' => s'.last = s.last ∧
      ∀ report, r = .ok report → s'.Vouches settings report) s := by
  unfold collectFresh
  rw [Action.relies_bind, Action.relies_outcome]
  refine (collectStatusMap_witnessing s).mono ?_
  rintro r s' ⟨hext, hswept⟩
  rw [onOk_ok]
  cases r with
  | error e =>
    refine ⟨hext.last, ?_⟩
    rintro report ⟨rfl⟩
    exact ⟨nofun, fun _ => ⟨hext.stamp.trans hstamp, hswept, rfl, rfl⟩⟩
  | ok map =>
    refine ⟨hext.last, ?_⟩
    rintro report ⟨rfl⟩
    exact ⟨fun _ => .inl ⟨hext.stamp.trans hstamp, hswept⟩, nofun⟩

/-- A report is made of a sweep of its own, or of a recent one. -/
theorem collectOrReuse_witnessing (s : Witness) :
    (collectOrReuse settings).Relies (witnessing settings k) (fun r s' => s'.last = s.last ∧
      ∀ report, r = .ok report → s'.Vouches settings report) s := by
  unfold collectOrReuse
  refine witnessing_call trivial (fun _ h => h) fun nowIso => ?_
  refine witnessing_call trivial (fun _ h => h) fun published => ?_
  cases published with
  | none => exact collectFresh_witnessing rfl
  | some cached =>
    refine witnessing_call trivial (fun _ h => h) fun now => ?_
    rw [Action.relies_ite]
    refine ⟨fun hfresh => ⟨rfl, ?_⟩, fun _ => collectFresh_witnessing rfl⟩
    rintro report ⟨rfl⟩
    refine ⟨fun _ => .inr ⟨cached, List.mem_cons_self, rfl, rfl, now, rfl, hfresh⟩, nofun⟩

theorem oneHeartbeat_witnessing {seq : Nat} (hseq : s.last < seq) :
    (oneHeartbeat settings seq).Relies (witnessing settings k) (fun _ s' => s'.last ≤ seq) s := by
  unfold oneHeartbeat
  rw [Action.relies_bind]
  refine (collectOrReuse_witnessing s).mono ?_
  rintro (e | report) s' ⟨hlast, hvouches⟩
  · exact hlast.le.trans hseq.le
  · refine ⟨⟨hlast.trans_lt hseq, hvouches report rfl⟩, fun r _ => ?_⟩
    exact max_le (hlast.le.trans hseq.le) le_rfl

theorem settle_witnessing {seq : Nat} (rejected : Bool) (hseq : s.last ≤ seq) :
    (settle settings seq rejected).Relies (witnessing settings k)
      (fun r s' => ∀ next, r = .ok (some next) → s'.last ≤ next) s := by
  have hsleep (s : Witness) (hseq : s.last ≤ seq) : (do
      ask (.sleep settings.heartbeatInterval)
      return some seq : Beating (Option Nat)).Relies (witnessing settings k)
        (fun r s' => ∀ next, r = .ok (some next) → s'.last ≤ next) s := by
    refine witnessing_call trivial (fun _ h => h) fun _ => ?_
    rintro next ⟨rfl⟩
    exact hseq
  unfold settle
  cases rejected with
  | true => exact witnessing_call trivial (fun _ h => h) fun _ => hsleep _ hseq
  | false => exact hsleep s hseq

/-- A round sends one beat, under the next number. -/
theorem heartbeatRound_witnessing {seq : Nat} (hseq : s.last ≤ seq) :
    (heartbeatRound settings seq).Relies (witnessing settings k)
      (fun r s' => ∀ next, r = .ok (some next) → s'.last ≤ next) s := by
  unfold heartbeatRound
  refine witnessing_call trivial (fun _ h => h) fun _ => ?_
  rw [Action.relies_bind, Action.relies_outcome]
  refine (oneHeartbeat_witnessing (s := s) (Nat.lt_succ_of_le hseq)).mono ?_
  intro r s' hlast
  rw [onOk_ok]
  split
  · exact settle_witnessing true hlast
  · exact settle_witnessing false hlast

/-- What a worker knows at the head of its loop. -/
def AtHead : (k : Role) → Option k.Label → Witness → Prop
  | .heartbeat, some seq, s => s.last ≤ seq
  | _, _, _ => True

theorem blocks_witnessing {k : Role} {l : k.Label} {s : Witness} (h : AtHead k (some l) s) :
    (blocks settings k l).Relies (witnessing settings k) (fun next s => AtHead k next s) s := by
  cases k with
  | monitor =>
    refine Action.relies_block.mpr ((monitorTick_witnessing l s).mono ?_)
    rintro (e | next) s' - <;> trivial
  | heartbeat =>
    refine Action.relies_block.mpr ((heartbeatRound_witnessing h).mono ?_)
    rintro (e | _ | next) s' hlast
    · trivial
    · trivial
    · exact hlast next rfl

end Programs

/-! ## What they know is so -/

/-- The worker `n` has found this, at that time or later. -/
def Node.FoundBy (w : Node) (n : Nat) (since : Rat) (f : Finding) : Prop :=
  ∃ t, since ≤ t ∧ (n, t, f) ∈ w.found

/-- A sweep that some worker has made. -/
def Node.Swept (w : Node) (sweep : Sweep) : Prop :=
  ∃ n, Amounts (w.FoundBy n sweep.capturedAt) sweep.map

/-- What the worker `n` has found was found since its stamp, and what it has seen was swept. -/
structure Knows (n : Nat) (s : Witness) (w : Node) : Prop where
  stamp : ∀ t, s.stamp = some t → t ≤ w.wall ∧ ∀ f ∈ s.found, w.FoundBy n t f
  seen : ∀ sweep ∈ s.seen, w.Swept sweep

/-- What is published was swept. -/
def PublishedSwept (_ : Nat) (w : Node) : Prop := ∀ sweep, w.published = some sweep → w.Swept sweep

section Steps
variable {settings : Intervals} {k : Role} {n m N : Nat} {s t : Witness} {w w' : Node} {c : BeatCall}
  {r : Raises BeatCall.Answer BeatError c}

theorem Node.note_wall (w : Node) (n : Nat) (f : Option Finding) : (w.note n f).wall = w.wall := by
  cases f <;> rfl

theorem Node.note_published (w : Node) (n : Nat) (f : Option Finding) :
    (w.note n f).published = w.published := by
  cases f <;> rfl

theorem Node.mem_note {w : Node} {n : Nat} {f : Option Finding} {e : Nat × Rat × Finding} :
    e ∈ (w.note n f).found ↔ (∃ x, f = some x ∧ e = (n, w.wall, x)) ∨ e ∈ w.found := by
  cases f <;> simp [Node.note]

theorem serve_cases (served : serve n w c r w') : w'.wall = w.wall ∧
    (∀ e, e ∈ w'.found ↔ (∃ x, finds c r = some x ∧ e = (n, w.wall, x)) ∨ e ∈ w.found) ∧
      (∀ sweep, w'.published = some sweep → w.published = some sweep ∨ c = .publish (some sweep)) := by
  cases c with
  | listdir =>
    obtain rfl := served
    refine ⟨w.note_wall n _, fun e => Node.mem_note, fun sweep h => .inl ?_⟩
    rwa [Node.note_published] at h
  | getStatus greffonId =>
    obtain rfl := served
    refine ⟨w.note_wall n _, fun e => Node.mem_note, fun sweep h => .inl ?_⟩
    rwa [Node.note_published] at h
  | reportStatusChange | post =>
    obtain rfl := served
    exact ⟨rfl, fun e => by simp [finds], fun sweep h => .inl h⟩
  | publish sweep =>
    obtain ⟨-, rfl⟩ := served
    refine ⟨rfl, fun e => by simp [finds], fun sweep h => .inr ?_⟩
    exact congrArg BeatCall.publish h
  | awaitRegistered =>
    obtain ⟨-, -, rfl⟩ := served
    exact ⟨rfl, fun e => by simp [finds], fun sweep h => .inl h⟩
  | _ =>
    obtain ⟨-, rfl⟩ := served
    exact ⟨rfl, fun e => by simp [finds], fun sweep h => .inl h⟩

theorem Node.FoundBy.serve (served : serve n w c r w') {since : Rat} {f : Finding}
    (h : w.FoundBy m since f) : w'.FoundBy m since f := by
  obtain ⟨t, ht, hmem⟩ := h
  exact ⟨t, ht, ((serve_cases served).2.1 _).mpr (.inr hmem)⟩

theorem Node.Swept.serve (served : serve n w c r w') {sweep : Sweep} (h : w.Swept sweep) :
    w'.Swept sweep := by
  obtain ⟨m, hamounts⟩ := h
  exact ⟨m, hamounts.mono fun f hf => hf.serve served⟩

/-- No other worker's step disturbs what a worker knows. -/
theorem Knows.other (served : serve n w c r w') (h : Knows m s w) : Knows m s w' where
  stamp t ht := by
    obtain ⟨hle, hfound⟩ := h.stamp t ht
    rw [(serve_cases served).1]
    exact ⟨hle, fun f hf => (hfound f hf).serve served⟩
  seen sweep hsweep := (h.seen sweep hsweep).serve served

/-- What a worker finds, it has found since its stamp. -/
theorem Knows.found (served : serve n w c r w') (h : Knows n s w) :
    Knows n { s with found := (finds c r).toList ++ s.found } w' where
  stamp t ht := by
    obtain ⟨hle, hfound⟩ := h.stamp t ht
    obtain ⟨hwall, hmem, -⟩ := serve_cases served
    rw [hwall]
    refine ⟨hle, fun f hf => ?_⟩
    rcases List.mem_append.mp hf with hnew | hold
    · exact ⟨w.wall, hle, (hmem _).mpr (.inl ⟨f, Option.mem_toList.mp hnew, rfl⟩)⟩
    · exact (hfound f hold).serve served
  seen := (h.other served).seen

/-- **A worker's own step keeps what it knows.** -/
theorem Knows.after (served : serve n w c r w') (h : Knows n s w) (hw : PublishedSwept N w) :
    Knows n ((witnessing settings k).after s c r) w' := by
  cases c with
  | now =>
    obtain ⟨rfl, rfl⟩ := served
    refine ⟨?_, h.seen⟩
    rintro t ⟨rfl⟩
    exact ⟨le_rfl, nofun⟩
  | monotonic =>
    obtain ⟨rfl, rfl⟩ := served
    exact ⟨h.stamp, h.seen⟩
  | statusMap =>
    obtain ⟨rfl, rfl⟩ := served
    refine ⟨h.stamp, fun sweep hsweep => ?_⟩
    rcases List.mem_append.mp hsweep with hnew | hold
    · exact hw sweep (Option.mem_toList.mp hnew)
    · exact h.seen sweep hold
  | post beat =>
    obtain rfl := served
    exact ⟨h.stamp, h.seen⟩
  | _ => exact h.found served

/-- What is published was swept, as the monitor publishes only what it has found. -/
theorem publishedSwept_serve (served : serve n w c r w') (h : Knows n s w) (hw : PublishedSwept N w)
    (hallowed : (witnessing settings k).allowed s c) : PublishedSwept N w' := by
  intro sweep hpublished
  rcases (serve_cases served).2.2 sweep hpublished with hold | rfl
  · exact (hw sweep hold).serve served
  · obtain ⟨hstamp, hamounts⟩ := hallowed
    obtain ⟨-, hfound⟩ := h.stamp _ hstamp
    exact ⟨n, hamounts.mono fun f hf => (hfound f hf).serve served⟩

theorem may_of_serve (served : serve n w c r w') : (witnessing settings k).may s c r := by
  cases c with
  | listdir | getStatus | reportStatusChange | post => trivial
  | awaitRegistered => exact ⟨_, served.1⟩
  | _ => exact ⟨_, served.1⟩

theorem relied_witnessing (settings : Intervals) :
    Relied node (fun _ => False) (blocks settings) (witnessing settings) AtHead Knows
      PublishedSwept where
  block := blocks_witnessing
  may served _ _ _ _ := may_of_serve served
  own served _ hinv hagree _ := hagree.after served hinv
  other served _ _ _ _ _ hother := hother.other served
  drift := by
    rintro w w' n s N ⟨-, hwall, hw'⟩ - h
    rw [hw']
    refine ⟨fun t ht => ?_, h.seen⟩
    obtain ⟨hle, hfound⟩ := h.stamp t ht
    exact ⟨hle.trans hwall, hfound⟩
  fresh := False.elim
  inv_serve served _ hinv hagree hallowed := publishedSwept_serve served hagree hinv hallowed
  inv_drift := by
    rintro w w' N ⟨-, -, hw'⟩ hinv
    rw [hw']
    exact hinv
  inv_succ hinv := hinv

end Steps

/-! ## The beats -/

/-- The worker `n` has found this, at that wall time or later. -/
def Found (es : List (Node × Event Role.Reply)) (n : Nat) (since : Rat) (f : Finding) : Prop :=
  ∃ w k c r, (w, .called n k c r) ∈ es ∧ since ≤ w.wall ∧ finds c r = some f

/-- The sweep is the one published. -/
def Sees (sweep : Sweep) : (c : BeatCall) → Raises BeatCall.Answer BeatError c → Prop
  | .statusMap, .ok published => published = some sweep
  | _, _ => False

/-- The worker `n` has seen this sweep published. -/
def Seen (es : List (Node × Event Role.Reply)) (n : Nat) (sweep : Sweep) : Prop :=
  ∃ w k c r, (w, .called n k c r) ∈ es ∧ Sees sweep c r

/-- The last time that the worker `n` has read on the monotonic clock. -/
def lastReading (n : Nat) : List (Node × Event Role.Reply) → Option Rat → Option Rat
  | [], last => last
  | (_, .called m _ .monotonic (.ok t)) :: es, last => lastReading n es (if m = n then some t else last)
  | _ :: es, last => lastReading n es last

section Runs
variable {settings : Intervals} {w w' : Node} {q : Crew Role.Reply Role.Label Node}
  {es es' : List (Node × Event Role.Reply)} {n : Nat} {k : Role} {s : Witness}

/-- What a worker has found, one of its calls has found. -/
theorem found_of_rounds {p : Crew Role.Reply Role.Label Node}
    (rounds : node.Rounds (fun _ => False) (blocks settings) p es q) {t : Rat} {f : Finding}
    (h : (n, t, f) ∈ q.world.found) :
    (n, t, f) ∈ p.world.found ∨ ∃ w k c r, (w, .called n k c r) ∈ es ∧ w.wall = t ∧
      finds c r = some f := by
  induction rounds with
  | nil => exact .inl h
  | turn runs _ ih => exact ih h
  | step first _ ih =>
    rcases ih h with hnext | ⟨w, k, c, r, hmem, hfound⟩
    · cases first with
      | @call w w' ts n' k c r next runs served =>
        rcases ((serve_cases served).2.1 _).mp hnext with ⟨x, hx, heq⟩ | hold
        · cases heq
          exact .inr ⟨w, k, c, r, List.mem_cons_self, rfl, hx⟩
        · exact .inl hold
      | start haccepts => exact haccepts.elim
      | drift hdrift =>
        rw [hdrift.2.2] at hnext
        exact .inl hnext
    · exact .inr ⟨w, k, c, r, List.mem_cons_of_mem _ hmem, hfound⟩

/-- Found since then, if nothing had been found at the start. -/
theorem found_of_foundBy {p : Crew Role.Reply Role.Label Node}
    (rounds : node.Rounds (fun _ => False) (blocks settings) p es q) (hp : p.world.found = [])
    {since : Rat} {f : Finding} (h : q.world.FoundBy n since f) : Found es n since f := by
  obtain ⟨t, ht, hmem⟩ := h
  rcases found_of_rounds rounds hmem with hold | ⟨w, k, c, r, hcalled, rfl, hfinds⟩
  · rw [hp] at hold
    cases hold
  · exact ⟨w, k, c, r, hcalled, ht, hfinds⟩

theorem judged_recordOf (n : Nat) (es : List (Node × Event Role.Reply)) (s : Witness) :
    (recordOf (witnessing settings) n es s).judged = lastReading n es s.judged := by
  induction es generalizing s with
  | nil => rfl
  | cons e es ih =>
    obtain ⟨w, e⟩ := e
    cases e with
    | called m k c r =>
      rw [recordOf, ih]
      by_cases hm : m = n
      · rw [if_pos hm]
        cases c with
        | monotonic =>
          cases r with
          | ok t => rw [lastReading, if_pos hm]; rfl
          | error e => rfl
        | now => cases r <;> rfl
        | statusMap => cases r <;> rfl
        | _ => rfl
      · rw [if_neg hm]
        cases c with
        | monotonic =>
          cases r with
          | ok t => rw [lastReading, if_neg hm]
          | error e => rfl
        | _ => rfl
    | started | drifted => exact ih s

theorem seen_recordOf {sweep : Sweep}
    (h : sweep ∈ (recordOf (witnessing settings) n es {}).seen) : Seen es n sweep := by
  have hafter (k : Role) (s : Witness) (c : BeatCall) (r : Raises BeatCall.Answer BeatError c) :
      sweep ∈ ((witnessing settings k).after s c r).seen ↔ sweep ∈ s.seen ∨ Sees sweep c r := by
    cases c with
    | statusMap =>
      cases r with
      | ok published =>
        refine List.mem_append.trans (or_comm.trans (or_congr_right ?_))
        exact Option.mem_toList
      | error e => exact (or_false _).to_iff.symm
    | now | monotonic => cases r <;> exact (or_false _).to_iff.symm
    | _ => exact (or_false _).to_iff.symm
  rcases (recordOf_iff (P := fun s : Witness => sweep ∈ s.seen) hafter n es {}).mp h with hold | hseen
  · cases hold
  · exact hseen

/-- A beat under this number, or a later one. -/
def Numbered (seq : Nat) : (c : BeatCall) → Raises BeatCall.Answer BeatError c → Prop
  | .post beat, _ => seq ≤ beat.seq
  | _, _ => False

theorem last_recordOf {seq : Nat} {k : Role} {c : BeatCall} {r : Raises BeatCall.Answer BeatError c}
    (hmem : (w, .called n k c r) ∈ es) (hseq : Numbered seq c r) :
    seq ≤ (recordOf (witnessing settings) n es {}).last := by
  have hafter (k : Role) (s : Witness) (c : BeatCall) (r : Raises BeatCall.Answer BeatError c) :
      seq ≤ ((witnessing settings k).after s c r).last ↔ seq ≤ s.last ∨ Numbered seq c r := by
    cases c with
    | post beat => exact le_max_iff
    | now | monotonic | statusMap => cases r <;> exact (or_false _).to_iff.symm
    | _ => exact (or_false _).to_iff.symm
  exact (recordOf_iff (P := fun s : Witness => seq ≤ s.last) hafter n es {}).mpr
    (.inr ⟨w, k, c, r, hmem, hseq⟩)

/-- **Heartbeats are honest.**  Beats are numbered in order; a degraded one is empty, and since the
time it gives the listing of the data root has failed, or docker has failed to tell a status; any
other sends a whole sweep, every status of which was found at
the time it gives or later: one of its own, or one that it has just seen published and that was
not out of the window when it looked at the clock. -/
theorem beats_honest (hpublished : w.published = none) (hfound : w.found = []) {beat : Beat}
    {r : Except BeatError Nat}
    (rounds : node.Rounds (fun _ => False) (blocks settings)
      ⟨w, [monitorWorker, heartbeatWorker]⟩ (es ++ (w', .called n k (.post beat) r) :: es') q) :
    (∀ w'' k' beat' r', (w'', .called n k' (.post beat') r') ∈ es → beat'.seq < beat.seq) ∧
      (beat.degraded = true → beat.instances = [] ∧ beat.reasons = ["docker_unreachable"] ∧
        (Found es n beat.capturedAt .unlisted ∨
          ∃ greffonId, Found es n beat.capturedAt (.noStatus greffonId))) ∧
      (beat.degraded = false → Amounts (Found es n beat.capturedAt) beat.instances ∨
        ∃ sweep m, Seen es n sweep ∧ Amounts (Found es m sweep.capturedAt) sweep.map ∧
          beat.instances = sweep.map ∧ beat.capturedAt = sweep.capturedAt ∧
          ∃ now, lastReading n es none = some now ∧ now - sweep.takenAt < settings.window) := by
  have hknows (n : Nat) : Knows n {} w := ⟨nofun, nofun⟩
  have hstart : Relied.Agrees (witnessing settings) AtHead Knows PublishedSwept
      (⟨w, [monitorWorker, heartbeatWorker]⟩ : Crew Role.Reply Role.Label Node) := by
    refine ⟨fun sweep h => ?_, fun n t ht => ⟨{}, ?_, hknows n⟩⟩
    · rw [hpublished] at h
      cases h
    · match n, ht with
      | 0, ht => cases ht; exact trivial
      | 1, ht => cases ht; exact Nat.le_refl 0
  have hrelies {t : Worker Role.Reply Role.Label}
      (ht : [monitorWorker, heartbeatWorker][n]? = some t) :
      t.Relies (witnessing settings) AtHead {} := by
    match n, ht with
    | 0, ht => cases ht; exact trivial
    | 1, ht => cases ht; exact Nat.le_refl 0
  obtain ⟨t, ht⟩ := rounds.thread_of_call (fun _ => id)
    (List.mem_append_right _ List.mem_cons_self)
  obtain ⟨⟨hlast, hvouches⟩, hagree⟩ :=
    (relied_witnessing settings).allowed_call rounds hstart ht (hrelies ht) (hknows n)
  obtain ⟨mid, mid', before, rfl, -, -⟩ := rounds.served
  have hevents {m : Nat} {since : Rat} {f : Finding} (h : mid.world.FoundBy m since f) :
      Found es m since f := found_of_foundBy before hfound h
  refine ⟨?_, fun hdegraded => ?_, fun hwhole => ?_⟩
  · intro w'' k' beat' r' hmem
    exact (last_recordOf hmem (le_refl beat'.seq)).trans_lt hlast
  · obtain ⟨hstamp, hbroken, hempty, hreasons⟩ := hvouches.degraded hdegraded
    exact ⟨hempty, hreasons, hbroken.mono fun f hf => hevents ((hagree.stamp _ hstamp).2 f hf)⟩
  · rcases hvouches.whole hwhole with ⟨hstamp, hown⟩ | ⟨sweep, hseen, hmap, hat, now, hnow, hfresh⟩
    · exact .inl (hown.mono fun f hf => hevents ((hagree.stamp _ hstamp).2 f hf))
    · obtain ⟨m, hswept⟩ := hagree.seen sweep hseen
      refine .inr ⟨sweep, m, seen_recordOf hseen, hswept.mono fun f => hevents, hmap, hat, now, ?_,
        hfresh⟩
      rw [← hnow, judged_recordOf]

end Runs

/-! ### A beat that reuses the monitor's sweep -/

/-- Calls that succeed, on a node with one instance. -/
def obliging (n : Nat) (w : Node) : (c : BeatCall) →
    Option (Raises BeatCall.Answer BeatError c × Node)
  | .now => some (.ok w.wall, w)
  | .monotonic => some (.ok w.clock, w)
  | .listdir => some (.ok [".greffer-token", "a"], w.note n (some (.listed [".greffer-token", "a"])))
  | .getStatus greffonId => some (.ok "running", w.note n (some (.status greffonId "running")))
  | .reportStatusChange _ _ | .post _ => some (.ok 200, w)
  | .publish sweep => some (.ok (), { w with published := sweep })
  | .statusMap => some (.ok w.published, w)
  | .awaitRegistered => if w.registered then some (.ok (), w) else none
  | .requestReregistration => some (.ok (), { w with registered := false })
  | .sleep _ => some (.ok (), w)

theorem obliging_serves (n : Nat) (k : Role) (w : Node) (c : BeatCall)
    (r : Raises BeatCall.Answer BeatError c) (w' : Node) (h : obliging n w c = some (r, w')) :
    node.serve n k w c r w' := by
  cases c with
  | awaitRegistered =>
    simp only [obliging] at h
    split at h
    case isTrue hregistered =>
      cases h
      exact ⟨rfl, hregistered, rfl⟩
    case isFalse => cases h
  | listdir | getStatus | reportStatusChange | post =>
    cases h
    exact rfl
  | _ =>
    cases h
    exact ⟨rfl, rfl⟩

/-- Some calls of a worker. -/
def callsFor (n : Nat) (k : Role) (m : Nat) (p : Prog k.Reply (Option k.Label)) (w : Node) :=
  roundsFor (obliging n) (blocks {} k) n m p w

/-- A node that is registered. -/
def registeredNode : Node where
  clock := 10
  wall := 1000
  registered := true

/-- The monitor has published its first sweep, -/
def swept := callsFor 0 .monitor 7 monitorWorker.rest registeredNode

/-- and the heartbeat is about to send it. -/
def beatDue := callsFor 1 .heartbeat 5 heartbeatWorker.rest swept.2.1

/-- The beat. -/
def firstBeat : Beat where
  instances := [("a", "running")]
  capturedAt := 1000
  seq := 1

theorem beatDue_next : ∃ next, beatDue.2.2 = .call (.post firstBeat) next :=
  ⟨_, by with_unfolding_all rfl⟩

theorem first_rounds : ∃ q, node.Rounds (fun _ => False) (blocks {})
    ⟨registeredNode, [monitorWorker, heartbeatWorker]⟩
    ((swept.1 ++ beatDue.1) ++
      [(beatDue.2.1, .called 1 .heartbeat (.post firstBeat) (.ok 200))]) q := by
  have halone (n : Nat) (k : Role) (m : Nat) (p : Prog k.Reply (Option k.Label)) (w : Node)
      (ts : List (Worker Role.Reply Role.Label)) (hn : ts[n]? = some ⟨k, p⟩) :
      node.Rounds (fun _ => False) (blocks {}) ⟨w, ts⟩ (callsFor n k m p w).1
        ⟨(callsFor n k m p w).2.1, ts.set n ⟨k, (callsFor n k m p w).2.2⟩⟩ :=
    Shared.Rounds.alone (obliging_serves n k) m p w ts hn
  obtain ⟨next, hnext⟩ := beatDue_next
  have hswept := halone 0 .monitor 7 monitorWorker.rest registeredNode
    [monitorWorker, heartbeatWorker] rfl
  have hdue := halone 1 .heartbeat 5 heartbeatWorker.rest swept.2.1
    [⟨.monitor, swept.2.2⟩, heartbeatWorker] rfl
  have hpost : node.Rounds (fun _ => False) (blocks {})
      ⟨beatDue.2.1, [⟨.monitor, swept.2.2⟩, ⟨.heartbeat, beatDue.2.2⟩]⟩
      [(beatDue.2.1, .called 1 .heartbeat (.post firstBeat) (.ok 200))]
      ⟨beatDue.2.1, [⟨.monitor, swept.2.2⟩, ⟨.heartbeat, next (.ok 200)⟩]⟩ := by
    rw [hnext]
    have hserved : node.serve 1 .heartbeat beatDue.2.1 (.post firstBeat) (.ok 200) beatDue.2.1 := rfl
    exact .step (.call rfl hserved) (.nil _)
  exact ⟨_, (hswept.append hdue).append hpost⟩

/-- The beat sends what the monitor has found. -/
theorem beats_honest_reused : Amounts (Found (swept.1 ++ beatDue.1) 1 1000) [("a", "running")] ∨
    ∃ sweep m, Seen (swept.1 ++ beatDue.1) 1 sweep ∧
      Amounts (Found (swept.1 ++ beatDue.1) m sweep.capturedAt) sweep.map ∧
      [("a", "running")] = sweep.map ∧ 1000 = sweep.capturedAt ∧
      ∃ now, lastReading 1 (swept.1 ++ beatDue.1) none = some now ∧ now - sweep.takenAt < 10 := by
  obtain ⟨q, rounds⟩ := first_rounds
  have hwindow : ({} : Intervals).window = 10 := by decide +kernel
  rw [← hwindow]
  exact (beats_honest rfl rfl rounds).2.2 rfl

end Greffer.Heartbeat

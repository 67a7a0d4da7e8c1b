import Greffer.Metrics.CpuSamples

/-! # Each container its own counters

The digests of one poll and of several polls go at once, and prune the table under each other's
hands.  Whatever their interleaving, a load that is reported is that of one container between two of
its own samples, told to two different digests (`load_of_own_samples`).
-/
namespace Greffer.Metrics.Cpu
open Effects

variable {round : Rat → Rat}

/-! ## What a thread knows -/

/-- The record of a thread: the sample it was told, the one it has found in the table, and whether
it has written to it. -/
structure Digest where
  cur : Option (String × Sample) := none
  prev : Option (String × Sample) := none
  stored : Bool := false

/-- A load between two samples of the record. -/
def Digest.Between (s : Digest) (round : Rat → Rat) (container : String) (percent : Rat) : Prop :=
  ∃ before after, s.prev = some (container, before) ∧ s.cur = some (container, after) ∧
    percent = busyPercent round before after

/-- What a thread may call, and reckons with: only the daemon may fail. -/
def digesting (round : Rat → Rat) (k : Task) : Reliance (Replies k) Digest where
  after s
    | .readStats container, .ok stats => { s with cur := (cpuSample stats).map (container, ·) }
    | .getPrev container, .ok found =>
      { s with prev := found.map fun e => (container, e.1) }
    | .setPrev _ _ _, _ => { s with stored := true }
    | _, _ => s
  allowed s
    | .getPrev _ => s.stored = false
    | .setPrev container sample _ => s.cur = some (container, sample)
    | .report container (.ok (some percent)) => s.Between round container percent
    | _ => True
  may _
    | .readStats _, _ => True
    | _, r => ∃ a, r = .ok a

/-- What it was told, it was told; what it has found was told to another thread; and before it
writes to the table, the others have written what is there. -/
structure Knows (n : Nat) (s : Digest) (w : Table) : Prop where
  cur : ∀ container x, s.cur = some (container, x) → (n, container, x) ∈ w.told
  prev : ∀ container x, s.prev = some (container, x) → ∃ m, m ≠ n ∧ (m, container, x) ∈ w.told
  stored : s.stored = false → ∀ e ∈ w.prev, e.2.writer ≠ n

/-- The invariant of the table with `N` threads: each entry was told to who has written it. -/
structure Kept (N : Nat) (w : Table) : Prop where
  writer : ∀ e ∈ w.prev, e.2.writer < N
  told : ∀ e ∈ w.prev, (e.2.writer, e.1, e.2.sample) ∈ w.told

/-! ## The threads keep to it -/

section Programs
variable {k : Task} {s : Digest}

theorem digesting_call {α : Type} {c : StatsCall} {f : c.Answer → Digesting α}
    {Q : Except StatsError α → Digest → Prop} (hallowed : (digesting round k).allowed s c)
    (hmay : ∀ r, (digesting round k).may s c r → ∃ a, r = .ok a)
    (hnext : ∀ a, (f a).Relies (digesting round k) Q ((digesting round k).after s c (.ok a))) :
    (ask c >>= f).Relies (digesting round k) Q s := by
  refine Action.relies_call hallowed (fun e he => ?_) fun a _ => hnext a
  obtain ⟨a, ha⟩ := hmay _ he
  cases ha

theorem popStale_digesting (now : Rat) (items : List (String × Rat)) :
    (popStale now items).Relies (digesting round k) (fun _ _ => True) s := by
  induction items with
  | nil => trivial
  | cons e rest ih =>
    obtain ⟨container, at'⟩ := e
    unfold popStale
    rw [Action.relies_ite]
    refine ⟨fun _ => ?_, fun _ => ih⟩
    exact digesting_call trivial (fun _ h => h) fun _ => ih

theorem pruneCpuPrev_digesting :
    pruneCpuPrev.Relies (digesting round k) (fun _ _ => True) s := by
  unfold pruneCpuPrev
  refine digesting_call trivial (fun _ h => h) fun now => ?_
  refine digesting_call trivial (fun _ h => h) fun items => ?_
  exact popStale_digesting now items

theorem keep_digesting (container : String) {cur : Option Sample}
    (hcur : s.cur = cur.map (container, ·)) :
    (keep container cur).Relies (digesting round k)
      (fun r s' => (∃ a, r = .ok a) ∧ s'.cur = s.cur ∧ s'.prev = s.prev) s := by
  cases cur with
  | none => exact ⟨⟨(), rfl⟩, rfl, rfl⟩
  | some sample =>
    unfold keep
    refine digesting_call trivial (fun _ h => h) fun now => ?_
    refine ⟨hcur, ?_⟩
    rintro r ⟨u, rfl⟩
    exact ⟨⟨u, rfl⟩, rfl, rfl⟩

theorem digestRaw_digesting (container : String) (stats : Option CpuStats)
    (hcur : s.cur = (cpuSample stats).map (container, ·)) (hstored : s.stored = false) :
    (digestRaw round container stats).Relies (digesting round k)
      (fun r s' => ∀ percent, r = .ok (some percent) → s'.Between round container percent) s := by
  unfold digestRaw
  refine digesting_call hstored (fun _ h => h) fun found => ?_
  rw [Action.relies_bind]
  refine (keep_digesting (s := (digesting round k).after s (.getPrev container) (.ok found))
    container hcur).mono ?_
  rintro r s' ⟨⟨u, rfl⟩, hcur', hprev'⟩ percent heq
  replace hcur' := hcur'.trans hcur
  cases found with
  | none => cases heq
  | some e =>
    cases hsample : cpuSample stats with
    | none =>
      rw [hsample] at heq
      cases heq
    | some sample =>
      rw [hsample] at heq hcur'
      cases heq
      exact ⟨e.1, sample, hprev', hcur', rfl⟩

theorem digestContainer_digesting (container : String) (running : Bool) :
    (digestContainer round container running).Relies (digesting round k)
      (fun r s' => ∀ percent, r = .ok (some percent) → s'.Between round container percent) {} := by
  unfold digestContainer
  rw [Action.relies_ite]
  refine ⟨fun _ => ?_, fun _ => nofun⟩
  refine Action.relies_attempt trivial fun r _ => ?_
  rcases r with (_ | e) | stats
  · exact nofun
  · exact nofun
  · exact digestRaw_digesting container stats rfl rfl

theorem blocks_digesting :
    (blocks round k ()).Relies (digesting round k) (fun next _ => next = none) {} := by
  cases k with
  | prune => exact Action.relies_once.mpr (pruneCpuPrev_digesting.mono fun _ _ _ => rfl)
  | digest container running =>
    refine Action.relies_once.mpr ?_
    rw [Action.relies_bind, Action.relies_outcome]
    refine (digestContainer_digesting container running).mono ?_
    rintro (e | _ | percent) s hbetween
    · exact ⟨trivial, fun _ _ => rfl⟩
    · exact ⟨trivial, fun _ _ => rfl⟩
    · exact ⟨hbetween percent rfl, fun _ _ => rfl⟩

end Programs

/-! ## Their steps -/

section Steps
variable {k : Task} {n N : Nat} {s : Digest} {w w' : Table} {c : StatsCall}
  {r : Raises StatsCall.Answer StatsError c}

theorem may_of_serve (served : serve n w c r w') : (digesting round k).may s c r := by
  cases c with
  | readStats => trivial
  | _ => exact ⟨_, served.1⟩

/-- What was told stays so, -/
theorem told_of_serve (served : serve n w c r w') : ∀ x ∈ w.told, x ∈ w'.told := by
  intro x hx
  cases c with
  | readStats container =>
    cases r with
    | ok stats =>
      cases served
      exact List.mem_append_right _ hx
    | error e =>
      cases served
      exact hx
  | _ =>
    obtain ⟨-, rfl⟩ := served
    exact hx

/-- and an entry of the table was there before, or has just been written. -/
theorem prev_of_serve (served : serve n w c r w') {e : String × Entry} (he : e ∈ w'.prev) :
    e ∈ w.prev ∨ ∃ sample at', c = .setPrev e.1 sample at' ∧ e.2 = ⟨sample, at', n⟩ := by
  cases c with
  | readStats container =>
    cases r with
    | ok stats =>
      cases served
      exact .inl he
    | error e =>
      cases served
      exact .inl he
  | setPrev container sample at' =>
    obtain ⟨-, rfl⟩ := served
    rcases mem_upsert he with rfl | hold
    · exact .inr ⟨sample, at', rfl, rfl⟩
    · exact .inl hold
  | popPrev container =>
    obtain ⟨-, rfl⟩ := served
    exact .inl (List.mem_filter.mp he).1
  | _ =>
    obtain ⟨-, rfl⟩ := served
    exact .inl he

/-- What a thread knows stays so where nothing is forgotten that was told. -/
theorem Knows.mono (h : Knows n s w) (htold : ∀ x ∈ w.told, x ∈ w'.told)
    (hstored : s.stored = false → ∀ e ∈ w'.prev, e.2.writer ≠ n) : Knows n s w' where
  cur container x hx := htold _ (h.cur container x hx)
  prev container x hx := by
    obtain ⟨m, hm, hmem⟩ := h.prev container x hx
    exact ⟨m, hm, htold _ hmem⟩
  stored := hstored

/-- **A thread's own step keeps what it knows.** -/
theorem Knows.after (served : serve n w c r w') (h : Knows n s w) (hk : Kept N w)
    (hallowed : (digesting round k).allowed s c) :
    Knows n ((digesting round k).after s c r) w' := by
  have htold := told_of_serve served
  cases c with
  | readStats container =>
    cases r with
    | ok stats =>
      cases served
      refine { h.mono htold h.stored with cur := fun container' x hx => ?_ }
      obtain ⟨sample, hsample, heq⟩ := Option.map_eq_some_iff.mp hx
      cases heq
      refine List.mem_append_left _ (List.mem_map.mpr ⟨x, ?_, rfl⟩)
      exact Option.mem_toList.mpr hsample
    | error e =>
      cases served
      exact h
  | getPrev container =>
    obtain ⟨rfl, rfl⟩ := served
    refine { h with prev := fun container' x hx => ?_ }
    obtain ⟨found, hfound, heq⟩ := Option.map_eq_some_iff.mp hx
    cases heq
    obtain ⟨entry, hlookup, rfl⟩ := Option.map_eq_some_iff.mp hfound
    have hmem : (container, entry) ∈ w'.prev := mem_of_lookup hlookup
    exact ⟨entry.writer, h.stored hallowed _ hmem, hk.told _ hmem⟩
  | setPrev container sample at' =>
    obtain ⟨-, rfl⟩ := served
    exact ⟨h.cur, h.prev, nofun⟩
  | monotonic | listPrev | report =>
    obtain ⟨rfl, rfl⟩ := served
    exact h
  | popPrev container =>
    refine h.mono htold fun hs e he => ?_
    rcases prev_of_serve served he with hold | ⟨_, _, hset, -⟩
    · exact h.stored hs e hold
    · cases hset

/-- **No other thread's step disturbs it.** -/
theorem Knows.other {m : Nat} {t : Digest} (served : serve n w c r w') (hm : m ≠ n)
    (hother : Knows m t w) : Knows m t w' := by
  refine hother.mono (told_of_serve served) fun hs e he => ?_
  rcases prev_of_serve served he with hold | ⟨sample, at', -, heq⟩
  · exact hother.stored hs e hold
  · rw [heq]
    exact Ne.symm hm

/-- **A step keeps the invariant of the table.** -/
theorem Kept.serve (served : serve n w c r w') (hn : n < N) (hk : Kept N w) (h : Knows n s w)
    (hallowed : (digesting round k).allowed s c) : Kept N w' := by
  refine ⟨fun e he => ?_, fun e he => ?_⟩
  · rcases prev_of_serve served he with hold | ⟨sample, at', -, heq⟩
    · exact hk.writer e hold
    · rw [heq]
      exact hn
  · refine told_of_serve served _ ?_
    rcases prev_of_serve served he with hold | ⟨sample, at', rfl, heq⟩
    · exact hk.told e hold
    · rw [heq]
      exact h.cur _ _ hallowed

end Steps

/-! ## In every run -/

/-- Every thread begins with an empty record. -/
def AtStart (k : Task) (next : Option (Label k)) (s : Digest) : Prop := next.isSome → s = {}

theorem relied_digesting (round : Rat → Rat) :
    Relied table Polls (blocks round) (digesting round) AtStart Knows Kept where
  block := by
    rintro k l s hstart
    obtain rfl := hstart rfl
    refine blocks_digesting.mono ?_
    rintro next s rfl
    exact nofun
  may served _ _ _ _ := may_of_serve served
  own served _ hk h hallowed := h.after served hk hallowed
  other served _ _ _ _ hm hother := hother.other served hm
  drift := by
    rintro w w' n s N ⟨-, hsame⟩ - h
    rw [hsame]
    exact ⟨h.cur, h.prev, h.stored⟩
  fresh := by
    rintro ⟨k, rest⟩ n w haccepts hk
    obtain rfl : rest = .pure (some ()) := haccepts
    exact ⟨{}, fun _ => rfl, nofun, nofun, fun _ e he => Nat.ne_of_lt (hk.writer e he)⟩
  inv_serve served hn hk h hallowed := hk.serve served hn h hallowed
  inv_drift := by
    rintro w w' N ⟨-, hsame⟩ hk
    rw [hsame]
    exact ⟨hk.writer, hk.told⟩
  inv_succ hk := ⟨fun e he => Nat.lt_succ_of_lt (hk.writer e he), hk.told⟩

/-- In the events, the daemon has told the thread this sample of the container. -/
def Told (es : List (Table × Event Replies)) (n : Nat) (container : String) (x : Sample) : Prop :=
  ∃ w k stats, (w, .called n k (.readStats container) (.ok stats)) ∈ es ∧ cpuSample stats = some x

theorem Told.cons {es : List (Table × Event Replies)} {n : Nat} {container : String} {x : Sample}
    (h : Told es n container x) (e : Table × Event Replies) : Told (e :: es) n container x := by
  obtain ⟨w, k, stats, hmem, hsample⟩ := h
  exact ⟨w, k, stats, List.mem_cons_of_mem _ hmem, hsample⟩

theorem told_of_rounds {p q : Crew Replies Label Table} {es : List (Table × Event Replies)}
    (rounds : table.Rounds Polls (blocks round) p es q) {n : Nat} {container : String} {x : Sample}
    (h : (n, container, x) ∈ q.world.told) :
    (n, container, x) ∈ p.world.told ∨ Told es n container x := by
  induction rounds with
  | nil => exact .inl h
  | turn runs _ ih => exact ih h
  | step first _ ih =>
    rcases ih h with hnext | htold
    · cases first with
      | @call w w' ts n' k c r next runs served =>
        cases c with
        | readStats container' =>
          cases r with
          | ok stats =>
            cases served
            rcases List.mem_append.mp hnext with hnew | hold
            · obtain ⟨x', hx', heq⟩ := List.mem_map.mp hnew
              cases heq
              exact .inr ⟨w, k, stats, List.mem_cons_self, Option.mem_toList.mp hx'⟩
            · exact .inl hold
          | error e =>
            cases served
            exact .inl hnext
        | _ =>
          obtain ⟨-, rfl⟩ := served
          exact .inl hnext
      | start haccepts => exact .inl hnext
      | drift hdrift =>
        rw [hdrift.2] at hnext
        exact .inl hnext
    · exact .inr (htold.cons _)

/-- A load other than zero is that of counters which have both gone up. -/
theorem busyPercent_ne_zero {prev cur : Sample} (h : busyPercent round prev cur ≠ 0) :
    prev.total < cur.total ∧ prev.system < cur.system := by
  unfold busyPercent at h
  by_cases hup : 0 < cur.system - prev.system ∧ 0 < cur.total - prev.total
  · omega
  · exact absurd (if_neg hup) h

/-- **Each load is that of its own container.**  Whatever the interleaving of the digests and of
those who prune the table, a load that is reported for a container is computed from two of its own
samples: the one that the daemon has told to this digest, and one that it has told to another.
Where it is not zero, both counters have gone up from that one to this. -/
theorem load_of_own_samples {w w' : Table} {q : Crew Replies Label Table}
    {es es' : List (Table × Event Replies)} {n : Nat} {k : Task} {container : String}
    {percent : Rat} {r : Except StatsError Unit} (hprev : w.prev = []) (htold : w.told = [])
    (rounds : table.Rounds Polls (blocks round) ⟨w, []⟩
      (es ++ (w', .called n k (.report container (.ok (some percent))) r) :: es') q) :
    ∃ m before after, m ≠ n ∧ Told es m container before ∧ Told es n container after ∧
      percent = busyPercent round before after ∧
      (percent ≠ 0 → before.total < after.total ∧ before.system < after.system) := by
  have hagrees : Relied.Agrees (digesting round) AtStart Knows Kept
      (⟨w, []⟩ : Crew Replies Label Table) := by
    refine ⟨⟨fun e he => ?_, fun e he => ?_⟩, fun n t ht => nomatch ht⟩
    · rw [hprev] at he
      cases he
    · rw [hprev] at he
      cases he
  obtain ⟨N, s, -, h, ⟨before, after, hbefore, hafter, rfl⟩, -⟩ :=
    (relied_digesting round).at_call rounds hagrees (List.mem_append_right _ List.mem_cons_self)
  obtain ⟨mid, mid', first, rfl, -, -⟩ := rounds.served
  have hevents {m : Nat} {x : Sample} (hx : (m, container, x) ∈ mid.world.told) :
      Told es m container x := by
    rcases told_of_rounds first hx with hold | htold'
    · rw [htold] at hold
      cases hold
    · exact htold'
  obtain ⟨m, hm, hmem⟩ := h.prev _ _ hbefore
  exact ⟨m, before, after, hm, hevents hmem, hevents (h.cur _ _ hafter), rfl, busyPercent_ne_zero⟩

/-! ### Two polls -/

/-- Calls that succeed; the counters go up from one read to the next. -/
def obliging (n : Nat) (w : Table) :
    (c : StatsCall) → Raises StatsCall.Answer StatsError c × Table
  | .monotonic => (.ok w.clock, w)
  | .readStats container =>
    let reads : Int := w.told.length + 1
    let stats : CpuStats := { totalUsage := some (5 * reads), systemUsage := some (20 * reads) }
    (.ok (some stats),
      { w with told := (cpuSample (some stats)).toList.map (n, container, ·) ++ w.told })
  | .getPrev container => (.ok ((w.prev.lookup container).map fun e => (e.sample, e.at')), w)
  | .setPrev container sample at' =>
    (.ok (), { w with prev := upsert w.prev container ⟨sample, at', n⟩ })
  | .listPrev => (.ok (w.prev.map fun e => (e.1, e.2.at')), w)
  | .popPrev container => (.ok (), { w with prev := w.prev.filter fun e => e.1 ≠ container })
  | .report _ _ => (.ok (), w)

theorem obliging_serves (n : Nat) (k : Task) (w : Table) (c : StatsCall)
    (r : Raises StatsCall.Answer StatsError c) (w' : Table)
    (h : some (obliging n w c) = some (r, w')) : table.serve n k w c r w' := by
  cases c with
  | readStats =>
    cases h
    rfl
  | _ =>
    cases h
    exact ⟨rfl, rfl⟩

/-- The digest of a container. -/
def digestTask : Task := .digest "c" true

/-- Some calls of a digest. -/
def digestsFor (n m : Nat) (p : Prog (Replies digestTask) (Option Unit)) (w : Table) :=
  roundsFor (fun w c => some (obliging n w c)) (blocks id digestTask) n m p w

/-- The first poll's digest, -/
def firstPoll := digestsFor 0 9 (.pure (some ())) { clock := 0 }

/-- and the second's, which is about to report a load. -/
def secondPoll := digestsFor 1 5 (.pure (some ())) firstPoll.2.1

theorem secondPoll_next : ∃ next, secondPoll.2.2 =
    .call (.report "c" (.ok (some 25))) next :=
  ⟨_, by with_unfolding_all rfl⟩

/-- The events of the two of them. -/
def polls : List (Table × Event Replies) :=
  [({ clock := 0 }, .started 0)] ++ firstPoll.1 ++ [(firstPoll.2.1, .started 1)] ++ secondPoll.1

theorem polls_rounds : ∃ q, table.Rounds Polls (blocks id) ⟨{ clock := 0 }, []⟩
    (polls ++
      [(secondPoll.2.1, .called 1 digestTask (.report "c" (.ok (some 25))) (.ok ()))]) q := by
  have halone (n m : Nat) (p : Prog (Replies digestTask) (Option Unit)) (w : Table)
      (ts : List (Worker Replies Label)) (hn : ts[n]? = some ⟨digestTask, p⟩) :
      table.Rounds Polls (blocks id) ⟨w, ts⟩ (digestsFor n m p w).1
        ⟨(digestsFor n m p w).2.1, ts.set n ⟨digestTask, (digestsFor n m p w).2.2⟩⟩ :=
    Shared.Rounds.alone (obliging_serves n digestTask) m p w ts hn
  have hpolls : Polls (⟨digestTask, .pure (some ())⟩ : Worker Replies Label) := rfl
  have hstarted : table.Rounds Polls (blocks id) ⟨{ clock := 0 }, []⟩
      [({ clock := 0 }, .started 0)] ⟨{ clock := 0 }, [⟨digestTask, .pure (some ())⟩]⟩ :=
    .step (.start hpolls) (.nil _)
  have hfirst := halone 0 9 (.pure (some ())) { clock := 0 } [⟨digestTask, .pure (some ())⟩] rfl
  have hagain : table.Rounds Polls (blocks id) ⟨firstPoll.2.1, [⟨digestTask, firstPoll.2.2⟩]⟩
      [(firstPoll.2.1, .started 1)]
      ⟨firstPoll.2.1, [⟨digestTask, firstPoll.2.2⟩, ⟨digestTask, .pure (some ())⟩]⟩ :=
    .step (.start hpolls) (.nil _)
  have hsecond := halone 1 5 (.pure (some ())) firstPoll.2.1
    [⟨digestTask, firstPoll.2.2⟩, ⟨digestTask, .pure (some ())⟩] rfl
  obtain ⟨next, hnext⟩ := secondPoll_next
  have hreport : table.Rounds Polls (blocks id)
      ⟨secondPoll.2.1, [⟨digestTask, firstPoll.2.2⟩, ⟨digestTask, secondPoll.2.2⟩]⟩
      [(secondPoll.2.1, .called 1 digestTask (.report "c" (.ok (some 25))) (.ok ()))]
      ⟨secondPoll.2.1, [⟨digestTask, firstPoll.2.2⟩, ⟨digestTask, next (.ok ())⟩]⟩ := by
    rw [hnext]
    have hserved : table.serve 1 digestTask secondPoll.2.1 (.report "c" (.ok (some 25))) (.ok ())
        secondPoll.2.1 := ⟨rfl, rfl⟩
    exact .step (.call rfl hserved) (.nil _)
  exact ⟨_, (((hstarted.append hfirst).append hagain).append hsecond).append hreport⟩

/-- A quarter of the host, by the counters of the two polls. -/
theorem load_of_own_samples_second : (∃ m before after, m ≠ 1 ∧ Told polls m "c" before ∧
    Told polls 1 "c" after ∧ 25 = busyPercent id before after ∧
      ((25 : Rat) ≠ 0 → before.total < after.total ∧ before.system < after.system)) := by
  obtain ⟨q, rounds⟩ := polls_rounds
  exact load_of_own_samples rfl rfl rounds

end Greffer.Metrics.Cpu

import Greffer.Logs.Poll

/-! # Following a container's log

A follower polls `instanceLogs` again and again, each time with the cursor of the answer
before, while the container writes on.

The cursor is a timestamp, and a poll drops every line that is not strictly later.  **A
line that is written after a poll, with the timestamp of the last line that poll handed
out, is never handed out**, and nothing flags the gap.  `following_lossless` says that
this is the only kind of line that is lost — together with those the daemon holds back
because the cursor, read as a local time, lies in their future.
-/
namespace Greffer.Logs
open Docker

/-! ## The follower -/

/-- A follower of one log, and how much of the log there is. -/
structure Follower where
  /-- How many lines the container has written. -/
  written : Nat := 0
  cursor : Option CursorText := none
  /-- The lines of this container in all answers so far. -/
  emitted : List (String × String) := []
  /-- Some answer said that it is truncated. -/
  truncated : Bool := false
  /-- How many lines there were at the last poll that read the log. -/
  seen : Nat := 0
  /-- The place of the first emitted line in the log. -/
  first : Nat := 0

/-- The container writes, or the follower polls. -/
inductive Event (service : String) where
  | write (count : Nat)
  | poll (poll : Poll service)

section Follow
variable (timestamp : String → Option Int) (time : String → Rat) (decode : List UInt8 → String)
  (instanceId : String) {container : Container} (history : History)

namespace Follower

/-- An answer has come. -/
def answered (reads : Bool) (r : Response) (s : Follower) : Follower :=
  let new := (ofService (serviceName container) r.lines).map fun l => (l.ts.getD "", l.msg)
  { s with
    cursor := r.nextCursor
    emitted := s.emitted ++ new
    truncated := s.truncated || r.truncated
    seen := if reads then s.written else s.seen
    first := if s.emitted = [] then s.written - new.length else s.first }

/-- One event.  A poll that is refused, or finds no deployed instance, changes nothing. -/
def step (s : Follower) : Event (serviceName container) → Follower
  | .write count => { s with written := min (s.written + count) history.lines.length }
  | .poll poll =>
    match poll.request timestamp time decode instanceId (history.lines.take s.written) s.cursor with
    | .ok (some r) => @answered container poll.reads r s
    | _ => s

/-- The events, one after the other. -/
def follow (s : Follower) (events : List (Event (serviceName container))) : Follower :=
  events.foldl (step timestamp time decode instanceId history) s

/-- Nothing is missing between the first emitted line and the last poll that read the
log. -/
def Gapless (s : Follower) : Prop :=
  s.emitted = ((history.lines.take s.seen).drop s.first).map Line.pair

instance (s : Follower) : Decidable (s.Gapless history) := inferInstanceAs (Decidable (_ = _))

/-- What holds of every follower: the cursor is the timestamp of the last emitted line,
and the emitted lines are lines of the log, each at most once and in their order. -/
structure Sound (container : Container) (s : Follower) : Prop where
  minted : Minted s.cursor
  position : position s.cursor (serviceName container) = s.emitted.getLast?.map Prod.fst
  once : s.emitted.Sublist ((history.lines.take s.written).map Line.pair)
  unseen : s.emitted = [] → s.seen = 0
  seen_le : s.seen ≤ s.written
  written_le : s.written ≤ history.lines.length

end Follower

/-- Every line written since the last poll that read the log is later than the last line
that poll has seen, and not older than the daemon is asked for. -/
def InTime (written seen : Nat) : Prop :=
  ∀ last, (history.lines.take seen).getLast? = some last →
    ∀ l ∈ (history.lines.take written).drop seen, fresh timestamp time (some last.ts) l = true

/-- A poll that reads the log finds the new lines in time. -/
def OnTime (written seen : Nat) : Event (serviceName container) → Prop
  | .write _ => True
  | .poll poll => poll.looks = true → InTime timestamp time history written seen

/-- How much is written, and how much has been seen, after an event. -/
def advance (written seen : Nat) : Event (serviceName container) → Nat × Nat
  | .write count => (min (written + count) history.lines.length, seen)
  | .poll poll => (written, if poll.looks then written else seen)

/-- At every poll that reads the log, the new lines are in time. -/
def Timely (written seen : Nat) : List (Event (serviceName container)) → Prop
  | [] => True
  | e :: rest => OnTime timestamp time history written seen e ∧
      Timely (advance history written seen e).1 (advance history written seen e).2 rest

/-! ### One poll -/

theorem rel_getLast? {α : Type} {r : α → α → Prop} (hrefl : ∀ a, r a a) {l : List α}
    (hl : l.Pairwise r) {last : α} (h : l.getLast? = some last) : ∀ a ∈ l, r a last := by
  intro a ha
  rw [← List.dropLast_append_getLast? last h] at hl ha
  rcases List.mem_append.mp ha with hmem | hmem
  · exact (List.pairwise_append.mp hl).2.2 a hmem last List.mem_cons_self
  · rw [List.mem_singleton.mp hmem]
    exact hrefl last

variable {timestamp time decode instanceId history}

/-- The lines that a poll hands out. -/
def newLines (timestamp : String → Option Int) (time : String → Rat) (reads : Bool) (n : Nat)
    (cursor : Option String) (written : List Line) : List Line :=
  if reads then lastOf n (written.filter (fresh timestamp time cursor)) else []

theorem newLines_sublist (reads : Bool) (n : Nat) (cursor : Option String) (written : List Line) :
    (newLines timestamp time reads n cursor written).Sublist
      (written.filter (fresh timestamp time cursor)) := by
  unfold newLines
  cases reads with
  | false => exact List.nil_sublist _
  | true => exact List.drop_sublist _ _

/-- Without a cursor every line is fresh. -/
theorem filter_fresh_none (written : List Line) :
    written.filter (fresh timestamp time none) = written :=
  List.filter_eq_self.mpr fun _ _ => rfl

theorem read_followed {written : List Line} (h : written.Pairwise fun a b => a.ts ≤ b.ts)
    (reads : Bool) (n : Nat) {cursor : Option String} (hcursor : cursor ≠ some "") :
    let new := newLines timestamp time reads n cursor written
    let read := readOneContainer timestamp (followed time container written reads) cursor n
    read.1 = new.map (fun l => ⟨serviceName container, some l.ts, l.msg⟩) ∧
      read.2.1 = (new.getLast?.map Line.ts).or cursor ∧
      (read.2.2 = false → reads = true → cursor ≠ none →
        (written.filter (fresh timestamp time cursor)).length ≤ n) := by
  intro new read
  cases reads with
  | false =>
    have hread : read = ([], cursor, false) := by
      simp only [read, readOneContainer]
      cases nonEmpty cursor <;> rfl
    rw [hread]
    exact ⟨rfl, rfl, fun _ hx => by cases hx⟩
  | true =>
    have hread := @readOneContainer_daemon timestamp time (followed time container written true)
      written cursor n (fun _ _ => rfl) h hcursor
    refine ⟨congrArg Prod.fst hread, congrArg (·.2.1) hread, fun hfalse _ hsome => ?_⟩
    have hflag := (congrArg (·.2.2) hread).symm.trans hfalse
    cases cursor with
    | none => exact absurd rfl hsome
    | some t => simpa using hflag

/-- **What an answered poll does to its follower.** -/
theorem step_poll {s : Follower} {poll : Poll (serviceName container)} (hs : s.Sound history container)
    (h : poll.answers = true) :
    ∃ n, clampTail poll.tail = .ok n ∧
      let new := newLines timestamp time poll.reads n (s.emitted.getLast?.map Prod.fst)
        (history.lines.take s.written)
      let s' := s.step timestamp time decode instanceId history (.poll poll)
      s'.emitted = s.emitted ++ new.map Line.pair ∧ s'.written = s.written ∧
      s'.seen = (if poll.reads then s.written else s.seen) ∧
      s'.first = (if s.emitted = [] then s.written - new.length else s.first) ∧
      Minted s'.cursor ∧
      position s'.cursor (serviceName container) = s'.emitted.getLast?.map Prod.fst ∧
      (s'.truncated = false → s.truncated = false ∧ (poll.reads = true → s.emitted ≠ [] →
        ((history.lines.take s.written).filter
          (fresh timestamp time (s.emitted.getLast?.map Prod.fst))).length ≤ n)) := by
  -- The poll reads the lines written so far, and the cursor stands at the last one emitted,
  -- whose timestamp is never the empty text that would mean no position.
  have hsorted : (history.lines.take s.written).Pairwise fun a b => a.ts ≤ b.ts := history.sorted.take
  have hne : ∀ p ∈ s.emitted, p.1 ≠ "" := by
    intro p hp
    obtain ⟨l, -, rfl⟩ := List.mem_map.mp (hs.once.subset hp)
    exact l.ts_ne
  have hcursor : s.emitted.getLast?.map Prod.fst ≠ some "" := by
    intro hempty
    obtain ⟨p, hp, hts⟩ := Option.map_eq_some_iff.mp hempty
    exact hne p (List.mem_of_getLast? hp) hts
  obtain ⟨n, r, htail, hrequest, hminted, hlines, hposition, htruncated⟩ :=
    @request_answered timestamp time decode instanceId container poll
      (history.lines.take s.written) s.cursor h hs.minted
  obtain ⟨hnew, hnext, hfew⟩ := @read_followed timestamp time container _ hsorted poll.reads n _ hcursor
  rw [hs.position] at hlines hposition htruncated
  set new := newLines timestamp time poll.reads n (s.emitted.getLast?.map Prod.fst)
    (history.lines.take s.written) with hnewdef
  -- The next position is that of the last line emitted, whether or not the poll brought any.
  have hnext' : (new.getLast?.map Line.ts).or (s.emitted.getLast?.map Prod.fst) =
      (s.emitted ++ new.map Line.pair).getLast?.map Prod.fst := by
    rw [List.getLast?_append, List.getLast?_map]
    cases new.getLast? <;> rfl
  have hkept : ∀ o : Option String, o ≠ some "" → nonEmpty o = o := by
    intro o ho
    cases o with
    | none => rfl
    | some t =>
      have ht : t ≠ "" := fun heq => ho (congrArg some heq)
      simp [nonEmpty, Option.filter, ht]
  have hnextne : (new.getLast?.map Line.ts).or (s.emitted.getLast?.map Prod.fst) ≠ some "" := by
    cases new.getLast? with
    | none => exact hcursor
    | some l => exact fun hx => l.ts_ne (Option.some.inj hx)
  have hnewsorted : new.Pairwise fun a b => a.ts ≤ b.ts :=
    (hsorted.filter _).sublist (newLines_sublist _ _ _ _)
  refine ⟨n, htail, ?_⟩
  intro new' s'
  have hstep : s' = @Follower.answered container poll.reads r s := by
    simp only [s', Follower.step, hrequest]
  have hservice : (ofService (serviceName container) r.lines).map
      (fun l => (l.ts.getD "", l.msg)) = new.map Line.pair := by
    rw [hlines, hnew, List.map_map]
    · rfl
    · rw [hnew, List.pairwise_map]
      exact hnewsorted
  have hemitted : s'.emitted = s.emitted ++ new.map Line.pair := by
    rw [hstep]
    exact congrArg _ hservice
  -- Each part of what follows reads off the step.
  refine ⟨hemitted, ?_, ?_, ?_, ?_, ?_, ?_⟩
  · rw [hstep]
    rfl
  · rw [hstep]
    rfl
  · rw [hstep]
    unfold Follower.answered
    dsimp only
    rw [hservice, List.length_map]
  · rw [hstep]
    exact hminted
  · rw [hstep]
    refine (hposition ?_).trans ?_
    · rw [hnext, hkept _ hnextne]
      intro hnone
      exact (Option.or_eq_none_iff.mp hnone).2
    · rw [hnext, hkept _ hnextne, hnext', ← hstep, hemitted]
  · rw [hstep]
    intro hfalse
    obtain ⟨hbefore, hnow⟩ := Bool.or_eq_false_iff.mp hfalse
    refine ⟨hbefore, fun hreads hsome => hfew (htruncated hnow) hreads fun hnone => hsome ?_⟩
    exact List.getLast?_eq_none_iff.mp (Option.map_eq_none_iff.mp hnone)

theorem step_unanswered {s : Follower} {poll : Poll (serviceName container)}
    (hs : s.Sound history container) (h : poll.answers = false) :
    s.step timestamp time decode instanceId history (.poll poll) = s := by
  simp only [Follower.step]
  split
  · rename_i r hr
    exact absurd hr (request_unanswered h hs.minted r)
  · rfl

/-- Lines up to the cursor, and then fresh ones, are lines of the log in their order. -/
theorem once_append {emitted : List (String × String)} {written new : List Line}
    (h : written.Pairwise fun a b => a.ts ≤ b.ts)
    (honce : emitted.Sublist (written.map Line.pair))
    (hnew : new.Sublist (written.filter (fresh timestamp time (emitted.getLast?.map Prod.fst)))) :
    (emitted ++ new.map Line.pair).Sublist (written.map Line.pair) := by
  cases hlast : emitted.getLast? with
  | none =>
    rw [List.getLast?_eq_none_iff.mp hlast, List.nil_append]
    exact (hnew.trans List.filter_sublist).map _
  | some p =>
    rw [hlast] at hnew
    have hcut := filter_append_filter (p := fun l : Line => decide (p.1 < l.ts)) h
      fun a b hab ha => decide_eq_true (lt_of_lt_of_le (of_decide_eq_true ha) hab)
    have hpairs : (written.map Line.pair).Pairwise fun a b => a.1 ≤ b.1 :=
      List.pairwise_map.mpr (h.imp fun hab => hab)
    have hsorted : emitted.Pairwise fun a b => a.1 ≤ b.1 := hpairs.sublist honce
    have hold : emitted.filter (fun e => !decide (p.1 < e.1)) = emitted := by
      refine List.filter_eq_self.mpr fun e he => ?_
      have hle := rel_getLast? (fun a => le_refl a.1) hsorted hlast e he
      rw [decide_eq_false (not_lt_of_ge hle), Bool.not_false]
    have hleft : emitted.Sublist ((written.filter fun l => !decide (p.1 < l.ts)).map Line.pair) := by
      have hfiltered := honce.filter fun e => !decide (p.1 < e.1)
      rw [hold, List.filter_map] at hfiltered
      exact hfiltered
    have hright : new.Sublist (written.filter fun l => decide (p.1 < l.ts)) := by
      refine hnew.trans ?_
      have hfresh : written.filter (fresh timestamp time (some p.1)) =
          (written.filter fun l => decide (p.1 < l.ts)).filter
            (fun l => decide ((tsToUnix timestamp p.1 : Rat) ≤ time l.ts)) := by
        rw [List.filter_filter]
        refine List.filter_congr fun l _ => ?_
        exact Bool.and_comm _ _
      rw [show Option.map Prod.fst (some p) = some p.1 from rfl, hfresh]
      exact List.filter_sublist
    rw [← hcut, List.map_append]
    exact hleft.append (hright.map _)

/-- **Every event keeps the follower sound.** -/
theorem sound_step {s : Follower} (hs : s.Sound history container)
    (e : Event (serviceName container)) :
    (s.step timestamp time decode instanceId history e).Sound history container := by
  cases e with
  | write count =>
    have hle : s.written ≤ min (s.written + count) history.lines.length :=
      le_min (Nat.le_add_right _ _) hs.written_le
    exact ⟨hs.minted, hs.position,
      hs.once.trans ((List.take_sublist_take_left hle).map _), hs.unseen,
      hs.seen_le.trans hle, min_le_right _ _⟩
  | poll poll =>
    cases hanswers : poll.answers with
    | false =>
      rw [step_unanswered hs hanswers]
      exact hs
    | true =>
      obtain ⟨n, htail, hemitted, hwritten, hseen, -, hminted, hposition, -⟩ :=
        @step_poll timestamp time decode instanceId container history s poll hs hanswers
      set s' := s.step timestamp time decode instanceId history (.poll poll) with hs'
      have hsorted : (history.lines.take s.written).Pairwise fun a b => a.ts ≤ b.ts :=
        history.sorted.take
      refine ⟨hminted, hposition, ?_, ?_, ?_, ?_⟩
      · rw [hemitted, hwritten]
        exact once_append hsorted hs.once (newLines_sublist _ _ _ _)
      · intro hnone
        rw [hemitted] at hnone
        obtain ⟨hbefore, hnew⟩ := List.append_eq_nil_iff.mp hnone
        rw [hseen]
        cases hreads : poll.reads with
        | false => exact hs.unseen hbefore
        | true =>
          rw [hbefore, hreads] at hnew
          have hlength := congrArg List.length (List.map_eq_nil_iff.mp hnew)
          rw [newLines, if_pos rfl, length_lastOf, List.getLast?_nil, Option.map_none,
            filter_fresh_none, List.length_take] at hlength
          have hpos := clampTail_pos htail
          have hle := hs.written_le
          simp only [List.length_nil] at hlength
          rw [if_pos rfl]
          omega
      · rw [hseen, hwritten]
        split
        · exact le_refl _
        · exact hs.seen_le
      · rw [hwritten]
        exact hs.written_le

/-! ### The gap -/

/-- **A poll that reads the log leaves no gap exactly when the new lines are in time.** -/
theorem gapless_poll {s : Follower} {poll : Poll (serviceName container)}
    (hs : s.Sound history container) (hgapless : s.Gapless history) (hlooks : poll.looks = true)
    (hfalse : (s.step timestamp time decode instanceId history (.poll poll)).truncated = false) :
    (s.step timestamp time decode instanceId history (.poll poll)).Gapless history ↔
      InTime timestamp time history s.written s.seen := by
  obtain ⟨hanswers, hreads⟩ := Bool.and_eq_true_iff.mp hlooks
  obtain ⟨n, -, hemitted, hwritten, hseen, hfirst, -, -, hfew⟩ :=
    @step_poll timestamp time decode instanceId container history s poll hs hanswers
  set s' := s.step timestamp time decode instanceId history (.poll poll) with hs'
  set V := history.lines.take s.written with hV
  have hVlength : V.length = s.written := by
    rw [hV, List.length_take, Nat.min_eq_left hs.written_le]
  unfold Follower.Gapless at *
  rw [hemitted, hseen, hfirst, if_pos hreads, ← hV]
  by_cases hempty : s.emitted = []
  · have hzero : s.seen = 0 := hs.unseen hempty
    have hintime : InTime timestamp time history s.written s.seen := by
      intro last hlast
      rw [hzero] at hlast
      cases hlast
    refine ⟨fun _ => hintime, fun _ => ?_⟩
    rw [hempty, if_pos rfl, List.nil_append, newLines, if_pos hreads, List.getLast?_nil,
      Option.map_none, filter_fresh_none, length_lastOf, lastOf, hVlength]
    congr 2
    omega
  · -- the last emitted line is the last line seen
    have htake : V.take s.seen = history.lines.take s.seen := by
      rw [hV, List.take_take, Nat.min_eq_left hs.seen_le]
    have hdropne : (history.lines.take s.seen).drop s.first ≠ [] := by
      intro hnil
      rw [hnil] at hgapless
      exact hempty hgapless
    have hlength : s.first ≤ (history.lines.take s.seen).length := by
      by_contra hlt
      exact hdropne (List.drop_eq_nil_of_le (by omega))
    obtain ⟨last, hlast⟩ : ∃ last, ((history.lines.take s.seen).drop s.first).getLast? = some last :=
      ⟨_, List.getLast?_eq_some_getLast hdropne⟩
    have hcursor : s.emitted.getLast?.map Prod.fst = some last.ts := by
      rw [hgapless, List.getLast?_map, hlast]
      rfl
    have hseenlast : (history.lines.take s.seen).getLast? = some last := by
      rw [List.getLast?_drop] at hlast
      split at hlast
      · cases hlast
      · exact hlast
    -- what was seen is not fresh, and all that is fresh is handed out
    have hnew : newLines timestamp time poll.reads n (s.emitted.getLast?.map Prod.fst) V =
        (V.drop s.seen).filter (fresh timestamp time (some last.ts)) := by
      have hle := (hfew hfalse).2 hreads hempty
      rw [hcursor] at hle
      rw [newLines, if_pos hreads, hcursor, lastOf_of_length_le hle]
      have hold : (V.take s.seen).filter (fresh timestamp time (some last.ts)) = [] := by
        refine List.filter_eq_nil_iff.mpr fun l hl => ?_
        rw [htake] at hl
        have hle := rel_getLast? (fun a => le_refl a.ts) history.sorted.take hseenlast l hl
        simp [fresh, not_lt_of_ge hle]
      conv_lhs => rw [← List.take_append_drop s.seen V]
      rw [List.filter_append, hold, List.nil_append]
    rw [if_neg hempty, hnew, hgapless]
    have hdrop : V.drop s.first = (history.lines.take s.seen).drop s.first ++ V.drop s.seen := by
      rw [← htake, ← List.drop_append_of_le_length (htake ▸ hlength), List.take_append_drop]
    rw [hdrop, List.map_append, List.append_cancel_left_eq]
    have hintime : InTime timestamp time history s.written s.seen ↔
        ∀ l ∈ V.drop s.seen, fresh timestamp time (some last.ts) l = true := by
      unfold InTime
      rw [hseenlast]
      exact ⟨fun h => h last rfl, fun h last' hlast' => Option.some.inj hlast' ▸ h⟩
    rw [hintime, ← List.length_filter_eq_length_iff]
    constructor
    · intro h
      simpa using congrArg List.length h
    · intro h
      exact congrArg _ (List.filter_sublist.eq_of_length h)

/-- Where the log is not read, nothing is missed yet. -/
theorem gapless_of_not_looks {s : Follower} {poll : Poll (serviceName container)}
    (hs : s.Sound history container) (hgapless : s.Gapless history) (hlooks : poll.looks = false) :
    (s.step timestamp time decode instanceId history (.poll poll)).Gapless history := by
  cases hanswers : poll.answers with
  | false =>
    rw [step_unanswered hs hanswers]
    exact hgapless
  | true =>
    have hreads : poll.reads = false := by
      simpa [Poll.looks, hanswers] using hlooks
    obtain ⟨n, -, hemitted, -, hseen, hfirst, -⟩ :=
      @step_poll timestamp time decode instanceId container history s poll hs hanswers
    rw [newLines, hreads, if_neg Bool.false_ne_true, List.map_nil, List.append_nil] at hemitted
    rw [hreads, if_neg Bool.false_ne_true] at hseen
    unfold Follower.Gapless at *
    rw [hemitted, hseen]
    by_cases hempty : s.emitted = []
    · rw [hempty, hs.unseen hempty]
      simp
    · rw [hfirst, if_neg hempty]
      exact hgapless

/-- **One event leaves no gap exactly when it is on time.** -/
theorem gapless_step {s : Follower} {e : Event (serviceName container)}
    (hs : s.Sound history container) (hgapless : s.Gapless history)
    (hfalse : (s.step timestamp time decode instanceId history e).truncated = false) :
    (s.step timestamp time decode instanceId history e).Gapless history ↔
      OnTime timestamp time history s.written s.seen e := by
  cases e with
  | write count => exact ⟨fun _ => trivial, fun _ => hgapless⟩
  | poll poll =>
    cases hlooks : poll.looks with
    | false =>
      have hstill := @gapless_of_not_looks timestamp time decode instanceId container history s poll
        hs hgapless hlooks
      exact ⟨fun _ hx => absurd (hlooks.symm.trans hx) Bool.false_ne_true, fun _ => hstill⟩
    | true =>
      refine (gapless_poll hs hgapless hlooks hfalse).trans ⟨fun h _ => h, fun h => h hlooks⟩

theorem step_advance {s : Follower} (hs : s.Sound history container)
    (e : Event (serviceName container)) :
    ((s.step timestamp time decode instanceId history e).written,
      (s.step timestamp time decode instanceId history e).seen) = advance history s.written s.seen e := by
  cases e with
  | write count => rfl
  | poll poll =>
    cases hanswers : poll.answers with
    | false =>
      rw [step_unanswered hs hanswers]
      simp [advance, Poll.looks, hanswers]
    | true =>
      obtain ⟨n, -, -, hwritten, hseen, -⟩ :=
        @step_poll timestamp time decode instanceId container history s poll hs hanswers
      rw [hwritten, hseen]
      simp [advance, Poll.looks, hanswers]

/-- A truncated answer is never taken back. -/
theorem truncated_step {s : Follower} (hs : s.Sound history container)
    (e : Event (serviceName container)) (h : s.truncated = true) :
    (s.step timestamp time decode instanceId history e).truncated = true := by
  cases e with
  | write count => exact h
  | poll poll =>
    cases hanswers : poll.answers with
    | false =>
      rw [step_unanswered hs hanswers]
      exact h
    | true =>
      obtain ⟨n, -, -, -, -, -, -, -, hback⟩ :=
        @step_poll timestamp time decode instanceId container history s poll hs hanswers
      by_contra hfalse
      have hbefore := (hback (Bool.eq_false_iff.mpr hfalse)).1
      rw [h] at hbefore
      cases hbefore

theorem truncated_follow {s : Follower} (hs : s.Sound history container)
    (h : s.truncated = true) (events : List (Event (serviceName container))) :
    (s.follow timestamp time decode instanceId history events).truncated = true := by
  induction events generalizing s with
  | nil => exact h
  | cons e rest ih => exact ih (sound_step hs e) (truncated_step hs e h)

theorem sound_follow {s : Follower} (hs : s.Sound history container)
    (events : List (Event (serviceName container))) :
    (s.follow timestamp time decode instanceId history events).Sound history container := by
  induction events generalizing s with
  | nil => exact hs
  | cons e rest ih => exact ih (sound_step hs e)

/-- **The events of a run**, from any sound follower without a gap. -/
theorem gapless_follow {s : Follower} (hs : s.Sound history container)
    (hgapless : s.Gapless history) (events : List (Event (serviceName container))) :
    (∀ done, done <+: events →
        (s.follow timestamp time decode instanceId history done).truncated = false →
        (s.follow timestamp time decode instanceId history done).Gapless history) ↔
      ∀ done, done <+: events →
        (s.follow timestamp time decode instanceId history done).truncated = false →
        Timely timestamp time history s.written s.seen done := by
  induction events generalizing s with
  | nil =>
    constructor
    · intro _ done hdone _
      rw [List.prefix_nil.mp hdone]
      trivial
    · intro _ done hdone _
      rw [List.prefix_nil.mp hdone]
      exact hgapless
  | cons e rest ih =>
    have hs' := @sound_step timestamp time decode instanceId container history s hs e
    have hadvance := @step_advance timestamp time decode instanceId container history s hs e
    have hwritten := congrArg Prod.fst hadvance
    have hseen := congrArg Prod.snd hadvance
    dsimp only at hwritten hseen
    cases htruncated : (s.step timestamp time decode instanceId history e).truncated with
    | true =>
      -- nothing is asked of a run once an answer was truncated
      have hall : ∀ done, done <+: e :: rest → done ≠ [] →
          (s.follow timestamp time decode instanceId history done).truncated ≠ false := by
        intro done hdone hne
        rcases List.prefix_cons_iff.mp hdone with rfl | ⟨tail, rfl, -⟩
        · exact absurd rfl hne
        · exact ne_of_eq_of_ne (truncated_follow hs' htruncated tail) Bool.true_eq_false.mp
      constructor
      · intro _ done hdone hfalse
        by_cases hne : done = []
        · rw [hne]
          trivial
        · exact absurd hfalse (hall done hdone hne)
      · intro _ done hdone hfalse
        by_cases hne : done = []
        · rw [hne]
          exact hgapless
        · exact absurd hfalse (hall done hdone hne)
    | false =>
      have hstep := gapless_step hs hgapless htruncated
      constructor
      · intro h done hdone hfalse
        rcases List.prefix_cons_iff.mp hdone with rfl | ⟨tail, rfl, htail⟩
        · trivial
        · have hgap' := h [e] (List.prefix_cons_iff.mpr (.inr ⟨[], rfl, List.nil_prefix⟩)) htruncated
          refine ⟨hstep.mp hgap', ?_⟩
          have hrest := (ih hs' hgap').mp (fun done hd hf => h (e :: done)
            (List.prefix_cons_iff.mpr (.inr ⟨done, rfl, hd⟩)) hf) tail htail hfalse
          rw [hwritten, hseen] at hrest
          exact hrest
      · intro h done hdone hfalse
        rcases List.prefix_cons_iff.mp hdone with rfl | ⟨tail, rfl, htail⟩
        · exact hgapless
        · have hnow := h [e] (List.prefix_cons_iff.mpr (.inr ⟨[], rfl, List.nil_prefix⟩)) htruncated
          have hgap' := hstep.mpr hnow.1
          refine (ih hs' hgap').mpr (fun done hd hf => ?_) tail htail hfalse
          have htimely := h (e :: done) (List.prefix_cons_iff.mpr (.inr ⟨done, rfl, hd⟩)) hf
          rw [hwritten, hseen]
          exact htimely.2

theorem sound_start : ({} : Follower).Sound history container where
  minted := .inl rfl
  position := rfl
  once := List.nil_sublist _
  unseen _ := rfl
  seen_le := le_refl 0
  written_le := Nat.zero_le _

variable (timestamp time decode instanceId history) in
/-- **What following a log hands out.**  No line twice: the emitted lines are lines of the
log in their order, each at most once, after every sequence of writes and polls.  And as
long as no answer was truncated nothing is missing between the first emitted line and the
last poll that read the log, exactly when at each such poll the new lines were in time:
later than the last line seen before, and not older than the daemon was asked for. -/
theorem following_lossless (events : List (Event (serviceName container))) :
    let run := ({} : Follower).follow timestamp time decode instanceId history
    (∀ done, done <+: events → (run done).emitted.Sublist
      ((history.lines.take (run done).written).map Line.pair)) ∧
    ((∀ done, done <+: events → (run done).truncated = false → (run done).Gapless history) ↔
      ∀ done, done <+: events → (run done).truncated = false →
        Timely timestamp time history 0 0 done) := by
  intro run
  constructor
  · intro done _
    exact (sound_follow sound_start done).once
  · exact gapless_follow sound_start rfl events

end Follow

/-! ## Two lines of one instant -/

/-- A web container. -/
def webContainer : Container :=
  { id := "c1", name := "i-web-1", labels := [("com.docker.compose.service", "web")],
    status := "running", stateStatus := some "running", exitCode := none,
    policyName := some "always", health := none, volumeMounts := [] }

/-- It writes two lines with one timestamp. -/
def oneInstant : History where
  lines := [⟨"2024-05-01T10:00:00.500000000Z", "a", by decide, by decide, by decide, by decide⟩,
    ⟨"2024-05-01T10:00:00.500000000Z", "b", by decide, by decide, by decide, by decide⟩]
  sorted := by simp

/-- A poll of all containers, of which there is one. -/
def pollAll : Event (serviceName webContainer) :=
  .poll { stream := .all, stream_ne := nofun, tail := .int 200, narrowed := false, deployed := true,
          listing := none, before := [], after := [], others := by simp, reads := true }

/-- That day, in UTC. -/
def mayFirst (head : String) : Option Int :=
  if head = "2024-05-01T10:00:00" then some 1714557600 else none

/-- **The second line of an instant is lost** if a poll comes between the two, and no
answer is truncated. -/
theorem line_of_same_instant_lost :
    let run := ({} : Follower).follow mayFirst (fun _ => 1714557600 + 1 / 2) (fun _ => "") "i" oneInstant
      [.write 1, pollAll, .write 1, pollAll]
    run.truncated = false ∧ run.seen = 2 ∧
      run.emitted = [("2024-05-01T10:00:00.500000000Z", "a")] ∧ ¬ run.Gapless oneInstant := by
  decide +kernel

end Greffer.Logs

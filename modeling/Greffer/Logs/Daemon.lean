import Mathlib.Data.Rat.Defs
import Greffer.Logs.Read

/-! # The daemon, and one read of a log

The daemon is what its documentation says: `since` keeps the lines that are not older,
`tail` the last ones of those.  What it puts out is parsed back, and one read hands out
the last of the lines that are later than the cursor.
-/
namespace Greffer.Logs
open Docker

/-! ## The log, and the daemon -/

/-- A line of a log: a timestamp, and a message without line separators. -/
structure Line where
  ts : String
  msg : String
  ts_ne : ts ≠ ""
  ts_word : ' ' ∉ ts.toList
  ts_line : OneLine ts
  msg_line : OneLine msg

/-- The timestamp and the message. -/
def Line.pair (l : Line) : String × String := (l.ts, l.msg)

/-- The line, as the daemon puts it out with `timestamps=True`. -/
def Line.text (l : Line) : String := l.ts ++ String.singleton ' ' ++ l.msg

/-- All that a container ever writes.  Timestamps do not decrease. -/
structure History where
  lines : List Line
  sorted : lines.Pairwise fun a b => a.ts ≤ b.ts

/-- The last `n` of a list. -/
def lastOf {α : Type} (n : Nat) (l : List α) : List α := l.drop (l.length - n)

section Daemon
variable (time : String → Rat)

/-- `since` keeps what is not older. -/
def keptSince (since : Option Int) (l : Line) : Bool :=
  match since with
  | some s => decide ((s : Rat) ≤ time l.ts)
  | none => true

/-- What the daemon answers: of the lines `since` keeps, the last `tail`. -/
def daemonLogs (written : List Line) (since : Option Int) (tail : Nat) : String :=
  String.join ((lastOf tail (written.filter (keptSince time since))).map fun l => l.text ++ "\n")

end Daemon

theorem Line.text_oneLine (l : Line) : OneLine l.text := by
  intro c hc
  have htext : l.text.toList = l.ts.toList ++ ' ' :: l.msg.toList := by simp [Line.text]
  rw [htext, List.mem_append, List.mem_cons] at hc
  rcases hc with hc | rfl | hc
  · exact l.ts_line c hc
  · decide
  · exact l.msg_line c hc

/-- **What the daemon puts out is parsed back.** -/
theorem parse_lines (lines : List Line) :
    parseContainerLines (String.join (lines.map fun l => l.text ++ "\n")) = lines.map Line.pair := by
  have htexts : ∀ t ∈ lines.map Line.text, OneLine t := by
    intro t ht
    obtain ⟨l, -, rfl⟩ := List.mem_map.mp ht
    exact l.text_oneLine
  have hjoin : (lines.map fun l => l.text ++ "\n") = (lines.map Line.text).map (· ++ "\n") := by
    rw [List.map_map]
    rfl
  have hne : ∀ t ∈ lines.map Line.text, (t != "") = true := by
    intro t ht
    obtain ⟨l, -, rfl⟩ := List.mem_map.mp ht
    refine bne_iff_ne.mpr fun h => ?_
    have := congrArg String.toList h
    simp [Line.text] at this
  unfold parseContainerLines
  rw [hjoin, splitlines_join htexts, List.filter_eq_self.mpr hne, List.map_map]
  refine List.map_congr_left fun l _ => ?_
  have hpartition : partition ' ' l.text = (l.ts, true, l.msg) := partition_append l.ts_word l.msg
  show ((partition ' ' l.text).1, (partition ' ' l.text).2.2) = l.pair
  rw [hpartition]
  rfl

/-! ## What one read hands out -/

section Lists
variable {α : Type} {p : α → Bool}

theorem lastOf_filter {l₁ l₂ : List α} (h₁ : ∀ a ∈ l₁, p a = false) (h₂ : ∀ a ∈ l₂, p a = true)
    (n : Nat) : (lastOf n (l₁ ++ l₂)).filter p = lastOf n l₂ := by
  unfold lastOf
  rw [List.length_append]
  by_cases hn : l₂.length ≤ n
  · have hdrop : (l₁ ++ l₂).drop (l₁.length + l₂.length - n) =
        l₁.drop (l₁.length + l₂.length - n) ++ l₂ := by
      rw [List.drop_append_of_le_length (by omega)]
    rw [hdrop, List.filter_append, List.filter_eq_nil_iff.mpr, List.filter_eq_self.mpr h₂,
      Nat.sub_eq_zero_of_le hn]
    · rfl
    · intro a ha
      simp [h₁ a (List.mem_of_mem_drop ha)]
  · have hdrop : l₁.length + l₂.length - n = l₁.length + (l₂.length - n) := by omega
    rw [hdrop, List.drop_append, List.drop_eq_nil_of_le (by omega), Nat.add_sub_cancel_left,
      List.nil_append]
    exact List.filter_eq_self.mpr fun a ha => h₂ a (List.mem_of_mem_drop ha)

theorem length_lastOf (n : Nat) (l : List α) : (lastOf n l).length = min n l.length := by
  unfold lastOf
  rw [List.length_drop]
  omega

theorem lastOf_lastOf {m n : Nat} (h : m ≤ n) (l : List α) : lastOf m (lastOf n l) = lastOf m l := by
  have hlength := length_lastOf n l
  unfold lastOf at *
  rw [List.drop_drop, List.length_drop]
  congr 1
  omega

theorem lastOf_of_length_le {n : Nat} {l : List α} (h : l.length ≤ n) : lastOf n l = l := by
  unfold lastOf
  rw [Nat.sub_eq_zero_of_le h, List.drop_zero]

/-- A sorted list, cut where a test begins to hold. -/
theorem filter_append_filter {r : α → α → Prop} {l : List α} (hl : l.Pairwise r)
    (hp : ∀ a b, r a b → p a = true → p b = true) :
    l.filter (fun a => !p a) ++ l.filter p = l := by
  induction l with
  | nil => rfl
  | cons a l ih =>
    obtain ⟨ha, hl⟩ := List.pairwise_cons.mp hl
    by_cases hpa : p a = true
    · have hall : ∀ b ∈ l, p b = true := fun b hb => hp a b (ha b hb) hpa
      have hnone : l.filter (fun b => !p b) = [] := by
        refine List.filter_eq_nil_iff.mpr fun b hb => ?_
        simp [hall b hb]
      simp [hpa, hnone, List.filter_eq_self.mpr hall]
    · simp [hpa, ih hl]

end Lists

section Read
variable (timestamp : String → Option Int) (time : String → Rat)

/-- A line that is later than the cursor, and that the daemon does not hold back. -/
def fresh (cursor : Option String) (l : Line) : Bool :=
  match cursor with
  | some t => decide (t < l.ts) && decide ((tsToUnix timestamp t : Rat) ≤ time l.ts)
  | none => true

variable {timestamp time}

theorem sortByTs_lines {lines : List Line} (h : lines.Pairwise fun a b => a.ts ≤ b.ts) :
    sortByTs (lines.map Line.pair) = lines.map Line.pair :=
  List.Pairwise.insertionSort_eq (List.pairwise_map.mpr h)

/-- Of what the daemon answers, the lines after the cursor: the last of the fresh ones. -/
theorem fresh_of_answer {written : List Line} (h : written.Pairwise fun a b => a.ts ≤ b.ts)
    (t : String) (n : Nat) :
    (lastOf n (written.filter (keptSince time (some (tsToUnix timestamp t))))).filter
      (fun l => t < l.ts) = lastOf n (written.filter (fresh timestamp time (some t))) := by
  have hsorted := h.filter (keptSince time (some (tsToUnix timestamp t)))
  have hcut := filter_append_filter (p := fun l : Line => decide (t < l.ts)) hsorted
    fun a b hab ha => decide_eq_true (lt_of_lt_of_le (of_decide_eq_true ha) hab)
  have hfresh : (written.filter (keptSince time (some (tsToUnix timestamp t)))).filter
      (fun l => t < l.ts) = written.filter (fresh timestamp time (some t)) := by
    rw [List.filter_filter]
    rfl
  rw [← hfresh, ← hcut, lastOf_filter]
  · rw [hcut]
  · intro l hl
    simpa using (List.mem_filter.mp hl).2
  · intro l hl
    exact (List.mem_filter.mp hl).2

/-- **One read of a log**: the last of the fresh lines, and the timestamp of the last of
these, in the order of the log. -/
theorem readOneContainer_daemon {source : Source} {written : List Line} {cursor : Option String}
    {tail : Nat} (hlogs : ∀ since n, source.logs since n = some (daemonLogs time written since n))
    (h : written.Pairwise fun a b => a.ts ≤ b.ts) (hcursor : cursor ≠ some "") :
    let new := lastOf tail (written.filter (fresh timestamp time cursor))
    readOneContainer timestamp source cursor tail =
      (new.map fun l => ⟨source.service, some l.ts, l.msg⟩, (new.getLast?.map Line.ts).or cursor,
        cursor.isSome && decide (tail < (written.filter (fresh timestamp time cursor)).length)) := by
  intro new
  have hsorted : ∀ n, (lastOf n (written.filter (fresh timestamp time cursor))).Pairwise
      fun a b => a.ts ≤ b.ts := fun n => (h.filter _).drop
  have hrecords : ∀ lines : List Line, (lines.map Line.pair).map
      (fun p => (⟨source.service, some p.1, p.2⟩ : LogLine)) =
        lines.map fun l => ⟨source.service, some l.ts, l.msg⟩ := fun lines => List.map_map
  have hnext : ∀ lines : List Line, (lines.map Line.pair).getLast?.map Prod.fst =
      lines.getLast?.map Line.ts := by
    intro lines
    rw [List.getLast?_map, Option.map_map]
    rfl
  unfold readOneContainer
  cases cursor with
  | none =>
    have hall : written.filter (keptSince time none) = written.filter (fresh timestamp time none) := rfl
    simp only [nonEmpty, Option.filter_none, hlogs, daemonLogs, parse_lines, Option.isSome_none,
      Bool.false_and, Bool.false_eq_true, if_false, hall, sortByTs_lines (hsorted _), hnext,
      hrecords, new]
  | some t =>
    have ht : nonEmpty (some t) = some t := by
      have hne : t ≠ "" := fun heq => hcursor (congrArg some heq)
      simp [nonEmpty, Option.filter, hne]
    have hfilter : ∀ lines : List Line, (lines.map Line.pair).filter (fun p => t < p.1) =
        (lines.filter fun l => t < l.ts).map Line.pair := by
      intro lines
      rw [List.filter_map]
      rfl
    simp only [ht, hlogs, daemonLogs, parse_lines, Option.isSome_some, Bool.true_and, hfilter,
      fresh_of_answer h, sortByTs_lines (hsorted _), List.length_map, length_lastOf]
    -- one line more than `tail` was asked for, and that one says that lines were skipped
    by_cases hmany : tail < (written.filter (fresh timestamp time (some t))).length
    · have hover : tail < min (tail + 1) (written.filter (fresh timestamp time (some t))).length := by
        omega
      have hlast : ((lastOf (tail + 1) (written.filter (fresh timestamp time (some t)))).map
          Line.pair).drop (min (tail + 1)
            (written.filter (fresh timestamp time (some t))).length - tail) = new.map Line.pair := by
        rw [← List.map_drop, ← length_lastOf]
        exact congrArg _ (lastOf_lastOf (Nat.le_succ tail) _)
      simp only [hover, hmany, decide_true, if_true, hlast, hnext, hrecords]
    · have hfew : ¬ tail < min (tail + 1)
          (written.filter (fresh timestamp time (some t))).length := by omega
      have hsame : lastOf (tail + 1) (written.filter (fresh timestamp time (some t))) = new := by
        rw [lastOf_of_length_le (by omega)]
        exact (lastOf_of_length_le (by omega)).symm
      simp only [hfew, hmany, decide_false, Bool.false_eq_true, if_false, hsame, hnext, hrecords]

end Read

end Greffer.Logs

import Greffer.Logs.Daemon

/-! # The framing of a container's log

With `timestamps=True` the daemon puts a timestamp and a blank before every message, and a newline
between two of them.  A message may hold any other character: the carriage returns of a progress
bar, form feeds, the separators of Unicode.  The parse breaks its text wherever `str.splitlines`
does, so it undoes the framing **if and only if** no message holds one of those characters
(`parse_framed_iff`).  Elsewhere what is left of a message is taken for a line, and its first word
for a timestamp, which the cursor then hands to the next poll (`parse_progress`).
-/
namespace Greffer.Logs
open Docker

/-- What a container has written, and when. -/
structure Entry where
  ts : String
  msg : String
  ts_ne : ts ≠ ""
  ts_word : ' ' ∉ ts.toList
  ts_line : OneLine ts
  /-- Of a message, nothing but the newline is asked. -/
  msg_line : '\n' ∉ msg.toList

/-- The timestamp and the message. -/
def Entry.pair (e : Entry) : String × String := (e.ts, e.msg)

/-- The entry, as the daemon puts it out. -/
def Entry.text (e : Entry) : String := e.ts ++ String.singleton ' ' ++ e.msg

/-- The daemon's framing. -/
def framed (entries : List Entry) : String := "\n".intercalate (entries.map Entry.text)

/-- What the daemon answers to the one call that a read makes. -/
def answerOf (timestamp : String → Option Int) (source : Source) (cursor : Option String)
    (tail : Nat) : Option String :=
  match nonEmpty cursor with
  | some ts => source.logs (some (tsToUnix timestamp ts)) (tail + 1)
  | none => source.logs none tail

/-- The next cursor is the caller's, or a timestamp of the daemon's. -/
def CursorKept (entries : List Entry) : Prop :=
  ∀ (timestamp : String → Option Int) (source : Source) (cursor : Option String) (tail : Nat),
    (∀ raw, answerOf timestamp source cursor tail = some raw → raw = framed entries) →
    (readOneContainer timestamp source cursor tail).2.1 = cursor ∨
      ∃ e ∈ entries, (readOneContainer timestamp source cursor tail).2.1 = some e.ts

/-- The parse undoes the framing. -/
structure Undone (entries : List Entry) : Prop where
  parsed : parseContainerLines (framed entries) = entries.map Entry.pair
  cursor : CursorKept entries

/-! ## The lines of a text -/

/-- What stands behind the separator is a part of the text. -/
theorem mem_partition {sep c : Char} {text : String}
    (h : c ∈ (partition sep text).2.2.toList) : c ∈ text.toList := by
  unfold partition at h
  dsimp only at h
  split at h
  · simp at h
  · rename_i first rest hdrop
    rw [String.toList_ofList] at h
    have hmem : c ∈ first :: rest := List.mem_cons_of_mem _ h
    rw [← hdrop] at hmem
    exact (List.dropWhile_suffix _).subset hmem

theorem splitlinesFrom_last {cs : List Char} (h : ∀ c ∈ cs, isLineBreak c = false)
    (line : List Char) (hne : line ++ cs ≠ []) : splitlinesFrom line cs = [line ++ cs] := by
  induction cs generalizing line with
  | nil =>
    rw [List.append_nil] at hne ⊢
    rw [splitlinesFrom, if_neg (by simpa using hne)]
  | cons c cs ih =>
    have hc := h c List.mem_cons_self
    rw [splitlinesFrom]
    · rw [if_neg (by simp [hc]), ih (fun d hd => h d (List.mem_cons_of_mem _ hd))]
      · simp
      · simp
    · rintro rest' rfl
      exact absurd hc (by decide)

theorem splitlines_intercalate {texts : List String} (h : ∀ t ∈ texts, OneLine t)
    (hne : ∀ t ∈ texts, t ≠ "") : splitlines ("\n".intercalate texts) = texts := by
  unfold splitlines
  induction texts with
  | nil => rfl
  | cons t rest ih =>
    have ht := h t List.mem_cons_self
    have hrest := ih (fun u hu => h u (List.mem_cons_of_mem _ hu))
      fun u hu => hne u (List.mem_cons_of_mem _ hu)
    cases rest with
    | nil =>
      have hne' : [] ++ t.toList ≠ [] := by simpa using hne t List.mem_cons_self
      have hsingle : "\n".intercalate [t] = t := by simp
      rw [hsingle, splitlinesFrom_last ht [] hne']
      simp
    | cons u rest =>
      have hline : ("\n".intercalate (t :: u :: rest)).toList =
          t.toList ++ '\n' :: ("\n".intercalate (u :: rest)).toList := by
        simp [String.intercalate_cons_cons]
      rw [hline, splitlinesFrom_line ht, List.map_cons, hrest]
      simp

/-! ## The parse -/

/-- The messages that a parse gives hold no line boundary. -/
theorem parse_oneLine {raw : String} {p : String × String} (h : p ∈ parseContainerLines raw) :
    OneLine p.2 := by
  obtain ⟨line, hline, rfl⟩ := List.mem_map.mp h
  intro c hc
  exact splitlines_oneLine (List.mem_filter.mp hline).1 c (mem_partition hc)

theorem Entry.text_ne (e : Entry) : e.text ≠ "" := by
  intro h
  have := congrArg String.toList h
  simp [Entry.text] at this

theorem Entry.text_oneLine (e : Entry) (hmsg : OneLine e.msg) : OneLine e.text := by
  intro c hc
  have htext : e.text.toList = e.ts.toList ++ ' ' :: e.msg.toList := by simp [Entry.text]
  rw [htext, List.mem_append, List.mem_cons] at hc
  rcases hc with hc | rfl | hc
  · exact e.ts_line c hc
  · decide
  · exact hmsg c hc

theorem parse_framed {entries : List Entry} (h : ∀ e ∈ entries, OneLine e.msg) :
    parseContainerLines (framed entries) = entries.map Entry.pair := by
  have htexts : ∀ t ∈ entries.map Entry.text, OneLine t := by
    intro t ht
    obtain ⟨e, he, rfl⟩ := List.mem_map.mp ht
    exact e.text_oneLine (h e he)
  have hne : ∀ t ∈ entries.map Entry.text, t ≠ "" := by
    intro t ht
    obtain ⟨e, -, rfl⟩ := List.mem_map.mp ht
    exact e.text_ne
  have hkept : (entries.map Entry.text).filter (· != "") = entries.map Entry.text :=
    List.filter_eq_self.mpr fun t ht => bne_iff_ne.mpr (hne t ht)
  unfold parseContainerLines framed
  rw [splitlines_intercalate htexts hne, hkept, List.map_map]
  refine List.map_congr_left fun e _ => ?_
  have hpartition : partition ' ' e.text = (e.ts, true, e.msg) := partition_append e.ts_word e.msg
  show ((partition ' ' e.text).1, (partition ' ' e.text).2.2) = e.pair
  rw [hpartition]
  rfl

/-! ## The cursor -/

theorem mem_of_kept {fresh : List (String × String)} {p : String × String} {skips : Bool} {n : Nat}
    (h : (if skips then (sortByTs fresh).drop n else sortByTs fresh).getLast? = some p) :
    p ∈ fresh := by
  have hp := List.mem_of_getLast? h
  refine (List.perm_insertionSort _ _).subset (?_ : p ∈ sortByTs fresh)
  split at hp
  · exact List.mem_of_mem_drop hp
  · exact hp

theorem next_cases (last : Option (String × String)) (cursor : Option String) :
    (last.map Prod.fst).or cursor = cursor ∨
      ∃ p, last = some p ∧ (last.map Prod.fst).or cursor = some p.1 := by
  cases last with
  | none => exact .inl rfl
  | some p => exact .inr ⟨p, rfl, rfl⟩

/-- **The next cursor** is the caller's, or a timestamp that was parsed. -/
theorem readOneContainer_cursor (timestamp : String → Option Int) (source : Source)
    (cursor : Option String) (tail : Nat) :
    (readOneContainer timestamp source cursor tail).2.1 = cursor ∨
      ∃ raw, answerOf timestamp source cursor tail = some raw ∧
        ∃ p ∈ parseContainerLines raw,
          (readOneContainer timestamp source cursor tail).2.1 = some p.1 := by
  unfold readOneContainer answerOf
  cases nonEmpty cursor with
  | none =>
    dsimp only
    cases source.logs none tail with
    | none => exact .inl rfl
    | some raw =>
      refine (next_cases _ cursor).imp id ?_
      rintro ⟨p, hlast, hnext⟩
      exact ⟨raw, rfl, p, mem_of_kept hlast, hnext⟩
  | some ts =>
    dsimp only
    cases source.logs (some (tsToUnix timestamp ts)) (tail + 1) with
    | none => exact .inl rfl
    | some raw =>
      refine (next_cases _ cursor).imp id ?_
      rintro ⟨p, hlast, hnext⟩
      exact ⟨raw, rfl, p, (List.mem_filter.mp (mem_of_kept hlast)).1, hnext⟩

/-- **The parse undoes the framing** exactly where no message holds a line boundary. -/
theorem parse_framed_iff (entries : List Entry) :
    Undone entries ↔ ∀ e ∈ entries, OneLine e.msg := by
  refine ⟨fun h e he => ?_, fun h => ⟨parse_framed h, fun timestamp source cursor tail hraw => ?_⟩⟩
  · have hmem : e.pair ∈ parseContainerLines (framed entries) := by
      rw [h.parsed]
      exact List.mem_map_of_mem he
    exact parse_oneLine hmem
  · obtain hkept | ⟨raw, hanswer, p, hp, hts⟩ :=
      readOneContainer_cursor timestamp source cursor tail
    · exact .inl hkept
    · rw [hraw raw hanswer, parse_framed h] at hp
      obtain ⟨e, he, rfl⟩ := List.mem_map.mp hp
      exact .inr ⟨e, he, hts⟩

/-- One line of a progress bar. -/
def progress : Entry where
  ts := "2024-01-01T00:00:00Z"
  msg := "pulling\rwait"
  ts_ne := by decide
  ts_word := by decide
  ts_line := by decide
  msg_line := by decide

/-- **A carriage return** makes a line of its own of what follows it, and a cursor of its first
word. -/
theorem parse_progress : (¬ Undone [progress] ∧
    parseContainerLines (framed [progress]) =
      [("2024-01-01T00:00:00Z", "pulling"), ("wait", "")]) := by
  refine ⟨fun h => ?_, by decide⟩
  have := (parse_framed_iff [progress]).mp h progress List.mem_cons_self
  revert this
  decide

end Greffer.Logs

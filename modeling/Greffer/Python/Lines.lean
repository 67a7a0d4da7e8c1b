import Greffer.Python.Builtins

/-! # Lines of a text

`str.splitlines` breaks a text at every line boundary Python knows, not at newlines
alone, and gives no last empty line.
-/
namespace Greffer

/-- The characters `str.splitlines` breaks at. -/
def isLineBreak (c : Char) : Bool :=
  c == '\n' || c == '\r' || c == '\x0b' || c == '\x0c' || c == '\x1c' || c == '\x1d' ||
    c == '\x1e' || c == '\x85' || c == '\u2028' || c == '\u2029'

/-- The lines of the rest of a text; `line` has been read of the first one.  A carriage
return and the newline behind it are one boundary. -/
def splitlinesFrom (line : List Char) : List Char → List (List Char)
  | [] => if line.isEmpty then [] else [line]
  | '\r' :: '\n' :: rest => line :: splitlinesFrom [] rest
  | c :: rest => if isLineBreak c then line :: splitlinesFrom [] rest
    else splitlinesFrom (line ++ [c]) rest

/-- `text.splitlines()`. -/
def splitlines (text : String) : List String :=
  (splitlinesFrom [] text.toList).map String.ofList

/-- Text without a line boundary. -/
def OneLine (text : String) : Prop := ∀ c ∈ text.toList, isLineBreak c = false

instance (text : String) : Decidable (OneLine text) := List.decidableBAll _ _

/-- **No line holds a line boundary.** -/
theorem splitlinesFrom_oneLine {line cs l : List Char} (hline : ∀ c ∈ line, isLineBreak c = false)
    (hl : l ∈ splitlinesFrom line cs) : ∀ c ∈ l, isLineBreak c = false := by
  fun_induction splitlinesFrom line cs with
  | case1 line hempty => cases hl
  | case2 line hne =>
    rw [List.mem_singleton.mp hl]
    exact hline
  | case3 line rest ih =>
    cases List.mem_cons.mp hl with
    | inl heq => exact heq ▸ hline
    | inr hrest => exact ih (fun c hc => by cases hc) hrest
  | case4 line c rest _ hbreak ih =>
    cases List.mem_cons.mp hl with
    | inl heq => exact heq ▸ hline
    | inr hrest => exact ih (fun c hc => by cases hc) hrest
  | case5 line c rest _ hbreak ih =>
    refine ih (fun d hd => ?_) hl
    cases List.mem_append.mp hd with
    | inl hmem => exact hline d hmem
    | inr hmem =>
      rw [List.mem_singleton.mp hmem]
      simpa using hbreak

theorem splitlines_oneLine {text line : String} (h : line ∈ splitlines text) : OneLine line := by
  obtain ⟨cs, hcs, rfl⟩ := List.mem_map.mp h
  intro c hc
  rw [String.toList_ofList] at hc
  exact splitlinesFrom_oneLine (fun c hc => by cases hc) hcs c hc

theorem splitlinesFrom_line {cs : List Char} (h : ∀ c ∈ cs, isLineBreak c = false)
    (line rest : List Char) :
    splitlinesFrom line (cs ++ '\n' :: rest) = (line ++ cs) :: splitlinesFrom [] rest := by
  induction cs generalizing line with
  | nil =>
    rw [List.nil_append, List.append_nil, splitlinesFrom]
    · rw [if_pos (by decide)]
    · intro rest' hc
      exact absurd hc (by decide)
  | cons c cs ih =>
    have hc := h c List.mem_cons_self
    rw [List.cons_append, splitlinesFrom]
    · rw [if_neg (by simp [hc]), ih fun d hd => h d (List.mem_cons_of_mem _ hd)]
      simp
    · rintro rest' rfl
      exact absurd hc (by decide)

/-- **The lines of a text that joins lines are these lines.** -/
theorem splitlines_join {texts : List String} (h : ∀ t ∈ texts, OneLine t) :
    splitlines (String.join (texts.map fun t => t ++ "\n")) = texts := by
  unfold splitlines
  induction texts with
  | nil => rfl
  | cons t rest ih =>
    have hline : (String.join ((t :: rest).map fun t => t ++ "\n")).toList =
        t.toList ++ '\n' :: (String.join (rest.map fun t => t ++ "\n")).toList := by
      simp [String.toList_append]
    rw [hline, splitlinesFrom_line (h t List.mem_cons_self), List.map_cons,
      ih fun u hu => h u (List.mem_cons_of_mem _ hu)]
    simp

theorem intercalate_newline {texts : List String} (hne : texts ≠ []) :
    "\n".intercalate texts ++ "\n" = String.join (texts.map fun t => t ++ "\n") := by
  induction texts with
  | nil => exact absurd rfl hne
  | cons t rest ih =>
    cases rest with
    | nil => simp
    | cons u rest =>
      rw [String.intercalate_cons_cons, List.map_cons, String.join_cons, ← ih (List.cons_ne_nil _ _)]
      simp only [String.append_assoc]

/-- What `partition` finds before and after the first separator. -/
theorem partition_append {sep : Char} {before : String} (h : sep ∉ before.toList) (after : String) :
    partition sep (before ++ String.singleton sep ++ after) = (before, true, after) := by
  have hne : ∀ c ∈ before.toList, (c != sep) = true := by
    intro c hc
    exact bne_iff_ne.mpr fun heq => h (heq ▸ hc)
  unfold partition
  have htext : (before ++ String.singleton sep ++ after).toList =
      before.toList ++ sep :: after.toList := by simp
  rw [htext, List.takeWhile_append_of_pos hne, List.dropWhile_append_of_pos hne]
  simp

end Greffer

import Mathlib.Data.List.Forall2
import Greffer.Python.Value

/-! # Texts and dictionaries

The built-in operations on texts and on dictionaries with text keys that the
greffer's code rests on, each as its documentation describes it.  A dictionary is
the list of its entries in insertion order.
-/
namespace Greffer

/-! ## Texts -/

/-- A text that is there and not empty. -/
def nonEmpty (v : Option String) : Option String := v.filter fun s => s != ""

theorem nonEmpty_eq {v : Option String} {text : String} (h : nonEmpty v = some text) :
    v = some text := by
  obtain ⟨hv, -⟩ := Option.filter_eq_some_iff.mp h
  exact hv

/-- `text.split(sep)`, for a separator of one character. -/
def splitOn (sep : Char) : List Char → List (List Char)
  | [] => [[]]
  | c :: rest =>
    if c = sep then [] :: splitOn sep rest
    else match splitOn sep rest with
      | [] => [[c]]
      | part :: parts => (c :: part) :: parts

theorem splitOn_eq (sep : Char) (l : List Char) : splitOn sep l = l.splitOn sep := by
  induction l with
  | nil => rw [splitOn, List.splitOn_nil]
  | cons c rest ih =>
    rw [splitOn, List.splitOn_cons_eq_if_modifyHead, ih]
    by_cases hc : c = sep
    · rw [if_pos hc, if_pos (beq_iff_eq.mpr hc)]
    · rw [if_neg hc, if_neg (mt beq_iff_eq.mp hc)]
      cases hrest : rest.splitOn sep with
      | nil => exact absurd hrest (List.splitOn_ne_nil sep rest)
      | cons part parts => rw [List.modifyHead_cons]

theorem splitOn_of_not_mem {sep : Char} {l : List Char} (h : sep ∉ l) : splitOn sep l = [l] := by
  rw [splitOn_eq, List.splitOn_eq_singleton h]

theorem splitOn_append {sep : Char} {a : List Char} (h : sep ∉ a) (b : List Char) :
    splitOn sep (a ++ sep :: b) = a :: splitOn sep b := by
  rw [splitOn_eq, splitOn_eq, List.splitOn_append_cons_self_of_not_mem h]

theorem not_mem_of_mem_splitOn {sep : Char} {l part : List Char} (h : part ∈ splitOn sep l) :
    sep ∉ part := by
  induction l generalizing part with
  | nil =>
    rw [List.mem_singleton.mp h]
    exact List.not_mem_nil
  | cons c rest ih =>
    rw [splitOn] at h
    split at h
    · rcases List.mem_cons.mp h with rfl | h
      · exact List.not_mem_nil
      · exact ih h
    · rename_i hc
      split at h
      · rw [List.mem_singleton.mp h, List.mem_singleton]
        exact Ne.symm hc
      · rename_i first parts hsplit
        rw [hsplit] at ih
        rcases List.mem_cons.mp h with rfl | h
        · rw [List.mem_cons, not_or]
          exact ⟨Ne.symm hc, ih List.mem_cons_self⟩
        · exact ih (List.mem_cons_of_mem _ h)

theorem splitOn_ne_nil (sep : Char) (l : List Char) : splitOn sep l ≠ [] := by
  rw [splitOn_eq]
  exact List.splitOn_ne_nil sep l

/-- The parts around a separator are those before it and those after it. -/
theorem splitOn_append_sep {sep : Char} (a b : List Char) :
    splitOn sep (a ++ sep :: b) = splitOn sep a ++ splitOn sep b := by
  rw [splitOn_eq, splitOn_eq, splitOn_eq, List.splitOn_append_cons_self]

/-- `text.partition(sep)`, for a separator of one character: what is before the first
one, whether there is one, and what is after it. -/
def partition (sep : Char) (text : String) : String × Bool × String :=
  let before := text.toList.takeWhile (· != sep)
  match text.toList.dropWhile (· != sep) with
  | [] => (String.ofList before, false, "")
  | _ :: after => (String.ofList before, true, String.ofList after)

/-- `text.strip()`. -/
def strip (text : String) : String := String.ofList (PyValue.strip text.toList)

/-- The non-blank lines of an output, stripped. -/
def lines (out : String) : List String :=
  ((splitOn '\n' out.toList).map fun l => String.ofList (PyValue.strip l)).filter (· != "")

/-! ## Dictionaries -/

/-- `d[key] = value`. -/
def upsert {β : Type} (d : List (String × β)) (key : String) (value : β) : List (String × β) :=
  if d.any fun e => e.1 == key then d.map fun e => if e.1 == key then (key, value) else e
  else d ++ [(key, value)]

theorem lookup_upsert_self {β : Type} (d : List (String × β)) (key : String) (value : β) :
    (upsert d key value).lookup key = some value := by
  unfold upsert
  split
  · rename_i hd
    induction d with
    | nil => simp at hd
    | cons e rest ih =>
      obtain ⟨k, b⟩ := e
      by_cases hk : k = key
      · simp [hk]
      · have hne : (key == k) = false := beq_eq_false_iff_ne.mpr (Ne.symm hk)
        simp only [List.any_cons, beq_eq_false_iff_ne.mpr hk, Bool.false_or] at hd
        simpa [hk, List.lookup_cons, hne] using ih hd
  · rename_i hd
    have hnone : d.lookup key = none := by
      rw [List.lookup_eq_none_iff]
      intro e he
      by_cases hk : e.1 = key
      · exact absurd (List.any_eq_true.mpr ⟨e, he, by simp [hk]⟩) hd
      · exact bne_iff_ne.mpr fun h => hk h.symm
    rw [List.lookup_append, hnone]
    simp

theorem lookup_upsert_ne {β : Type} (d : List (String × β)) {key key' : String} (value : β)
    (h : key' ≠ key) : (upsert d key value).lookup key' = d.lookup key' := by
  have hne : (key' == key) = false := beq_eq_false_iff_ne.mpr h
  unfold upsert
  split
  · clear ‹_ = true›
    induction d with
    | nil => rfl
    | cons e rest ih =>
      obtain ⟨k, b⟩ := e
      by_cases hk : k = key
      · subst hk
        simpa [List.lookup_cons, hne] using ih
      · simp only [List.map_cons, beq_eq_false_iff_ne.mpr hk, Bool.false_eq_true, if_false,
          List.lookup_cons, ih]
  · rw [List.lookup_append]
    simp [List.lookup_cons, hne]

theorem mem_upsert {β : Type} {d : List (String × β)} {key : String} {value : β}
    {e : String × β} (h : e ∈ upsert d key value) : e = (key, value) ∨ e ∈ d := by
  unfold upsert at h
  split at h
  · obtain ⟨e', he', rfl⟩ := List.mem_map.mp h
    split
    · exact .inl rfl
    · exact .inr he'
  · rcases List.mem_append.mp h with h | h
    · exact .inr h
    · exact .inl (List.mem_singleton.mp h)

theorem upsert_of_not_mem {β : Type} {d : List (String × β)} {key : String} (value : β)
    (h : key ∉ d.map Prod.fst) : upsert d key value = d ++ [(key, value)] := by
  refine if_neg fun hany => h ?_
  obtain ⟨e, he, hk⟩ := List.any_eq_true.mp hany
  exact List.mem_map.mpr ⟨e, he, eq_of_beq hk⟩

theorem keys_upsert_of_mem {β : Type} {d : List (String × β)} {key : String} (value : β)
    (h : key ∈ d.map Prod.fst) : (upsert d key value).map Prod.fst = d.map Prod.fst := by
  obtain ⟨e, he, hk⟩ := List.mem_map.mp h
  have hany : (d.any fun e => e.1 == key) = true :=
    List.any_eq_true.mpr ⟨e, he, beq_iff_eq.mpr hk⟩
  rw [upsert, if_pos hany, List.map_map]
  refine List.map_congr_left fun e' _ => ?_
  simp only [Function.comp_apply]
  split
  · rename_i hkey
    exact (eq_of_beq hkey).symm
  · rfl

theorem mem_keys_upsert {β : Type} {d : List (String × β)} {key name : String} {value : β} :
    name ∈ (upsert d key value).map Prod.fst ↔ name = key ∨ name ∈ d.map Prod.fst := by
  by_cases h : key ∈ d.map Prod.fst
  · rw [keys_upsert_of_mem value h]
    exact ⟨.inr, fun hor => hor.elim (fun heq => heq ▸ h) id⟩
  · rw [upsert_of_not_mem value h, List.map_append, List.mem_append, List.map_singleton,
      List.mem_singleton, or_comm]

theorem nodup_upsert {β : Type} {d : List (String × β)} {key : String} (value : β)
    (h : (d.map Prod.fst).Nodup) : ((upsert d key value).map Prod.fst).Nodup := by
  by_cases hkey : key ∈ d.map Prod.fst
  · rw [keys_upsert_of_mem value hkey]
    exact h
  · rw [upsert_of_not_mem value hkey, List.map_append, List.map_singleton]
    refine List.nodup_append.mpr ⟨h, List.pairwise_singleton _ _, fun a ha b hb => ?_⟩
    rw [List.mem_singleton.mp hb]
    rintro rfl
    exact hkey ha

theorem lookup_of_notMem {β : Type} {d : List (String × β)} {k : String}
    (h : k ∉ d.map Prod.fst) : d.lookup k = none := by
  rw [List.lookup_eq_none_iff]
  intro e he
  exact bne_iff_ne.mpr fun heq => h (List.mem_map.mpr ⟨e, he, heq.symm⟩)

theorem lookup_ne_none {β : Type} {d : List (String × β)} {k : String}
    (h : k ∈ d.map Prod.fst) : d.lookup k ≠ none := by
  intro hnone
  obtain ⟨e, he, rfl⟩ := List.mem_map.mp h
  have hne := List.lookup_eq_none_iff.mp hnone e he
  simp at hne

theorem lookup_entry {β : Type} {d : List (String × β)} (hd : (d.map Prod.fst).Nodup)
    {e : String × β} (he : e ∈ d) : d.lookup e.1 = some e.2 := by
  induction d with
  | nil => cases he
  | cons e' rest ih =>
    obtain ⟨hnot, hrest⟩ := List.nodup_cons.mp hd
    obtain ⟨name, value⟩ := e'
    cases List.mem_cons.mp he with
    | inl heq =>
      subst heq
      simp
    | inr hmem =>
      have hne : e.1 ≠ name := fun heq => hnot (List.mem_map.mpr ⟨e, hmem, heq⟩)
      rw [List.lookup_cons, beq_eq_false_iff_ne.mpr hne]
      exact ih hrest hmem

theorem mem_of_lookup {α β : Type} [BEq α] [LawfulBEq α] {d : List (α × β)} {key : α} {value : β}
    (h : d.lookup key = some value) : (key, value) ∈ d := by
  obtain ⟨before, after, heq, -⟩ := List.lookup_eq_some_iff.mp h
  rw [heq]
  exact List.mem_append_right _ List.mem_cons_self

theorem lookup_perm {β : Type} {d d' : List (String × β)} (h : d.Perm d')
    (hd : (d.map Prod.fst).Nodup) (key : String) : d.lookup key = d'.lookup key := by
  have hkeys : (d.map Prod.fst).Perm (d'.map Prod.fst) := h.map _
  by_cases hkey : key ∈ d.map Prod.fst
  · obtain ⟨e, he, rfl⟩ := List.mem_map.mp hkey
    rw [lookup_entry hd he, lookup_entry (hkeys.nodup_iff.mp hd) (h.mem_iff.mp he)]
  · rw [lookup_of_notMem hkey, lookup_of_notMem fun hmem => hkey (hkeys.mem_iff.mpr hmem)]

theorem lookup_map_values {β γ : Type} (d : List (String × β)) (f : β → γ) (key : String) :
    (d.map fun e => (e.1, f e.2)).lookup key = (d.lookup key).map f := by
  induction d with
  | nil => rfl
  | cons e rest ih =>
    obtain ⟨k, b⟩ := e
    rw [List.map_cons, List.lookup_cons, List.lookup_cons, ih]
    cases key == k <;> rfl

theorem lookup_filter_keys {β : Type} (d : List (String × β)) (keep : String → Bool)
    (key : String) :
    (d.filter fun e => keep e.1).lookup key = if keep key then d.lookup key else none := by
  induction d with
  | nil => simp
  | cons e rest ih =>
    obtain ⟨k, b⟩ := e
    rw [List.filter_cons]
    by_cases hk : key = k
    · subst hk
      by_cases hkeep : keep key = true
      · simp [hkeep]
      · simp [hkeep, ih]
    · have hne : (key == k) = false := beq_eq_false_iff_ne.mpr hk
      split
      · simp only [List.lookup_cons, hne, ih]
      · simp only [List.lookup_cons, hne, ih]

/-! ## Lists, element by element -/

/-- An element of the second list of a pointwise relation has one of the first. -/
theorem exists_left_of_forall₂ {α β : Type} {R : α → β → Prop} {as : List α} {bs : List β}
    (h : List.Forall₂ R as bs) {b : β} (hb : b ∈ bs) : ∃ a ∈ as, R a b := by
  induction h with
  | nil => cases hb
  | cons hr _ ih =>
    rcases List.mem_cons.mp hb with rfl | hb
    · exact ⟨_, List.mem_cons_self, hr⟩
    · obtain ⟨a, ha, hab⟩ := ih hb
      exact ⟨a, List.mem_cons_of_mem _ ha, hab⟩

/-- An element of the first list of a pointwise relation has one of the second. -/
theorem exists_right_of_forall₂ {α β : Type} {R : α → β → Prop} {as : List α} {bs : List β}
    (h : List.Forall₂ R as bs) {a : α} (ha : a ∈ as) : ∃ b ∈ bs, R a b :=
  exists_left_of_forall₂ h.flip ha

end Greffer

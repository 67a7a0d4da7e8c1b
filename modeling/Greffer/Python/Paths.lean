import Mathlib.Data.List.Basic
import Mathlib.Data.List.Infix
import Mathlib.Logic.Function.Iterate
import Greffer.Python.Builtins

/-! # Paths, lexically

`os.path.join` and `os.path.normpath`, and when a path lies inside a directory once both are
normalized.  A normalized path is kept as its parts, **the innermost first**, so that going
up is dropping the head and a directory is a suffix of what lies in it.

What a relative path does to a directory is decided by two things that do not depend on the
directory: how far it climbs, and the names it goes down afterwards (`walk_relative`).  So
**a joined path lies in its directory exactly if it comes back by the names it climbed out
of** (`inside_join_iff`).
-/
namespace Greffer.Paths

/-- What stands between two slashes. -/
abbrev Part := List Char

/-- `..`. -/
def up : Part := ['.', '.']

/-- The parts of a path. -/
def parts (path : String) : List Part := splitOn '/' path.toList

/-- `os.path.isabs`. -/
def isAbsolute (path : String) : Bool := path.toList.head? == some '/'

/-- `os.path.join`. -/
def join (base name : String) : String :=
  if isAbsolute name then name
  else if base = "" then name
  else if base.toList.getLast? = some '/' then base ++ name
  else base ++ "/" ++ name

/-- One part of `os.path.normpath`. -/
def push (absolute : Bool) (stack : List Part) (part : Part) : List Part :=
  if part = [] ∨ part = ['.'] then stack
  else if part = up then
    match stack with
    | [] => if absolute then [] else [up]
    | top :: rest => if top = up then up :: top :: rest else rest
  else part :: stack

/-- The loop of `os.path.normpath`. -/
def walk (absolute : Bool) (stack : List Part) (ps : List Part) : List Part :=
  ps.foldl (push absolute) stack

/-- `os.path.normpath`: whether the path is absolute, and its parts. -/
def normal (path : String) : Bool × List Part :=
  (isAbsolute path, walk (isAbsolute path) [] (parts path))

/-- The path lies in the directory, or is the directory. -/
def Inside (dir path : String) : Prop :=
  (normal path).1 = (normal dir).1 ∧ (normal dir).2 <:+ (normal path).2

instance (dir path : String) : Decidable (Inside dir path) := by
  unfold Inside
  infer_instance

/-- A name that is one component of a path. -/
def isComponent (name : String) : Bool :=
  name != "" && name != "." && name != ".." && !name.toList.contains '/'

section
variable {absolute : Bool} {stack : List Part}

/-! ## Joining -/

theorem walk_append (ps qs : List Part) :
    walk absolute stack (ps ++ qs) = walk absolute (walk absolute stack ps) qs :=
  List.foldl_append

@[simp] theorem push_nil : push absolute stack [] = stack := if_pos (.inl rfl)

theorem push_plain {part : Part} (hempty : part ≠ []) (hdot : part ≠ ['.']) (hup : part ≠ up) :
    push absolute stack part = part :: stack := by
  unfold push
  rw [if_neg (by simp [hempty, hdot]), if_neg hup]

theorem isAbsolute_append {base : String} (h : base ≠ "") (name : String) :
    isAbsolute (base ++ name) = isAbsolute base := by
  have hne : base.toList ≠ [] := fun hnil => h (String.toList_injective hnil)
  rw [isAbsolute, isAbsolute, String.toList_append, List.head?_append_of_ne_nil _ hne]

/-- **A joined path goes on from its base**, unless the name is absolute. -/
theorem normal_join {base name : String} (h : isAbsolute name = false) :
    normal (join base name) = ((normal base).1, walk (normal base).1 (normal base).2 (parts name)) := by
  rw [join, if_neg (by simp [h])]
  by_cases hempty : base = ""
  · subst hempty
    rw [if_pos rfl, normal, h]
    rfl
  · rw [if_neg hempty]
    by_cases hslash : base.toList.getLast? = some '/'
    · rw [if_pos hslash, normal, isAbsolute_append hempty]
      obtain ⟨front, hfront⟩ := List.getLast?_eq_some_iff.mp hslash
      have hbase : parts base = splitOn '/' front ++ [[]] := by
        rw [parts, hfront, splitOn_append_sep]
        rfl
      have hjoined : parts (base ++ name) = splitOn '/' front ++ parts name := by
        rw [parts, String.toList_append, hfront, List.append_assoc, List.singleton_append,
          splitOn_append_sep]
        rfl
      rw [normal, hbase, hjoined, walk_append, walk_append]
      simp [walk]
    · rw [if_neg hslash, normal, String.append_assoc, isAbsolute_append hempty]
      have hjoined : parts (base ++ ("/" ++ name)) = parts base ++ parts name := by
        rw [parts, String.toList_append, String.toList_append, show "/".toList = ['/'] from rfl,
          List.singleton_append, splitOn_append_sep]
        rfl
      rw [hjoined, walk_append]
      rfl

theorem isAbsolute_of_isComponent {name : String} (h : isComponent name = true) :
    isAbsolute name = false := by
  simp only [isComponent, Bool.and_eq_true, Bool.not_eq_true'] at h
  rw [isAbsolute, beq_eq_false_iff_ne]
  intro hhead
  have hmem := List.mem_of_head? hhead
  rw [← List.contains_iff_mem, h.2] at hmem
  cases hmem

theorem push_component {name : String} (h : isComponent name = true) :
    walk absolute stack (parts name) = name.toList :: stack := by
  simp only [isComponent, Bool.and_eq_true, bne_iff_ne, Bool.not_eq_true'] at h
  obtain ⟨⟨⟨hempty, hdot⟩, hup⟩, hslash⟩ := h
  have hmem : '/' ∉ name.toList := by
    rw [← List.contains_iff_mem, hslash]
    exact Bool.false_ne_true
  have hne : ∀ text : String, name ≠ text → name.toList ≠ text.toList :=
    fun text hne heq => hne (String.toList_injective heq)
  rw [parts, splitOn_of_not_mem hmem]
  exact push_plain (hne _ hempty) (hne _ hdot) (hne _ hup)

/-- **A component lies right below its directory.** -/
theorem normal_join_component {base name : String} (h : isComponent name = true) :
    normal (join base name) = ((normal base).1, name.toList :: (normal base).2) := by
  rw [normal_join (isAbsolute_of_isComponent h), push_component h]

theorem Inside.refl (dir : String) : Inside dir dir := ⟨rfl, List.suffix_refl _⟩

/-- So what lies in a directory does so with another component. -/
theorem Inside.join_component {dir path name : String} (h : Inside dir path)
    (hname : isComponent name = true) : Inside dir (join path name) := by
  rw [Inside, normal_join_component hname]
  exact ⟨h.1, h.2.trans (List.suffix_cons _ _)⟩

/-! ## What a relative path does -/

/-- Going up a number of times. -/
def climb (absolute : Bool) (n : Nat) (stack : List Part) : List Part :=
  (fun s => push absolute s up)^[n] stack

/-- How far a relative path climbs. -/
def climbs (name : String) : Nat := (walk false [] (parts name)).count up

/-- The names that it goes down to, after it has climbed. -/
def names (name : String) : List Part := (walk false [] (parts name)).filter (· ≠ up)

theorem push_up_names {absolute : Bool} {stack : List Part} {top : Part} (htop : top ≠ up) :
    push absolute (top :: stack) up = stack := by
  rw [push, if_neg (by decide), if_pos rfl]
  simp only [if_neg htop]

theorem climb_succ (n : Nat) :
    climb absolute (n + 1) stack = push absolute (climb absolute n stack) up :=
  Function.iterate_succ_apply' _ _ _

/-- From the empty path, going up leaves the steps up, or nothing of an absolute path. -/
theorem climb_nil (n : Nat) :
    climb absolute n [] = if absolute then [] else List.replicate n up := by
  induction n with
  | zero => cases absolute <;> rfl
  | succ n ih =>
    rw [climb_succ, ih]
    cases absolute with
    | true => rfl
    | false => cases n <;> rfl

/-- **A relative path is a climb and a descent**, wherever it starts. -/
theorem walk_split (ps : List Part) : ∃ (n : Nat) (down : List Part), up ∉ down ∧
    ∀ absolute stack, walk absolute stack ps = down ++ climb absolute n stack := by
  induction ps using List.reverseRecOn with
  | nil => exact ⟨0, [], List.not_mem_nil, fun _ _ => rfl⟩
  | append_singleton ps part ih =>
    obtain ⟨n, down, hdown, hwalk⟩ := ih
    by_cases hskip : part = [] ∨ part = ['.']
    · refine ⟨n, down, hdown, fun absolute stack => ?_⟩
      rw [walk_append, hwalk]
      exact if_pos hskip
    by_cases hup : part = up
    · subst hup
      cases down with
      | nil =>
        refine ⟨n + 1, [], hdown, fun absolute stack => ?_⟩
        rw [walk_append, hwalk, climb_succ]
        rfl
      | cons top rest =>
        have hrest := List.not_mem_of_not_mem_cons hdown
        refine ⟨n, rest, hrest, fun absolute stack => ?_⟩
        rw [walk_append, hwalk, List.cons_append]
        have hpop : push absolute (top :: (rest ++ climb absolute n stack)) up =
            rest ++ climb absolute n stack :=
          push_up_names (Ne.symm (List.ne_of_not_mem_cons hdown))
        exact hpop
    · refine ⟨n, part :: down, ?_, fun absolute stack => ?_⟩
      · rw [List.mem_cons, not_or]
        exact ⟨Ne.symm hup, hdown⟩
      · rw [walk_append, hwalk]
        rw [not_or] at hskip
        exact push_plain hskip.1 hskip.2 hup

theorem walk_relative (name : String) : up ∉ names name ∧
    ∀ absolute stack, walk absolute stack (parts name) =
      names name ++ climb absolute (climbs name) stack := by
  obtain ⟨n, down, hdown, hwalk⟩ := walk_split (parts name)
  have hfrom : walk false [] (parts name) = down ++ List.replicate n up := by
    rw [hwalk, climb_nil]
    rfl
  have hcount : climbs name = n := by
    rw [climbs, hfrom, List.count_append, List.count_eq_zero_of_not_mem hdown,
      List.count_replicate_self, Nat.zero_add]
  have hnames : names name = down := by
    rw [names, hfrom, List.filter_append, List.filter_replicate]
    have hkeep : down.filter (· ≠ up) = down := by
      rw [List.filter_eq_self]
      intro part hpart
      exact decide_eq_true fun heq => hdown (heq ▸ hpart)
    rw [hkeep]
    simp
  rw [hcount, hnames]
  exact ⟨hdown, hwalk⟩

theorem climb_add (m n : Nat) :
    climb absolute (m + n) stack = climb absolute m (climb absolute n stack) :=
  Function.iterate_add_apply _ _ _ _

theorem climb_names {down : List Part} (hdown : up ∉ down) {n : Nat} (hn : n ≤ down.length) :
    climb absolute n (down ++ stack) = down.drop n ++ stack := by
  induction down generalizing n with
  | nil =>
    rw [Nat.le_zero.mp hn]
    rfl
  | cons top rest ih =>
    cases n with
    | zero => rfl
    | succ n =>
      have htop : top ≠ up := Ne.symm (List.ne_of_not_mem_cons hdown)
      have hstep : climb absolute (n + 1) (top :: rest ++ stack) =
          climb absolute n (push absolute (top :: (rest ++ stack)) up) :=
        Function.iterate_succ_apply _ _ _
      rw [hstep, push_up_names htop, ih (List.not_mem_of_not_mem_cons hdown)
        (Nat.le_of_succ_le_succ hn)]
      rfl

/-- A list is a suffix of its own rest behind other elements, if what is missing is a suffix
of those. -/
theorem suffix_append_drop {α : Type} (l front : List α) (k : Nat) :
    l <:+ front ++ l.drop k ↔ l.take k <:+ front := by
  nth_rewrite 1 [← List.take_append_drop k l]
  exact List.suffix_append_self_iff

/-- The path comes back into the directory by the names that it climbed out of, and climbs
no further than the directory is known. -/
def Returns (dir name : String) : Prop :=
  ((normal dir).1 = true ∨ climbs name ≤ ((normal dir).2.filter (· ≠ up)).length) ∧
    (normal dir).2.take (climbs name) <:+ names name

instance (dir name : String) : Decidable (Returns dir name) := by
  unfold Returns
  infer_instance

/-- The parts of a normal path: names, and above them the steps up of a relative one. -/
theorem normal_split (dir : String) : ∃ (n : Nat) (down : List Part), up ∉ down ∧
    (normal dir).2 = down ++ if (normal dir).1 then [] else List.replicate n up := by
  obtain ⟨n, down, hdown, hwalk⟩ := walk_split (parts dir)
  refine ⟨n, down, hdown, ?_⟩
  rw [← climb_nil]
  exact hwalk _ _

/-- Climbing out of an absolute directory drops its names. -/
theorem climb_absolute {down : List Part} (hdown : up ∉ down) (n : Nat) :
    climb true n down = down.drop n := by
  by_cases hn : n ≤ down.length
  · have hdrop : climb true n (down ++ []) = down.drop n ++ [] := climb_names hdown hn
    rwa [List.append_nil, List.append_nil] at hdrop
  · have hlen : down.length ≤ n := by omega
    have hall : climb true down.length (down ++ []) = down.drop down.length ++ [] :=
      climb_names hdown (le_refl _)
    rw [List.append_nil, List.drop_length, List.append_nil] at hall
    rw [← Nat.sub_add_cancel hlen, climb_add, hall, climb_nil, if_pos rfl,
      Nat.sub_add_cancel hlen, List.drop_eq_nil_of_le hlen]

/-- A relative path that climbs above the names does not come back. -/
theorem not_suffix_above {down front : List Part} {k n : Nat} (hne : down ≠ [])
    (hdown : up ∉ down) (hn : down.length < n) :
    ¬ down ++ List.replicate k up <:+ front ++ climb false n (down ++ List.replicate k up) := by
  have hlen : down.length ≤ n := by omega
  have hall : climb false down.length (down ++ List.replicate k up) = List.replicate k up := by
    rw [climb_names hdown (le_refl _), List.drop_length, List.nil_append]
  have hclimb : climb false n (down ++ List.replicate k up) =
      List.replicate (n - down.length + k) up := by
    rw [← Nat.sub_add_cancel hlen, climb_add, hall, Nat.add_sub_cancel]
    have hk : List.replicate k up = climb false k [] := by
      rw [climb_nil]
      rfl
    rw [hk, ← climb_add, climb_nil]
    rfl
  rw [hclimb]
  intro hsuffix
  have hsteps : List.replicate (n - down.length + k) up <:+
      front ++ List.replicate (n - down.length + k) up := List.suffix_append _ _
  rcases List.suffix_or_suffix_of_suffix hsuffix hsteps with hin | hout
  · -- the names would be steps up
    obtain ⟨top, htop⟩ := List.exists_mem_of_ne_nil _ hne
    have hmem := hin.mem (List.mem_append_left _ htop)
    rw [List.eq_of_mem_replicate hmem] at htop
    exact hdown htop
  · have hcount := hout.sublist.count_le up
    rw [List.count_replicate_self, List.count_append, List.count_eq_zero_of_not_mem hdown,
      List.count_replicate_self] at hcount
    omega

/-- **A joined path lies in its directory exactly if it returns to it.** -/
theorem inside_join_iff {dir name : String} (hname : isAbsolute name = false) {top : Part}
    (htop : (normal dir).2.head? = some top) (hnames : top ≠ up) :
    Inside dir (join dir name) ↔ Returns dir name := by
  obtain ⟨hup, hwalk⟩ := walk_relative name
  obtain ⟨k, down, hdown, hdir⟩ := normal_split dir
  rw [Inside, normal_join hname, hwalk, Returns]
  simp only [true_and]
  cases habs : (normal dir).1 with
  | true =>
    rw [habs, if_pos rfl, List.append_nil] at hdir
    rw [hdir, climb_absolute hdown, suffix_append_drop]
    simp
  | false =>
    rw [habs, if_neg Bool.false_ne_true] at hdir
    have hne : down ≠ [] := by
      rintro rfl
      rw [hdir, List.nil_append] at htop
      exact hnames (List.eq_of_mem_replicate (List.mem_of_head? htop))
    have hknown : ((normal dir).2.filter (· ≠ up)).length = down.length := by
      rw [hdir, List.filter_append, List.filter_replicate]
      have hkeep : down.filter (· ≠ up) = down := by
        rw [List.filter_eq_self]
        intro part hpart
        exact decide_eq_true fun heq => hdown (heq ▸ hpart)
      rw [hkeep]
      simp
    rw [hknown]
    by_cases hclimbs : climbs name ≤ down.length
    · have hdrop : climb false (climbs name) (normal dir).2 =
          (normal dir).2.drop (climbs name) := by
        rw [hdir, climb_names hdown hclimbs, List.drop_append_of_le_length hclimbs]
      rw [hdrop, suffix_append_drop]
      simp [hclimbs]
    · have hnot : ¬ down ++ List.replicate k up <:+
          names name ++ climb false (climbs name) (down ++ List.replicate k up) :=
        not_suffix_above hne hdown (not_le.mp hclimbs)
      rw [hdir]
      simp [hnot, hclimbs]

end

end Greffer.Paths

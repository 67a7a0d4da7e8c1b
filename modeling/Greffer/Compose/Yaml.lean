import Mathlib.Data.List.Basic
import Mathlib.Data.Rat.Init
import Greffer.Python.Builtins

/-! # What safe YAML loads

A parsed compose is a tree of `dict`s and `list`s over scalars, the keys of a `dict`
being any hashable scalars.  This module has the tree and what the greffer's code asks
of it: truth values, type names, `str`, iteration, hashing, and the operations of a
`dict`.  A `dict` is the list of its entries in insertion order, its keys distinct
(`Yaml.WellFormed`).

An inline compose is refused if it has an alias, so it is such a tree.  A catalog compose
may have aliases: what an anchor names is then one object, in several places.  The tree is
what reading it sees; what changing it in place does besides is in `Compose.Sharing`.

Two operations on texts look at more than ASCII: `str.isdigit` accepts the digits of
every script and a few that are no decimals, and `int` accepts the decimals only.
-/
namespace Greffer.Compose

/-- A value that safe YAML loading constructs, as reading it sees it: what is one object in
several places is in each of them, and nothing contains itself. -/
inductive Yaml where
  | null
  | bool (b : Bool)
  | int (n : Int)
  /-- A finite float, with its `repr`. -/
  | float (q : Rat) (text : String)
  | str (s : String)
  | list (items : List Yaml)
  | dict (entries : List (Yaml × Yaml))
  /-- Any other object (a date, bytes, a set, a tuple, an infinity): its type's name, its
  `str`, its truth value, whether it can be hashed, and what iterating it gives. -/
  | other (type text : String) (truthy hashable : Bool) (items : Option (List Yaml))

/-- A `dict`: its entries in insertion order. -/
abbrev Dict (β : Type) := List (Yaml × β)

/-- The entries of a `dict` of the tree. -/
abbrev Entries := Dict Yaml

namespace Yaml

/-- `bool(v)`. -/
def truthy : Yaml → Bool
  | null => false
  | bool b => b
  | int n => n != 0
  | float q _ => q != 0
  | str s => s != ""
  | list items => !items.isEmpty
  | dict entries => !entries.isEmpty
  | other _ _ t _ _ => t

/-- The entries of a `dict`. -/
def entries : Yaml → Entries
  | dict entries => entries
  | _ => []

/-- `type(v).__name__`. -/
def typeName : Yaml → String
  | null => "NoneType"
  | bool _ => "bool"
  | int _ => "int"
  | float _ _ => "float"
  | str _ => "str"
  | list _ => "list"
  | dict _ => "dict"
  | other type _ _ _ _ => type

/-- Whether `hash(v)` succeeds. -/
def hashable : Yaml → Bool
  | list _ | dict _ => false
  | other _ _ _ h _ => h
  | _ => true

/-- The value of a number. -/
def number? : Yaml → Option Rat
  | bool b => some (if b then 1 else 0)
  | int n => some n
  | float q _ => some q
  | _ => none

/-- Whether two hashable values are the same key: numbers compare by value. -/
def sameKey (a b : Yaml) : Bool :=
  match a.number?, b.number? with
  | some x, some y => x == y
  | none, none =>
    match a, b with
    | null, null => true
    | str s, str t => s == t
    | other type text _ _ _, other type' text' _ _ _ => type == type' && text == text'
    | _, _ => false
  | _, _ => false

/-- A key is the same as a text only if it is that text. -/
@[simp] theorem sameKey_str (k : Yaml) (s : String) : k.sameKey (str s) = true ↔ k = str s := by
  cases k <;> simp [sameKey, number?]

theorem sameKey_of_str (k : Yaml) (s : String) (h : (str s).sameKey k = true) : k = str s := by
  cases k <;> simp_all [sameKey, number?]

instance (k : Yaml) (s : String) : Decidable (k = str s) :=
  decidable_of_iff _ (k.sameKey_str s)

theorem any_sameKey_str (keys : List Yaml) (s : String) :
    (keys.any fun k => k.sameKey (str s)) = true ↔ str s ∈ keys := by
  rw [List.any_eq_true]
  constructor
  · rintro ⟨k, hk, hs⟩
    rwa [← (sameKey_str k s).mp hs]
  · exact fun h => ⟨_, h, (sameKey_str _ _).mpr rfl⟩

instance (keys : List Yaml) (s : String) : Decidable (str s ∈ keys) :=
  decidable_of_iff _ (any_sameKey_str keys s)

/-- The most digits a conversion between an integer and a text may have. -/
def maxStrDigits : Nat := 4300

/-- `str(n)`. -/
def strOfInt (n : Int) : Except Exn String :=
  let text := toString n.natAbs
  if maxStrDigits < text.length then
    .error (.valueError "Exceeds the limit (4300 digits) for integer string conversion")
  else .ok (if n < 0 then "-" ++ text else text)

/-- The interpreter's limit on calls within calls.  Each level of a `repr` is one; the few that
the code is in by then count as well, and are left out here. -/
def recursionLimit : Nat := 1000

mutual
/-- What `repr(v)` raises, with so many levels left for it: an integer in it has too many digits,
or it is nested too deep. -/
def reprError : Yaml → Nat → Option Exn
  | _, 0 => some (.exception "RecursionError: maximum recursion depth exceeded")
  | int n, _ + 1 =>
    match strOfInt n with
    | .ok _ => none
    | .error e => some e
  | list items, room + 1 => reprErrorAll items room
  | dict entries, room + 1 => reprErrorEntries entries room
  | other _ _ _ _ (some items), room + 1 => reprErrorAll items room
  | _, _ + 1 => none

/-- `reprError`, of the first element that has one. -/
def reprErrorAll : List Yaml → Nat → Option Exn
  | [], _ => none
  | v :: vs, room => (v.reprError room).or (reprErrorAll vs room)

/-- `reprError`, of the first key or value of a `dict` that has one. -/
def reprErrorEntries : List (Yaml × Yaml) → Nat → Option Exn
  | [], _ => none
  | (k, v) :: es, room => (k.reprError room).or ((v.reprError room).or (reprErrorEntries es room))
end

/-- What `repr(v)` raises, if anything. -/
def reprFailure (v : Yaml) : Option Exn := v.reprError recursionLimit

/-- Whether `repr(v)` succeeds. -/
def printable (v : Yaml) : Bool := v.reprFailure.isNone

/-- A list in a list, so many times over: aliases write it in so many lines. -/
def nested : Nat → Yaml
  | 0 => null
  | n + 1 => list [nested n]

theorem reprError_nested (n room : Nat) : (nested n).reprError room = none ↔ n < room := by
  induction n generalizing room with
  | zero => cases room <;> simp [nested, reprError]
  | succ n ih =>
    cases room with
    | zero => simp [nested, reprError]
    | succ room => simp [nested, reprError, reprErrorAll, ih]

/-- **A `repr` has its limit in depth too.** -/
theorem printable_nested (n : Nat) : (nested n).printable = true ↔ n < recursionLimit := by
  rw [printable, Option.isNone_iff_eq_none, reprFailure, reprError_nested]

/-- `str(v)`, of a value that can be a key. -/
def text : Yaml → Except Exn String
  | null => .ok "None"
  | bool b => .ok (if b then "True" else "False")
  | int n => strOfInt n
  | float _ t => .ok t
  | str s => .ok s
  | other _ t _ _ _ => .ok t
  | list _ | dict _ => .error (.typeError "unhashable type")

/-- What `for x in v` gives. -/
def iterate : Yaml → Except Exn (List Yaml)
  | list items => .ok items
  | dict entries => .ok (entries.map Prod.fst)
  | str s => .ok (s.toList.map fun c => str (String.singleton c))
  | other _ _ _ _ (some items) => .ok items
  | _ => .error (.typeError "object is not iterable")

/-- The keys of a `dict` are distinct. -/
def Distinct {β : Type} (d : Dict β) : Prop := d.Pairwise fun a b => a.1.sameKey b.1 = false

mutual
/-- Every `dict` of the tree has distinct keys. -/
def WellFormed : Yaml → Prop
  | list items => WellFormedAll items
  | dict entries => Distinct entries ∧ WellFormedValues entries
  | _ => True

/-- `WellFormed`, of every element. -/
def WellFormedAll : List Yaml → Prop
  | [] => True
  | v :: vs => v.WellFormed ∧ WellFormedAll vs

/-- `WellFormed`, of every value of a `dict`. -/
def WellFormedValues : List (Yaml × Yaml) → Prop
  | [] => True
  | (_, v) :: es => v.WellFormed ∧ WellFormedValues es
end

theorem WellFormedValues.value {d : Entries} (h : WellFormedValues d) {e : Yaml × Yaml}
    (he : e ∈ d) : e.2.WellFormed := by
  induction d with
  | nil => cases he
  | cons x rest ih =>
    obtain ⟨k, v⟩ := x
    rw [WellFormedValues] at h
    rcases List.mem_cons.mp he with rfl | he
    · exact h.1
    · exact ih h.2 he

end Yaml

/-! ## Dictionaries -/

namespace Dict
variable {β : Type} (d : Dict β)

/-- `d.get(key)`, for a text. -/
def get? (key : String) : Option β := (d.find? fun e => e.1.sameKey (.str key)).map Prod.snd

/-- `key in d`. -/
def has (key : Yaml) : Bool := d.any fun e => e.1.sameKey key

/-- `d[key] = value`. -/
def set (key : Yaml) (value : β) : Dict β :=
  if has d key then d.map fun e => if e.1.sameKey key then (e.1, value) else e
  else d ++ [(key, value)]

/-- `del d[key]`, of a key that may not be there. -/
def del (key : String) : Dict β := d.filter fun e => !e.1.sameKey (.str key)

variable {d} {key key' : String} {value : β}

@[simp] theorem get?_nil : get? ([] : Dict β) key = none := rfl

theorem get?_cons (e : Yaml × β) :
    get? (e :: d) key = if e.1 = .str key then some e.2 else get? d key := by
  unfold get?
  by_cases h : e.1 = .str key
  · have hk : e.1.sameKey (.str key) = true := (Yaml.sameKey_str _ _).mpr h
    simp only [List.find?_cons, hk, if_pos h, Option.map_some]
  · have hk : e.1.sameKey (.str key) = false :=
      Bool.eq_false_iff.mpr fun hk => h ((Yaml.sameKey_str _ _).mp hk)
    simp only [List.find?_cons, hk, if_neg h]

theorem has_str_iff : has d (.str key) = true ↔ ∃ v, (Yaml.str key, v) ∈ d := by
  rw [has, List.any_eq_true]
  constructor
  · rintro ⟨⟨k, v⟩, he, hk⟩
    obtain rfl := (Yaml.sameKey_str _ _).mp hk
    exact ⟨v, he⟩
  · rintro ⟨v, he⟩
    exact ⟨_, he, (Yaml.sameKey_str _ _).mpr rfl⟩

theorem get?_eq_none_iff : get? d key = none ↔ has d (.str key) = false := by
  rw [get?, Option.map_eq_none_iff, List.find?_eq_none, has, List.any_eq_false]

theorem mem_of_get? (h : get? d key = some value) : (Yaml.str key, value) ∈ d := by
  induction d with
  | nil => cases h
  | cons e rest ih =>
    rw [get?_cons] at h
    split at h
    · rename_i hk
      cases h
      exact List.mem_cons.mpr (.inl (Prod.ext hk.symm rfl))
    · exact List.mem_cons_of_mem _ (ih h)

theorem get?_append (d' : Dict β) : get? (d ++ d') key = (get? d key).or (get? d' key) := by
  rw [get?, List.find?_append]
  cases h : d.find? fun e => e.1.sameKey (.str key) <;> simp [get?, h]

@[simp] theorem get?_set_self : get? (set d (.str key) value) key = some value := by
  unfold set
  split
  · rename_i h
    induction d with
    | nil => cases h
    | cons e rest ih =>
      by_cases hk : e.1 = .str key
      · rw [List.map_cons, get?_cons, if_pos ((Yaml.sameKey_str _ _).mpr hk), if_pos hk]
      · have hne : ¬ e.1.sameKey (.str key) = true := fun h => hk ((Yaml.sameKey_str _ _).mp h)
        rw [List.map_cons, get?_cons, if_neg hne, if_neg hk]
        refine ih ?_
        rw [has, List.any_cons, Bool.or_eq_true] at h
        exact h.resolve_left hne
  · rename_i h
    rw [get?_append, get?_eq_none_iff.mpr (Bool.eq_false_iff.mpr h), Option.none_or, get?_cons,
      if_pos rfl]

theorem has_set : has (set d (.str key) value) (.str key) = true := by
  rw [← Bool.not_eq_false, ← get?_eq_none_iff, get?_set_self]
  exact Option.some_ne_none _

/-- **A frame**: what is set at one key is not seen at another. -/
theorem get?_set_ne {k : Yaml} (hne : k ≠ .str key') : get? (set d k value) key' = get? d key' := by
  unfold set
  split
  · clear * - hne
    induction d with
    | nil => rfl
    | cons e rest ih =>
      rw [List.map_cons, get?_cons, get?_cons, ih]
      split
      · rename_i hk
        have hother : e.1 ≠ .str key' := by
          intro he
          rw [he] at hk
          exact hne (Yaml.sameKey_of_str _ _ hk)
        rw [if_neg hother, if_neg hother]
      · rfl
  · rw [get?_append, get?_cons, if_neg hne, get?_nil, Option.or_none]

theorem get?_del_ne (hne : key' ≠ key) : get? (del d key) key' = get? d key' := by
  unfold del
  induction d with
  | nil => rfl
  | cons e rest ih =>
    rw [List.filter_cons, get?_cons]
    split
    · rw [get?_cons, ih]
    · rename_i hk
      have hk : e.1 = .str key := by
        simpa using hk
      have hne' : e.1 ≠ .str key' := by
        rw [hk]
        exact fun h => hne (Yaml.str.inj h).symm
      rw [ih, if_neg hne']

theorem get?_isSome_set {k : Yaml} (h : (get? d key).isSome) : (get? (set d k value) key).isSome := by
  by_cases hk : k = .str key
  · rw [hk, get?_set_self]
    rfl
  · rwa [get?_set_ne hk]

/-- An entry of a `dict` past a setting is the new one, at the old key if there was one, or
was there before. -/
theorem mem_set {k : Yaml} {e : Yaml × β} (h : e ∈ set d k value) :
    e ∈ d ∨ e.2 = value ∧ (e.1 = k ∨ e.1.sameKey k = true) := by
  unfold set at h
  split at h
  · obtain ⟨e', he', rfl⟩ := List.mem_map.mp h
    split
    · rename_i hk
      exact .inr ⟨rfl, .inr hk⟩
    · exact .inl he'
  · rcases List.mem_append.mp h with h | h
    · exact .inl h
    · rw [List.mem_singleton.mp h]
      exact .inr ⟨rfl, .inl rfl⟩

end Dict

namespace Yaml.Distinct
variable {β : Type} {d : Dict β} {key : String} {value : β}

/-- **Setting a key keeps the keys distinct.** -/
theorem set (h : Distinct d) (k : Yaml) (value : β) : Distinct (Dict.set d k value) := by
  unfold Dict.set
  split
  · rw [Distinct, List.pairwise_map]
    refine h.imp fun {a b} hab => ?_
    split <;> split <;> exact hab
  · rename_i hfresh
    rw [Distinct, List.pairwise_append]
    refine ⟨h, List.pairwise_singleton _ _, fun a ha b hb => ?_⟩
    obtain rfl := List.mem_singleton.mp hb
    exact Bool.eq_false_iff.mpr fun hk => hfresh (List.any_eq_true.mpr ⟨a, ha, hk⟩)

/-- Where a text key stands, and what setting it does there. -/
theorem exists_split (h : Distinct d) (hget : Dict.get? d key = some value) :
    ∃ pre post, d = pre ++ (.str key, value) :: post ∧
      ∀ value', Dict.set d (.str key) value' = pre ++ (.str key, value') :: post := by
  induction d with
  | nil => cases hget
  | cons e rest ih =>
    rw [Distinct, List.pairwise_cons] at h
    rw [Dict.get?_cons] at hget
    by_cases hk : e.1 = .str key
    · rw [if_pos hk] at hget
      cases hget
      refine ⟨[], rest, by rw [← hk]; rfl, fun value' => ?_⟩
      have hself : e.1.sameKey (.str key) = true := (sameKey_str _ _).mpr hk
      have hrest : (rest.map fun e => if e.1.sameKey (.str key) then (e.1, value') else e) = rest := by
        refine (List.map_congr_left fun e' he' => ?_).trans (List.map_id rest)
        have hother := h.1 e' he'
        rw [hk] at hother
        refine if_neg fun hsame => ?_
        rw [(sameKey_str _ _).mp hsame, (sameKey_str _ _).mpr rfl] at hother
        cases hother
      rw [Dict.set, if_pos (by rw [Dict.has, List.any_cons, hself, Bool.true_or]), List.map_cons,
        hrest, if_pos hself, hk, List.nil_append]
    · rw [if_neg hk] at hget
      obtain ⟨pre, post, hrest, hset⟩ := ih h.2 hget
      refine ⟨e :: pre, post, by rw [hrest]; rfl, fun value' => ?_⟩
      have hne : ¬ e.1.sameKey (.str key) = true := fun hs => hk ((sameKey_str _ _).mp hs)
      have hhas : Dict.has rest (.str key) = true := by
        rw [Dict.has_str_iff]
        exact ⟨value, by rw [hrest]; simp⟩
      have hset := hset value'
      rw [Dict.set, if_pos hhas] at hset
      rw [Dict.set, if_pos (by rw [Dict.has, List.any_cons]; exact Bool.or_eq_true_iff.mpr (.inr hhas)),
        List.map_cons, if_neg hne, hset, List.cons_append]

theorem ne_of_split {pre post : Dict β} (h : Distinct (pre ++ (.str key, value) :: post))
    {e : Yaml × β} (he : e ∈ pre ++ post) : e.1 ≠ .str key := by
  rw [Distinct, List.pairwise_append, List.pairwise_cons] at h
  obtain ⟨-, ⟨hpost, -⟩, hpre⟩ := h
  have hself : (Yaml.str key).sameKey (.str key) = true := (sameKey_str _ _).mpr rfl
  intro heq
  have hother : (Yaml.str key).sameKey (.str key) = false := by
    rcases List.mem_append.mp he with he | he
    · have hne := hpre e he _ List.mem_cons_self
      rwa [heq] at hne
    · have hne := hpost e he
      rwa [heq] at hne
  rw [hself] at hother
  cases hother

theorem get?_of_mem (h : Distinct d) (hmem : (Yaml.str key, value) ∈ d) :
    Dict.get? d key = some value := by
  induction d with
  | nil => cases hmem
  | cons e rest ih =>
    rw [Distinct, List.pairwise_cons] at h
    rw [Dict.get?_cons]
    rcases List.mem_cons.mp hmem with rfl | hmem
    · rw [if_pos rfl]
    · rw [if_neg, ih h.2 hmem]
      intro hk
      have hother := h.1 _ hmem
      rw [hk, (sameKey_str _ _).mpr rfl] at hother
      cases hother

end Yaml.Distinct

/-! ## Texts -/

/-- `text.rsplit(sep, 1)`: what is before the last separator, if there is one, and what is
after it. -/
def rsplitOnce (sep : Char) (text : String) : Option String × String :=
  let after := (text.toList.reverse.takeWhile (· != sep)).reverse
  match text.toList.reverse.dropWhile (· != sep) with
  | [] => (none, text)
  | _ :: before => (some (String.ofList before.reverse), String.ofList after)

/-- `text.split(sep)`. -/
def split (sep : Char) (text : String) : List String :=
  (splitOn sep text.toList).map String.ofList

/-- `text.lower()`, as far as ASCII letters go. -/
def asciiLower (text : String) : String := String.ofList (text.toList.map Char.toLower)

/-- The zeros of the scripts that have decimal digits: each begins ten of them. -/
def decimalZeros : List Nat :=
  [48, 1632, 1776, 1984, 2406, 2534, 2662, 2790, 2918, 3046, 3174, 3302, 3430, 3558, 3664, 3792,
    3872, 4160, 4240, 6112, 6160, 6470, 6608, 6784, 6800, 6992, 7088, 7232, 7248, 42528, 43216,
    43264, 43472, 43504, 43600, 44016, 65296, 66720, 68912, 69734, 69872, 69942, 70096, 70384,
    70736, 70864, 71248, 71360, 71472, 71904, 72016, 72784, 73040, 73120, 92768, 92864, 93008,
    120782, 120792, 120802, 120812, 120822, 123200, 123632, 125264, 130032]

/-- The digits that are no decimals, as the superscripts: first and last of each run. -/
def otherDigits : List (Nat × Nat) :=
  [(178, 179), (185, 185), (4969, 4977), (6618, 6618), (8304, 8304), (8308, 8313), (8320, 8329),
    (9312, 9320), (9332, 9340), (9352, 9360), (9450, 9450), (9461, 9469), (9471, 9471),
    (10102, 10110), (10112, 10120), (10122, 10130), (68160, 68163), (69216, 69224),
    (69714, 69722), (127232, 127242)]

/-- The value of a decimal digit, of any script. -/
def decimalValue (c : Char) : Option Nat :=
  (decimalZeros.find? fun z => z ≤ c.toNat && c.toNat < z + 10).map (c.toNat - ·)

/-- `c.isdigit()`. -/
def isDigitChar (c : Char) : Bool :=
  (decimalValue c).isSome || otherDigits.any fun run => run.1 ≤ c.toNat && c.toNat ≤ run.2

/-- `text.isdigit()`. -/
def isDigit (text : String) : Bool := text != "" && text.toList.all isDigitChar

/-- The number that decimal digits denote. -/
def decimalNumber : List Char → Nat → Option Nat
  | [], acc => some acc
  | c :: rest, acc => (decimalValue c).bind fun d => decimalNumber rest (10 * acc + d)

/-- `int(text)`, of a text that `isdigit` accepts. -/
def intOfDigits (text : String) : Except Exn Nat :=
  if Yaml.maxStrDigits < text.length then
    .error (.valueError "Exceeds the limit (4300 digits) for integer string conversion")
  else match decimalNumber text.toList 0 with
    | some n => .ok n
    | none => .error (.valueError "invalid literal for int() with base 10")

end Greffer.Compose

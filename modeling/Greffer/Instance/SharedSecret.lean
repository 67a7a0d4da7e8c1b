import Greffer.Compose.IntegrationStrip
import Greffer.Instance.BakedFiles
import Greffer.Python.Lines

/-! # One secret, in a file and in a container

An `env` destination puts the value of its configuration into a service's environment, and
puts it into the `config` of the render context, where a baked file reads it as
`config.KEY`.  The file gets the value as it is.  The container's copy goes on: it is in the compose
body, it may be stripped with an unset integration, and it is rendered there once more.

**The two agree** (`same_secret_iff`) where the value that is last written to the container's
environment is the one last configured under the key, no destination or reference of an unset
integration takes it away, and it has no marker that the body's rendering would read.  An
environment that containers share has what is written to it, and loses what is taken from it, for
any of them.
-/
namespace Greffer.Instance
open Effects
open Compose (Yaml Entries Dict GreffonInfo Configuration Objects Document EnvEntry WordClass isWordChar
  keepEntries keepEnvironment keepEnvironments environmentEntries takes unsetTypes destinationsIn
  fieldOf servicesIn putServices deleteUnsetIntegrationEnvKeys leaves leavesAll leavesValues)

/-! ## The engine -/

/-- Whether a Jinja marker opens somewhere: `{{`, `{%` or `{#`. -/
def opens : List Char → Bool
  | '{' :: c :: rest => c == '{' || c == '%' || c == '#' || opens (c :: rest)
  | _ :: rest => opens rest
  | [] => false

/-- A text without Jinja markers. -/
def isPlain (s : String) : Bool := !opens s.toList

/-- An engine that renders a text without markers to itself, and keeps a name in front of
a `=` when the name has no markers. -/
structure Verbatim (render : String → String) : Prop where
  plain : ∀ s, isPlain s = true → render s = s
  name : ∀ name rest, isPlain name = true →
    ∃ rest', render (name ++ "=" ++ rest) = name ++ "=" ++ rest'

mutual
/-- `_child_render_tree`, where no leaf fails. -/
def childRenderTree (render : String → String) : Yaml → Yaml
  | .str s => .str (render s)
  | .dict entries => .dict (childRenderValues render entries)
  | .list items => .list (childRenderAll render items)
  | v => v

/-- `childRenderTree`, of every element. -/
def childRenderAll (render : String → String) : List Yaml → List Yaml
  | [] => []
  | v :: vs => childRenderTree render v :: childRenderAll render vs

/-- `childRenderTree`, of every value; keys never render. -/
def childRenderValues (render : String → String) : List (Yaml × Yaml) → List (Yaml × Yaml)
  | [] => []
  | (k, v) :: es => (k, childRenderTree render v) :: childRenderValues render es
end

/-- `str.isidentifier`.  The ASCII characters of an identifier are letters, digits and
underscores. -/
structure IdentifierClass where
  isIdentifier : String → Bool
  word : ∀ s, isIdentifier s = true → ∀ c ∈ s.toList, c.toNat < 128 → isWordChar c = true

/-- `dir(dict)`. -/
def dictAttributes : List String :=
  ["__class__", "__class_getitem__", "__contains__", "__delattr__", "__delitem__", "__dir__",
    "__doc__", "__eq__", "__format__", "__ge__", "__getattribute__", "__getitem__",
    "__getstate__", "__gt__", "__hash__", "__init__", "__init_subclass__", "__ior__", "__iter__",
    "__le__", "__len__", "__lt__", "__ne__", "__new__", "__or__", "__reduce__", "__reduce_ex__",
    "__repr__", "__reversed__", "__ror__", "__setattr__", "__setitem__", "__sizeof__", "__str__",
    "__subclasshook__", "clear", "copy", "fromkeys", "get", "items", "keys", "pop", "popitem",
    "setdefault", "update", "values"]

/-- Whether `config.KEY` is the entry of a key: the key is a name, and the dict has no
attribute of that name, which would come first. -/
def readable (ids : IdentifierClass) (key : String) : Bool :=
  ids.isIdentifier key && !dictAttributes.contains key

/-- What a baked file obtains for `config.KEY`. -/
def obtained (ids : IdentifierClass) (config : Entries) (key : String) : Option Yaml :=
  if readable ids key then Dict.get? config key else none

/-! ## The context -/

/-- A value that an `env` destination writes. -/
structure Write where
  container : Yaml
  key : Yaml
  value : Yaml

/-- What a destination writes, of a configuration with this value. -/
def writeOf (value destination : Yaml) : Option Write :=
  match value with
  | .dict v =>
    if fieldOf destination "type" = .str "env" then
      (Dict.get? destination.entries "key").map fun key =>
        ⟨fieldOf destination "container", key, (Dict.get? v "value").getD (.str "")⟩
    else none
  | _ => none

/-- `config[dest['key']] = value.get('value', '')`, where the destination is an `env` one. -/
def addConfig (value : Yaml) (config : Entries) (destination : Yaml) : Except Exn Entries :=
  match writeOf value destination with
  | some w =>
    if w.key.hashable then .ok (Dict.set config w.key w.value)
    else .error (.typeError ("unhashable type: '" ++ w.key.typeName ++ "'"))
  | none => .ok config

/-- One configuration of `_compute_config_context`. -/
def configContext (config : Entries) (c : Configuration) : Except Exn Entries :=
  match c.value with
  | .dict _ => do
    let destinations ← destinationsIn c
    destinations.foldlM (addConfig c.value) config
  | _ => .ok config

/-- `_compute_config_context`. -/
def computeConfigContext (configurations : List Configuration) : Except Exn Entries :=
  configurations.foldlM configContext []

/-! ## The body -/

/-- `service['logging'] = …`, where the service declares none. -/
def withLogging (logging : Yaml) : Yaml → Yaml
  | .dict d =>
    if Dict.has d (.str "logging") then .dict d else .dict (Dict.set d (.str "logging") logging)
  | v => v

/-- `_inject_instance_log_rotation`. -/
def injectInstanceLogRotation (maxSize maxFile : String) (compose : Yaml) : Yaml :=
  match servicesIn compose with
  | .dict services =>
    let logging : Yaml := .dict [(.str "driver", .str "json-file"),
      (.str "options", .dict [(.str "max-size", .str maxSize), (.str "max-file", .str maxFile)])]
    putServices compose (.dict (services.map fun s => (s.1, withLogging logging s.2)))
  | _ => compose

/-- The compose that `create_compose` writes, from what the strip leaves. -/
def renderedBody (render : String → String) (maxSize maxFile : String) (compose : Yaml) : Yaml :=
  childRenderTree render (injectInstanceLogRotation maxSize maxFile compose)

/-! ## The container's copy -/

/-- The environment of a service; one that is not there has no entries. -/
def environmentIn (services : Yaml) (container : String) : Yaml :=
  let service := (Dict.get? services.entries container).getD .null
  (Dict.get? service.entries "environment").getD (.list [])

/-- The environment of a container, in a compose. -/
def environmentAt (compose : Yaml) (container : String) : Yaml :=
  environmentIn (servicesIn compose) container

/-- The name of an item of an environment in list form. -/
def itemName (item : String) : String := (partition '=' item).1

/-- Whether an item sets a key. -/
def setsKey (key : String) : Yaml → Bool
  | .str item => itemName item == key
  | _ => false

/-- The value of a key in an environment: of a list, the last item of that name counts. -/
def valueIn (environment : Yaml) (key : String) : Option Yaml :=
  match environment with
  | .dict d => Dict.get? d key
  | .list items => (lastWhere (setsKey key) items).bind fun item => (EnvEntry.item item).value?
  | _ => none

/-- A value, as an environment of this form has it. -/
def asWritten (repr : Repr) (environment value : Yaml) : Yaml :=
  match environment with
  | .list _ => .str (strOf repr value)
  | _ => value

/-- **The file and the container read the same value.** -/
def SameSecret (ids : IdentifierClass) (repr : Repr) (config : Entries) (compose : Yaml)
    (container key : String) : Prop :=
  ∃ v, obtained ids config key = some v ∧
    valueIn (environmentAt compose container) key =
      some (asWritten repr (environmentAt compose container) v)

/-! ## Markers -/

theorem opens_cons {c : Char} (hc : c ≠ '{') (rest : List Char) :
    opens (c :: rest) = opens rest := by
  cases rest with
  | nil => simp [opens]
  | cons d rest =>
    rw [opens]
    exact fun _ _ heq _ => absurd heq hc

theorem opens_append_of_plain {before : List Char} (h : '{' ∉ before) (rest : List Char) :
    opens (before ++ rest) = opens rest := by
  induction before with
  | nil => rfl
  | cons c before ih =>
    obtain ⟨hc, hbefore⟩ := not_or.mp (List.mem_cons.not.mp h)
    rw [List.cons_append, opens_cons (Ne.symm hc), ih hbefore]

/-- What opens in front still opens. -/
theorem opens_append {before : List Char} (h : opens before = true) (rest : List Char) :
    opens (before ++ rest) = true := by
  induction before with
  | nil => cases h
  | cons c before ih =>
    by_cases hc : c = '{'
    · subst hc
      cases before with
      | nil => simp [opens] at h
      | cons d before =>
        simp only [opens, List.cons_append, Bool.or_eq_true] at h ih ⊢
        exact h.imp_right ih
    · rw [opens_cons hc] at h
      rw [List.cons_append, opens_cons hc, ih h]

theorem plain_of_append {a b : String} (h : isPlain (a ++ b) = true) : isPlain a = true := by
  rw [isPlain, Bool.not_eq_true'] at h ⊢
  by_contra hopens
  rw [String.toList_append, opens_append (Bool.eq_true_of_not_eq_false hopens)] at h
  cases h

/-- A name of an environment variable, as a file can spell it. -/
structure Spelled (key : String) : Prop where
  noBrace : '{' ∉ key.toList
  noEquals : '=' ∉ key.toList

theorem spelled_of_readable {ids : IdentifierClass} {key : String} (h : readable ids key = true) :
    Spelled key := by
  rw [readable, Bool.and_eq_true] at h
  refine ⟨fun hc => ?_, fun hc => ?_⟩
  · exact absurd (ids.word key h.1 _ hc (by decide)) (by decide)
  · exact absurd (ids.word key h.1 _ hc (by decide)) (by decide)

namespace Spelled
variable {key : String}

theorem plain_iff (h : Spelled key) (text : String) :
    isPlain (key ++ "=" ++ text) = isPlain text := by
  have hbefore : '{' ∉ (key ++ "=").toList := by
    rw [String.toList_append, List.mem_append]
    exact not_or_intro h.noBrace (by decide)
  rw [isPlain, isPlain, String.toList_append, opens_append_of_plain hbefore]

end Spelled

/-! ## Items -/

theorem noEquals_itemName (item : String) : '=' ∉ (itemName item).toList := by
  rw [itemName, partition]
  split <;>
  · rw [String.toList_ofList]
    intro hmem
    simpa using List.mem_takeWhile_imp hmem

theorem item_cases (item : String) : item = itemName item ∨
    ∃ value, item = itemName item ++ "=" ++ value := by
  have hsplit : item.toList.takeWhile (· != '=') ++ item.toList.dropWhile (· != '=') =
      item.toList := List.takeWhile_append_dropWhile
  cases hdrop : item.toList.dropWhile (· != '=') with
  | nil =>
    left
    rw [hdrop, List.append_nil] at hsplit
    rw [itemName, partition]
    simp [hdrop, hsplit]
  | cons c after =>
    right
    have hc : c = '=' := by
      have hhead := List.head_dropWhile_not (· != '=') (l := item.toList) (by rw [hdrop]; simp)
      simpa [hdrop] using hhead
    subst hc
    refine ⟨String.ofList after, ?_⟩
    rw [itemName, partition]
    simp only [hdrop]
    rw [← String.toList_inj]
    simp only [String.toList_append, String.toList_ofList, List.append_assoc]
    exact (hdrop ▸ hsplit).symm

theorem itemName_append {name : String} (h : '=' ∉ name.toList) (value : String) :
    itemName (name ++ "=" ++ value) = name := by
  rw [itemName]
  exact congrArg Prod.fst (partition_append h value)

theorem value_append {name : String} (h : '=' ∉ name.toList) (value : String) :
    (EnvEntry.item (.str (name ++ "=" ++ value))).value? = some (.str value) := by
  have hparts : partition '=' (name ++ "=" ++ value) = (name, true, value) :=
    partition_append h value
  rw [EnvEntry.value?, hparts]

/-- The name of an item, seen from a text that it has in front of a `=`. -/
theorem itemName_of_front (front rest : String) :
    ∃ tail, front = itemName (front ++ "=" ++ rest) ++ tail := by
  rcases item_cases front with hname | ⟨value, hfront⟩
  · refine ⟨"", ?_⟩
    have hno : '=' ∉ front.toList := hname ▸ noEquals_itemName front
    rw [itemName_append hno, String.append_empty]
  · refine ⟨"=" ++ value, ?_⟩
    have hitem : front ++ "=" ++ rest = itemName front ++ "=" ++ (value ++ "=" ++ rest) := by
      conv_lhs => rw [hfront]
      simp only [String.append_assoc]
    rw [hitem, itemName_append (noEquals_itemName front), ← String.append_assoc]
    exact hfront

/-! ## Engines -/

/-- An engine that marks what it renders. -/
def marking (s : String) : String := if isPlain s then s else s ++ "!"

/-- An engine that also makes an item of a key of every name with markers. -/
def hijacking (key value s : String) : String :=
  if isPlain (itemName s) then marking s else key ++ "=" ++ (value ++ "!")

theorem verbatim_id : Verbatim id where
  plain _ _ := rfl
  name _ rest _ := ⟨rest, rfl⟩

theorem verbatim_marking : Verbatim marking where
  plain s h := by rw [marking, if_pos h]
  name name rest _ := by
    rw [marking]
    split
    · exact ⟨rest, rfl⟩
    · exact ⟨rest ++ "!", by rw [← String.append_assoc]⟩

theorem verbatim_hijacking (key value : String) : Verbatim (hijacking key value) where
  plain s h := by
    have hname : isPlain (itemName s) = true := by
      rcases item_cases s with heq | ⟨tail, heq⟩
      · rwa [← heq]
      · rw [heq, String.append_assoc] at h
        exact plain_of_append h
    rw [hijacking, if_pos hname, verbatim_marking.plain s h]
  name name rest h := by
    obtain ⟨tail, htail⟩ := itemName_of_front name rest
    have hname : isPlain (itemName (name ++ "=" ++ rest)) = true := plain_of_append (htail ▸ h)
    rw [hijacking, if_pos hname]
    exact verbatim_marking.name name rest h

/-! ## Trees -/

@[simp] theorem childRenderAll_eq (render : String → String) (items : List Yaml) :
    childRenderAll render items = items.map (childRenderTree render) := by
  induction items with
  | nil => rfl
  | cons v rest ih => rw [childRenderAll, ih, List.map_cons]

@[simp] theorem childRenderValues_eq (render : String → String) (entries : Entries) :
    childRenderValues render entries =
      entries.map fun e => (e.1, childRenderTree render e.2) := by
  induction entries with
  | nil => rfl
  | cons e rest ih => rw [childRenderValues, ih, List.map_cons]

section Fixed
variable {render : String → String}

mutual
/-- A tree whose texts are rendered to themselves is, too. -/
theorem childRenderTree_fixed :
    ∀ v : Yaml, (∀ s ∈ leaves v, render s = s) → childRenderTree render v = v
  | .str s, hv => by rw [childRenderTree, hv s (by simp [leaves])]
  | .list items, hv => by
    rw [leaves] at hv
    rw [childRenderTree, childRenderAll_fixed items hv]
  | .dict entries, hv => by
    rw [leaves] at hv
    rw [childRenderTree, childRenderValues_fixed entries hv]
  | .null, _ | .bool _, _ | .int _, _ | .float _ _, _ | .other _ _ _ _ _, _ => by
    simp [childRenderTree]

theorem childRenderAll_fixed :
    ∀ items : List Yaml, (∀ s ∈ leavesAll items, render s = s) → childRenderAll render items = items
  | [], _ => rfl
  | v :: rest, hv => by
    rw [leavesAll, List.forall_mem_append] at hv
    rw [childRenderAll, childRenderTree_fixed v hv.1, childRenderAll_fixed rest hv.2]

theorem childRenderValues_fixed :
    ∀ entries : List (Yaml × Yaml), (∀ s ∈ leavesValues entries, render s = s) →
      childRenderValues render entries = entries
  | [], _ => rfl
  | (k, v) :: rest, hv => by
    rw [leavesValues, List.forall_mem_append] at hv
    rw [childRenderValues, childRenderTree_fixed v hv.1, childRenderValues_fixed rest hv.2]
end

/-- **A tree without markers is rendered to itself.** -/
theorem childRenderTree_plain (h : Verbatim render) {v : Yaml}
    (hv : (leaves v).all isPlain = true) : childRenderTree render v = v :=
  childRenderTree_fixed v fun s hs => h.plain s (List.all_eq_true.mp hv s hs)

theorem childRenderTree_id (v : Yaml) : childRenderTree id v = v :=
  childRenderTree_fixed v fun _ _ => rfl

end Fixed

theorem ne_marked (s : String) : s ++ "!" ≠ s := by
  intro h
  have hlength := congrArg String.length h
  rw [String.length_append] at hlength
  simp at hlength

theorem plain_of_marked {s : String} (h : marking s = s) : isPlain s = true := by
  by_contra hplain
  rw [marking, if_neg hplain] at h
  exact ne_marked s h

mutual
/-- A tree that the marking engine does not change has no markers. -/
theorem leaves_plain_of_marked :
    ∀ v : Yaml, childRenderTree marking v = v → (leaves v).all isPlain = true
  | .str s, h => by
    rw [childRenderTree] at h
    simpa [leaves] using plain_of_marked (Yaml.str.inj h)
  | .list items, h => by
    rw [childRenderTree] at h
    rw [leaves]
    exact leavesAll_plain_of_marked items (Yaml.list.inj h)
  | .dict entries, h => by
    rw [childRenderTree] at h
    rw [leaves]
    exact leavesValues_plain_of_marked entries (Yaml.dict.inj h)
  | .null, _ | .bool _, _ | .int _, _ | .float _ _, _ | .other _ _ _ _ _, _ => by simp [leaves]

theorem leavesAll_plain_of_marked :
    ∀ items : List Yaml, childRenderAll marking items = items →
      (leavesAll items).all isPlain = true
  | [], _ => rfl
  | v :: rest, h => by
    rw [childRenderAll] at h
    obtain ⟨hv, hrest⟩ := List.cons.inj h
    rw [leavesAll, List.all_append, leaves_plain_of_marked v hv,
      leavesAll_plain_of_marked rest hrest]
    rfl

theorem leavesValues_plain_of_marked :
    ∀ entries : List (Yaml × Yaml), childRenderValues marking entries = entries →
      (leavesValues entries).all isPlain = true
  | [], _ => rfl
  | (k, v) :: rest, h => by
    rw [childRenderValues] at h
    obtain ⟨hv, hrest⟩ := List.cons.inj h
    rw [leavesValues, List.all_append, leaves_plain_of_marked v (Prod.mk.inj hv).2,
      leavesValues_plain_of_marked rest hrest]
    rfl
end

theorem get?_mapValues {α β : Type} (f : α → β) (d : Dict α) (key : String) :
    Dict.get? (d.map fun e => (e.1, f e.2)) key = (Dict.get? d key).map f := by
  induction d with
  | nil => rfl
  | cons e rest ih =>
    rw [List.map_cons, Dict.get?_cons, Dict.get?_cons, ih]
    split <;> rfl

/-! ## A mapping -/

/-- **The entry of a mapping is read as it was configured**, whatever the engine, if and only if
it was written so and has no markers. -/
theorem pair_shared_iff {d : Entries} {key : String} {v : Yaml} :
    (∀ render, Verbatim render →
      valueIn (childRenderTree render (.dict d)) key = some v) ↔
    Dict.get? d key = some v ∧ (leaves v).all isPlain = true := by
  have hvalue : ∀ render, valueIn (childRenderTree render (.dict d)) key =
      (Dict.get? d key).map (childRenderTree render) := by
    intro render
    rw [childRenderTree, childRenderValues_eq, valueIn]
    exact get?_mapValues (childRenderTree render) d key
  simp only [hvalue]
  constructor
  · intro h
    have hid := h id verbatim_id
    cases hget : Dict.get? d key with
    | none =>
      rw [hget] at hid
      cases hid
    | some given =>
      rw [hget, Option.map_some, childRenderTree_id] at hid
      cases hid
      have hmarked := h marking verbatim_marking
      rw [hget, Option.map_some] at hmarked
      exact ⟨rfl, leaves_plain_of_marked _ (Option.some.inj hmarked)⟩
  · rintro ⟨hget, hplain⟩ render hrender
    rw [hget, Option.map_some, childRenderTree_plain hrender hplain]

/-! ## A list -/

/-- Whether an item may set a key once it is rendered: it has its name, or its name is itself
rendered. -/
def maySet (key : String) : Yaml → Bool
  | .str item => !isPlain (itemName item) || itemName item == key
  | _ => false

theorem lastWhere_eq_some {α : Type} {p : α → Bool} {l : List α} {a : α} :
    lastWhere p l = some a ↔
      p a = true ∧ ∃ pre post, l = pre ++ a :: post ∧ ∀ x ∈ post, p x = false := by
  rw [lastWhere, List.find?_eq_some_iff_append]
  refine and_congr_right fun _ => ⟨?_, ?_⟩
  · rintro ⟨post, pre, hl, hpost⟩
    refine ⟨pre.reverse, post.reverse, ?_, fun x hx => by simpa using hpost x (by simpa using hx)⟩
    have hreverse := congrArg List.reverse hl
    simpa using hreverse
  · rintro ⟨pre, post, rfl, hpost⟩
    exact ⟨post.reverse, pre.reverse, by simp,
      fun x hx => by simpa using hpost x (by simpa using hx)⟩

/-- An item that may not set a key does not, however it is rendered. -/
theorem not_sets_of_not_maySet {render : String → String} (h : Verbatim render) {key : String}
    {item : Yaml} (hitem : maySet key item = false) :
    setsKey key (childRenderTree render item) = false := by
  cases item with
  | str s =>
    rw [maySet, Bool.or_eq_false_iff, Bool.not_eq_false'] at hitem
    have hname : itemName (render s) = itemName s := by
      rcases item_cases s with heq | ⟨value, heq⟩
      · rw [h.plain s (by rw [heq]; exact hitem.1)]
      · obtain ⟨value', hvalue'⟩ := h.name (itemName s) value hitem.1
        rw [← heq] at hvalue'
        rw [hvalue', itemName_append (noEquals_itemName s)]
    rw [childRenderTree, setsKey, hname, hitem.2]
  | _ => rfl

theorem item_of_value {item : Yaml} {value : String}
    (h : (EnvEntry.item item).value? = some (.str value)) :
    ∃ s, item = .str s ∧ s = itemName s ++ "=" ++ value := by
  cases item with
  | str s =>
    refine ⟨s, rfl, ?_⟩
    rcases item_cases s with heq | ⟨value', heq⟩
    · have hno : '=' ∉ s.toList := by
        rw [heq]
        exact noEquals_itemName s
      have hdrop : s.toList.dropWhile (· != '=') = [] :=
        List.dropWhile_eq_nil_iff.mpr fun c hc => bne_iff_ne.mpr fun hc' => hno (hc' ▸ hc)
      have hparts : partition '=' s = (itemName s, false, "") := by
        rw [itemName, partition]
        simp [hdrop]
      rw [EnvEntry.value?, hparts] at h
      cases h
    · have hvalue := value_append (noEquals_itemName s) value'
      rw [← heq, h] at hvalue
      cases hvalue
      exact heq
  | _ => cases h

section List
variable {pre post : List Yaml} {key value : String} {render : String → String}

/-- What a list gives for a key, if nothing behind an item sets it. -/
theorem valueIn_list (hkey : Spelled key) {value' : String}
    (hitem : render (key ++ "=" ++ value) = key ++ "=" ++ value')
    (hpost : ∀ item ∈ post, setsKey key (childRenderTree render item) = false) :
    valueIn (childRenderTree render (.list (pre ++ .str (key ++ "=" ++ value) :: post))) key =
      some (.str value') := by
  have hlast : lastWhere (setsKey key)
      ((pre ++ .str (key ++ "=" ++ value) :: post).map (childRenderTree render)) =
        some (.str (key ++ "=" ++ value')) := by
    refine lastWhere_eq_some.mpr ⟨?_, pre.map (childRenderTree render),
      post.map (childRenderTree render), ?_, ?_⟩
    · rw [setsKey, itemName_append hkey.noEquals, beq_self_eq_true]
    · rw [List.map_append, List.map_cons, childRenderTree, hitem]
    · intro x hx
      obtain ⟨item, hmem, rfl⟩ := List.mem_map.mp hx
      exact hpost item hmem
  rw [childRenderTree, childRenderAll_eq, valueIn, hlast]
  exact value_append hkey.noEquals value'

/-- A hijacked item is in the way. -/
theorem valueIn_hijacked (hkey : Spelled key) {item : Yaml} (hitem : item ∈ post)
    (hplain : maySet key item = true) (hpost : ∀ item ∈ post, setsKey key item = false) :
    valueIn (childRenderTree (hijacking key value)
      (.list (pre ++ .str (key ++ "=" ++ value) :: post))) key = some (.str (value ++ "!")) := by
  have hrendered : ∀ item ∈ post,
      setsKey key (childRenderTree (hijacking key value) item) = true →
      childRenderTree (hijacking key value) item = .str (key ++ "=" ++ (value ++ "!")) := by
    intro item hitem hsets
    have hno := hpost item hitem
    cases item with
    | str s =>
      by_cases hname : isPlain (itemName s) = true
      · have hnot : maySet key (.str s) = false := by
          rw [setsKey] at hno
          rw [maySet, hname, hno]
          rfl
        rw [not_sets_of_not_maySet (verbatim_hijacking key value) hnot] at hsets
        cases hsets
      · rw [childRenderTree, hijacking, if_neg hname]
    | _ => cases hsets
  have hsets : setsKey key (childRenderTree (hijacking key value) item) = true := by
    have hno := hpost item hitem
    cases item with
    | str s =>
      rw [setsKey] at hno
      rw [maySet, hno, Bool.or_false, Bool.not_eq_true'] at hplain
      rw [childRenderTree, hijacking, if_neg (by rw [hplain]; decide), setsKey,
        itemName_append hkey.noEquals, beq_self_eq_true]
    | _ => cases hplain
  obtain ⟨x, hx, hmem, hxsets⟩ := lastWhere_isSome (List.mem_map_of_mem hitem) hsets
  obtain ⟨item', hitem', rfl⟩ := List.mem_map.mp hmem
  rw [childRenderTree, childRenderAll_eq, valueIn, List.map_append, List.map_cons,
    ← List.singleton_append, ← List.append_assoc, lastWhere_append, hx, Option.some_or,
    hrendered item' hitem' hxsets]
  exact value_append hkey.noEquals (value ++ "!")

end List

/-- **An item of a list is read as it was configured**, whatever the engine, if and only if it
was written so, has no markers, and no later item may set the key. -/
theorem item_shared_iff {items : List Yaml} {key value : String} (hkey : Spelled key) :
    (∀ render, Verbatim render →
      valueIn (childRenderTree render (.list items)) key = some (.str value)) ↔
    isPlain value = true ∧ ∃ pre post, items = pre ++ .str (key ++ "=" ++ value) :: post ∧
      ∀ item ∈ post, maySet key item = false := by
  constructor
  · intro h
    have hid := h id verbatim_id
    rw [childRenderTree_id, valueIn] at hid
    obtain ⟨item, hlast, hvalue⟩ := Option.bind_eq_some_iff.mp hid
    obtain ⟨s, rfl, hs⟩ := item_of_value hvalue
    obtain ⟨hsets, pre, post, rfl, hpost⟩ := lastWhere_eq_some.mp hlast
    rw [setsKey, beq_iff_eq] at hsets
    rw [hsets] at hs
    subst hs
    have hlater : ∀ item ∈ post, maySet key item = false := by
      intro item hitem
      by_contra hmay
      have hhijacked := h _ (verbatim_hijacking key value)
      rw [valueIn_hijacked hkey hitem (Bool.eq_true_of_not_eq_false hmay) hpost] at hhijacked
      exact ne_marked value (Yaml.str.inj (Option.some.inj hhijacked))
    refine ⟨?_, pre, post, rfl, hlater⟩
    by_contra hplain
    have hitem : marking (key ++ "=" ++ value) = key ++ "=" ++ (value ++ "!") := by
      rw [marking, hkey.plain_iff, if_neg hplain, String.append_assoc]
    have hmarked := h _ verbatim_marking
    rw [valueIn_list hkey hitem fun item hmem =>
      not_sets_of_not_maySet verbatim_marking (hlater item hmem)] at hmarked
    exact ne_marked value (Yaml.str.inj (Option.some.inj hmarked))
  · rintro ⟨hplain, pre, post, rfl, hpost⟩ render hrender
    have hitem : render (key ++ "=" ++ value) = key ++ "=" ++ value :=
      hrender.plain _ (by rwa [hkey.plain_iff])
    exact valueIn_list hkey hitem fun item hmem => not_sets_of_not_maySet hrender (hpost item hmem)

/-! ## The way through the body -/

section Body
variable {compose : Yaml} {container : String}

theorem entries_rendered (render : String → String) (v : Yaml) :
    (childRenderTree render v).entries =
      v.entries.map fun e => (e.1, childRenderTree render e.2) := by
  cases v with
  | dict entries => rw [childRenderTree, childRenderValues_eq]; rfl
  | _ => simp [childRenderTree, Yaml.entries]

/-- The entry of a rendered mapping, where a default is rendered to itself. -/
theorem getD_rendered {render : String → String} {v default : Yaml}
    (hdefault : childRenderTree render default = default) (key : String) :
    (Dict.get? (childRenderTree render v).entries key).getD default =
      childRenderTree render ((Dict.get? v.entries key).getD default) := by
  rw [entries_rendered, get?_mapValues]
  cases Dict.get? v.entries key with
  | none => exact hdefault.symm
  | some value => rfl

theorem servicesIn_entries (v : Yaml) :
    (servicesIn v) = (Dict.get? v.entries "services").getD (.dict []) := by
  cases v <;> rfl

/-- **Rendering the body renders each environment.** -/
theorem environmentAt_rendered (render : String → String) :
    environmentAt (childRenderTree render compose) container =
      childRenderTree render (environmentAt compose container) := by
  unfold environmentAt environmentIn
  rw [servicesIn_entries, getD_rendered (by simp [childRenderTree]),
    getD_rendered (by simp [childRenderTree]), getD_rendered (by simp [childRenderTree]),
    servicesIn_entries]

theorem environment_withLogging (logging service : Yaml) :
    Dict.get? (withLogging logging service).entries "environment" =
      Dict.get? service.entries "environment" := by
  cases service with
  | dict d =>
    rw [withLogging]
    split
    · rfl
    · exact Dict.get?_set_ne (by simp)
  | _ => rfl

theorem get?_mapServices (container : String) (services : Entries) (change : Yaml → Yaml → Yaml) :
    Dict.get? (services.map fun s => (s.1, change s.1 s.2)) container =
      (Dict.get? services container).map (change (.str container)) := by
  induction services with
  | nil => rfl
  | cons s rest ih =>
    rw [List.map_cons, Dict.get?_cons, Dict.get?_cons, ih]
    by_cases hs : s.1 = .str container
    · simp [hs]
    · simp [hs]

theorem serviceAt_putServices {services : Entries} (hservices : servicesIn compose = .dict services)
    (change : Yaml → Yaml → Yaml) :
    Dict.get? (servicesIn (putServices compose
        (.dict (services.map fun s => (s.1, change s.1 s.2))))).entries container =
      (Dict.get? services container).map (change (.str container)) := by
  rw [← get?_mapServices]
  cases compose with
  | dict d =>
    rw [putServices]
    split
    · simp [servicesIn, Yaml.entries]
    · rename_i hhas
      have hnone := Dict.get?_eq_none_iff.mpr (Bool.eq_false_iff.mpr hhas)
      simp only [servicesIn, hnone, Option.getD_none] at hservices ⊢
      cases hservices
      rfl
  | _ =>
    cases hservices
    rfl

/-- **The log rotation changes no environment.** -/
theorem environmentAt_rotated (maxSize maxFile : String) :
    environmentAt (injectInstanceLogRotation maxSize maxFile compose) container =
      environmentAt compose container := by
  unfold injectInstanceLogRotation
  cases hservices : servicesIn compose with
  | dict services =>
    simp only
    unfold environmentAt environmentIn
    rw [serviceAt_putServices hservices fun _ => withLogging _, hservices, Yaml.entries]
    cases Dict.get? services container with
    | none => rfl
    | some service => simp only [Option.map_some, Option.getD_some, environment_withLogging]
  | _ => rfl

variable {w : WordClass} {objects : Objects} {integrations : Entries}
  {configurations : List Configuration} {compose' : Yaml}

theorem environment_kept (keep : EnvEntry → Bool) (service : Yaml) :
    (Dict.get? (keepEnvironment keep service).entries "environment").getD (.list []) =
      keepEntries keep ((Dict.get? service.entries "environment").getD (.list [])) := by
  cases service with
  | dict d =>
    rw [Compose.get?_keepEnvironment, Yaml.entries]
    cases Dict.get? d "environment" <;> rfl
  | _ => rfl

/-- **The strip takes its entries from each environment.** -/
theorem environmentAt_stripped
    (h : deleteUnsetIntegrationEnvKeys w objects compose integrations configurations = .ok compose') :
    environmentAt compose' container = keepEntries (fun e =>
      !takes w objects (servicesIn compose) (unsetTypes integrations) configurations
        (.str container) e) (environmentAt compose container) := by
  by_cases hunset : unsetTypes integrations = []
  · rw [Compose.strip_none hunset] at h
    cases h
    rw [hunset]
    simp only [Compose.takes_none, Bool.not_false, Compose.keepEntries_true]
  · obtain ⟨⟨services, hservices⟩, -, rfl⟩ := Compose.strip_services hunset h
    unfold environmentAt environmentIn
    rw [hservices, keepEnvironments, serviceAt_putServices hservices fun name =>
      keepEnvironment fun e => !takes w objects (.dict services) (unsetTypes integrations)
        configurations name e, Yaml.entries]
    cases Dict.get? services container with
    | none => rfl
    | some service => exact environment_kept _ service

end Body

/-! ## The way into the compose -/

/-- Whether a write is seen in the environment of a container: in its own, and in all that are
one with it. -/
def Write.reaches (objects : Objects) (w : Write) (container : String) : Bool :=
  objects.environment w.container == objects.environment (.str container)

/-- An environment with what is written to it. -/
def written (repr : Repr) (objects : Objects) (container : String) (writes : List Write)
    (environment : Yaml) : Except Exn Yaml :=
  (writes.filter fun w => w.reaches objects container).foldlM
    (fun environment w => setVariable repr environment w.key w.value) environment

/-- What a start's writes do to its services. -/
structure Writes (repr : Repr) (objects : Objects) (services services' : Yaml)
    (writes : List Write) : Prop where
  of : objects.Of services'.entries
  reached : Compose.reaches objects services' = Compose.reaches objects services
  has : ∀ container, Dict.has services'.entries (.str container) =
    Dict.has services.entries (.str container)
  there : ∀ w ∈ writes, ∀ container, w.container = .str container →
    Dict.has services.entries (.str container) = true
  environment : ∀ container, Dict.has services.entries (.str container) = true →
    written repr objects container writes (environmentIn services container) =
      .ok (environmentIn services' container)

section Applied
variable (settings : StartSettings) (repr : Repr) {objects : Objects}
  {W : Type} {M : Machine (Raises (ControlCall.Answer StartCall.Answer) ControlError) W}

theorem index_ok {v value : Yaml} {key : String} (h : Compose.index v key = .ok value) :
    Dict.get? v.entries key = some value := by
  cases v with
  | dict d =>
    rw [Compose.index] at h
    split at h
    · cases h
      assumption
    · cases h
  | _ => cases h

theorem Writes.none {services : Yaml} (h : objects.Of services.entries) :
    Writes repr objects services services [] where
  of := h
  reached := rfl
  has _ := rfl
  there _ h := absurd h List.not_mem_nil
  environment _ _ := rfl

variable {repr}

theorem written_one (w : Write) (container : String) (environment : Yaml) :
    written repr objects container [w] environment =
      if w.reaches objects container then setVariable repr environment w.key w.value
      else .ok environment := by
  rw [written, List.filter_singleton]
  cases w.reaches objects container with
  | true => exact bind_pure _
  | false => rfl

/-- **Writes follow one another.** -/
theorem Writes.append {services mid services' : Yaml} {writes writes' : List Write}
    (h : Writes repr objects services mid writes) (h' : Writes repr objects mid services' writes') :
    Writes repr objects services services' (writes ++ writes') where
  of := h'.of
  reached := h'.reached.trans h.reached
  has container := (h'.has container).trans (h.has container)
  there w hw container hcontainer := by
    rcases List.mem_append.mp hw with hw | hw
    · exact h.there w hw container hcontainer
    · exact (h.has container).symm.trans (h'.there w hw container hcontainer)
  environment container hhas := by
    have hfirst := h.environment container hhas
    have hrest := h'.environment container ((h.has container).trans hhas)
    rw [written] at hfirst hrest ⊢
    rw [List.filter_append, List.foldlM_append, hfirst]
    exact hrest

/-- What sets a variable leaves a mapping one, and a list one. -/
theorem popsKey_setVariable {environment environment' key value : Yaml}
    (h : setVariable repr environment key value = .ok environment') :
    Compose.popsKey environment' = Compose.popsKey environment := by
  cases environment with
  | dict d =>
    rw [setVariable] at h
    split at h
    · cases h
      rfl
    · cases h
  | list items =>
    cases h
    rfl
  | _ => cases h

section Put
variable {services : Entries} {name : String} {d : Entries} {environment : Yaml}

/-- **An environment that is put** is the same in all its places. -/
theorem of_putEnvironment (h : objects.Of services) :
    objects.Of (putEnvironment objects name environment services) := by
  refine ⟨fun s' hs' t' ht' hone => ?_, fun s' hs' t' ht' hone => ?_, fun s' hs' t' ht' hone => ?_,
    fun s' hs' t' ht' hone hnone => ?_⟩ <;>
  obtain ⟨s, hs, rfl⟩ := List.mem_map.mp hs' <;> obtain ⟨t, ht, rfl⟩ := List.mem_map.mp ht'
  · have hnested : objects.environment s.1 = objects.environment t.1 := h.nested s hs t ht hone
    dsimp only
    rw [hnested, h.service s hs t ht hone]
  · have hone : objects.environment s.1 = objects.environment t.1 := hone
    dsimp only
    rw [hone]
    split
    · rw [Yaml.entries, Yaml.entries, Dict.get?_set_self, Dict.get?_set_self]
    · exact h.environment s hs t ht hone
  · exact h.nested s hs t ht hone
  · have hone : objects.environment s.1 = objects.environment t.1 := hone
    dsimp only at hnone
    split at hnone
    · rw [Yaml.entries, Dict.get?_set_self] at hnone
      cases hnone
    · exact h.given s hs t ht hone hnone

/-- The container's environment is the one of every service that shares it. -/
theorem environment_of_shared (h : objects.Of services)
    (hname : Dict.get? services name = some (.dict d)) {s : Yaml × Yaml} (hs : s ∈ services)
    (hone : objects.environment s.1 = objects.environment (.str name)) :
    Dict.get? s.2.entries "environment" = Dict.get? d "environment" :=
  h.environment s hs (.str name, .dict d) (Dict.mem_of_get? hname) hone

theorem reaches_putEnvironment (h : objects.Of services)
    (hname : Dict.get? services name = some (.dict d))
    (hkind : Compose.popsKey environment =
      Compose.popsKey ((Dict.get? d "environment").getD (.list []))) :
    Compose.reaches objects (.dict (putEnvironment objects name environment services)) =
      Compose.reaches objects (.dict services) := by
  refine Compose.reaches_map objects _ fun s hs => ?_
  split
  · rename_i hone
    rw [Compose.environmentOf, Yaml.entries, Dict.get?_set_self, Option.getD_some, hkind,
      Compose.environmentOf, environment_of_shared h hname hs (beq_iff_eq.mp hone)]
    cases Dict.get? d "environment" <;> rfl
  · rfl

theorem put_writes {key value : Yaml} (h : objects.Of services)
    (hname : Dict.get? services name = some (.dict d))
    (hset : setVariable repr ((Dict.get? d "environment").getD (.list [])) key value =
      .ok environment) :
    Writes repr objects (.dict services) (.dict (putEnvironment objects name environment services))
      [⟨.str name, key, value⟩] where
  of := of_putEnvironment h
  reached := reaches_putEnvironment h hname (popsKey_setVariable hset)
  has container := by
    rw [Yaml.entries, Yaml.entries, putEnvironment, Dict.has, Dict.has, List.any_map]
    rfl
  there w hw container hcontainer := by
    obtain rfl := List.mem_singleton.mp hw
    cases hcontainer
    by_contra hnone
    have hmissing := Dict.get?_eq_none_iff.mpr (Bool.eq_false_iff.mpr hnone)
    rw [Yaml.entries, hname] at hmissing
    cases hmissing
  environment container hhas := by
    cases hservice : Dict.get? services container with
    | none =>
      rw [Yaml.entries, Dict.get?_eq_none_iff.mp hservice] at hhas
      cases hhas
    | some service =>
      have hput := get?_mapServices container services fun name' service =>
        if objects.environment name' == objects.environment (.str name) then
          .dict (Dict.set service.entries (.str "environment") environment)
        else service
      rw [hservice, Option.map_some] at hput
      rw [environmentIn, environmentIn, Yaml.entries, Yaml.entries, hservice, putEnvironment, hput]
      by_cases hone : objects.environment (.str name) = objects.environment (.str container)
      · have hreaches : Write.reaches objects ⟨.str name, key, value⟩ container = true :=
          beq_iff_eq.mpr hone
        have hshared := environment_of_shared h hname (Dict.mem_of_get? hservice) hone.symm
        dsimp only [Option.getD_some] at hshared ⊢
        rw [written_one, if_pos hreaches, if_pos (beq_iff_eq.mpr hone.symm), hshared, Yaml.entries,
          Dict.get?_set_self]
        exact hset
      · have hreaches : ¬ Write.reaches objects ⟨.str name, key, value⟩ container = true :=
          beq_iff_eq.not.mpr hone
        rw [written_one, if_neg hreaches, if_neg (beq_iff_eq.not.mpr (Ne.symm hone))]

end Put

/-- **An `env` destination sets its key** in its container's environment, in all its places, and in
no other. -/
theorem setEnvironmentInPlace_writes {template template' destination : Entries} {value : Yaml}
    (hof : objects.Of (servicesIn (.dict template)).entries)
    (htype : fieldOf (.dict destination) "type" = .str "env")
    (h : setEnvironmentInPlace repr objects template destination value = .ok template') :
    Writes repr objects (servicesIn (.dict template)) (servicesIn (.dict template'))
      (writeOf value (.dict destination)).toList := by
  simp only [setEnvironmentInPlace, Compose.bind_ok_iff] at h
  obtain ⟨container, hcontainer, name, hname, services, hservices, service, hservice, key, hkey,
    h⟩ := h
  cases container with
  | str name' =>
    cases hname
    cases value with
    | dict v =>
      cases service with
      | dict d =>
        obtain ⟨environment, henvironment, h⟩ :
            ∃ environment, setVariable repr ((Dict.get? d "environment").getD (.list [])) key
                ((Dict.get? v "value").getD (.str "")) = .ok environment ∧
              (pure (Dict.set template (.str "services") (.dict (putEnvironment objects name
                environment services.entries))) : Except Exn Entries) = .ok template' :=
          Compose.bind_ok_iff.mp h
        cases h
        have hwrite : writeOf (.dict v) (.dict destination) =
            some ⟨.str name, key, (Dict.get? v "value").getD (.str "")⟩ := by
          have hfield : fieldOf (.dict destination) "container" = .str name := by
            rw [fieldOf, index_ok hcontainer]
            rfl
          rw [writeOf, if_pos htype, hfield, index_ok hkey]
          rfl
        have hbefore : servicesIn (.dict template) = services := by
          have hget : Dict.get? template "services" = some services := index_ok hservices
          rw [servicesIn, hget]
          rfl
        have hafter : servicesIn (.dict (Dict.set template (.str "services")
            (.dict (putEnvironment objects name environment services.entries)))) =
              .dict (putEnvironment objects name environment services.entries) := by
          rw [servicesIn, Dict.get?_set_self]
          rfl
        rw [hbefore] at hof
        rw [hwrite, hbefore, hafter]
        cases services with
        | dict services =>
          have hget : Dict.get? services name = some (.dict d) := index_ok hservice
          exact put_writes hof hget henvironment
        | _ => cases hservice
      | _ => cases h
    | _ => cases h
  | _ => cases hname

/-- **Where no environment is shared** it sets what it sets in a tree. -/
theorem setEnvironmentInPlace_alone {template destination : Entries} {value : Yaml}
    (hof : objects.Of (servicesIn (.dict template)).entries)
    (halone : ∀ s ∈ (servicesIn (.dict template)).entries,
      ∀ t ∈ (servicesIn (.dict template)).entries,
        objects.environment s.1 = objects.environment t.1 → s.1 = t.1) :
    setEnvironmentInPlace repr objects template destination value =
      setEnvironment repr template destination value := by
  unfold setEnvironmentInPlace setEnvironment
  refine congrArg _ (funext fun _ => congrArg _ (funext fun name => ?_))
  cases hservices : Compose.index (.dict template) "services" with
  | error e => rfl
  | ok services =>
    rw [Compose.ok_bind, Compose.ok_bind]
    cases hservice : Compose.index services name with
    | error e => rfl
    | ok service =>
      rw [Compose.ok_bind, Compose.ok_bind]
      refine congrArg _ (funext fun key => ?_)
      have hbefore : (servicesIn (.dict template)).entries = services.entries := by
        have hget : Dict.get? template "services" = some services := index_ok hservices
        rw [servicesIn, hget]
        rfl
      rw [hbefore] at hof halone
      cases service with
      | dict d =>
        have hmem := Dict.mem_of_get? (index_ok hservice)
        have hput : ∀ environment, putEnvironment objects name environment services.entries =
            Dict.set services.entries (.str name)
              (.dict (Dict.set d (.str "environment") environment)) := by
          intro environment
          rw [Dict.set, if_pos (Dict.has_str_iff.mpr ⟨_, hmem⟩), putEnvironment]
          refine List.map_congr_left fun s hs => ?_
          by_cases hname : s.1 = .str name
          · have hsame : s.2 = .dict d := hof.service s hs _ hmem (congrArg _ hname)
            rw [if_pos ((Yaml.sameKey_str _ _).mpr hname), hname, beq_self_eq_true, if_pos rfl, hsame]
            rfl
          · rw [if_neg ((Yaml.sameKey_str _ _).not.mpr hname),
              if_neg (beq_iff_eq.not.mpr fun hone => hname (halone s hs _ hmem hone))]
        simp only [hput]
      | _ => rfl

/-- What a destination that is reached writes. -/
def writeAt : Except Exn (Yaml × Yaml) → Option Write
  | .ok p => writeOf p.1 p.2
  | .error _ => none

/-- What destinations that are applied write, in order. -/
def writesOf (destinations : List (Except Exn (Yaml × Yaml))) : List Write :=
  destinations.filterMap writeAt

theorem applyDestination_writes (info : GreffonInfo) (template : Entries)
    (hof : objects.Of (servicesIn (.dict template)).entries) (value destination : Yaml) (w : W) :
    (applyDestination settings repr (setEnvironmentInPlace repr objects) info template value
      destination).Yields M (fun r _ => ∀ out, r = .ok out →
        Writes repr objects (servicesIn (.dict template)) (servicesIn (.dict out.2))
          (writeOf value destination).toList) w := by
  -- A destination of another type writes to no environment.
  have hnone : ∀ type, destinationType destination = .ok type → type ≠ "env" →
      Writes repr objects (servicesIn (.dict template)) (servicesIn (.dict template))
        (writeOf value destination).toList := by
    intro type htype hother
    have hno : writeOf value destination = none := by
      unfold writeOf
      split
      · refine if_neg fun hfield => hother ?_
        obtain ⟨t, ht, htext⟩ := Compose.bind_ok_iff.mp htype
        rw [fieldOf, index_ok ht, Option.getD_some] at hfield
        subst hfield
        cases htext
        rfl
      · rfl
    rw [hno]
    exact .none repr hof
  have hsettle : (settle (destinationType destination)).Yields M
      (fun type _ => destinationType destination = .ok type) w :=
    Action.yields_ofExcept fun _ htype => Compose.mapError_ok_iff.mp htype
  unfold applyDestination
  refine hsettle.bind fun type w₁ htype => ?_
  refine Action.yields_ite (fun hjson => ?_) fun hjson =>
    Action.yields_ite (fun henv => ?_) fun henv =>
      Action.yields_ite (fun hfile => ?_) fun hfile => ?_
  · refine (Action.yields_trivial _ w₁).bind fun r w₂ _ => ?_
    cases r with
    | error message => exact Action.yields_pure fun _ h => by cases h
    | ok info' =>
      refine Action.yields_pure fun _ h => ?_
      cases h
      exact hnone type htype (by rw [hjson]; decide)
  · subst henv
    obtain ⟨t, ht, htext⟩ := Compose.bind_ok_iff.mp htype
    cases t with
    | str text =>
      have htext : text = "env" := Except.ok.inj htext
      subst htext
      have hwrites : (applyEnv (setEnvironmentInPlace repr objects) template destination.entries
          value).Yields M (fun template' _ => Writes repr objects (servicesIn (.dict template))
            (servicesIn (.dict template')) (writeOf value destination).toList) w₁ := by
        refine (Action.yields_trivial _ w₁).bind fun _ w₂ _ => ?_
        refine Action.yields_ofExcept fun template' htemplate => ?_
        cases destination with
        | dict entries =>
          have hfield : fieldOf (.dict entries) "type" = .str "env" := by
            rw [fieldOf, index_ok ht, Option.getD_some]
          exact setEnvironmentInPlace_writes hof hfield (Compose.mapError_ok_iff.mp htemplate)
        | _ => cases ht
      refine hwrites.bind fun template' w₂ h₂ => ?_
      refine Action.yields_pure fun _ h => ?_
      cases h
      exact h₂
    | _ => exact absurd (Except.ok.inj htext) (by decide)
  · refine (Action.yields_trivial _ w₁).bind fun r w₂ _ => ?_
    cases r with
    | error message => exact Action.yields_pure fun _ h => by cases h
    | ok info' =>
      refine Action.yields_pure fun _ h => ?_
      cases h
      exact hnone type htype henv
  · refine Action.yields_pure fun _ h => ?_
    cases h
    exact hnone type htype henv

/-- **Each environment ends with what is written for it**, in order. -/
theorem applyDestinations_writes (info : GreffonInfo) (template : Entries)
    (hof : objects.Of (servicesIn (.dict template)).entries)
    (destinations : List (Except Exn (Yaml × Yaml))) (w : W) :
    (applyDestinations settings repr (setEnvironmentInPlace repr objects) info template
      destinations).Yields M (fun r _ => ∀ out, r = .ok out →
        Writes repr objects (servicesIn (.dict template)) (servicesIn (.dict out.2))
          (writesOf destinations)) w := by
  induction destinations generalizing info template w with
  | nil =>
    refine Action.yields_pure fun _ h => ?_
    cases h
    exact .none repr hof
  | cons x rest ih =>
    cases x with
    | error e => exact Action.yields_raise _
    | ok p =>
      obtain ⟨value, destination⟩ := p
      unfold applyDestinations
      refine (applyDestination_writes settings info template hof value destination w).bind
        fun r w₁ h₁ => ?_
      cases r with
      | error message => exact Action.yields_pure fun _ h => by cases h
      | ok out =>
        obtain ⟨info', template'⟩ := out
        have hfirst := h₁ _ rfl
        refine (ih info' template' hfirst.of w₁).mono fun r w₂ h₂ out hout => ?_
        have hwrites : writesOf (.ok (value, destination) :: rest) =
            (writeOf value destination).toList ++ writesOf rest := by
          rw [writesOf, List.filterMap_cons, writeAt]
          cases writeOf value destination <;> rfl
        rw [hwrites]
        exact hfirst.append (h₂ out hout)
end Applied

/-! ## The context -/

/-- What `_compute_config_context` reads of the configurations, in order. -/
def configured (configurations : List Configuration) : List Write :=
  configurations.flatMap fun c =>
    (((destinationsIn c).toOption).getD []).filterMap (writeOf c.value)

/-- The value last configured under a key. -/
def lastConfigured (configurations : List Configuration) (key : String) : Option Yaml :=
  (lastWhere (fun w => w.key.sameKey (.str key)) (configured configurations)).map Write.value

/-- A write, in the context. -/
def Write.set (config : Entries) (w : Write) : Entries := Dict.set config w.key w.value

theorem addConfig_ok {value destination : Yaml} {config config' : Entries}
    (h : addConfig value config destination = .ok config') :
    config' = (writeOf value destination).toList.foldl Write.set config := by
  unfold addConfig at h
  cases hwrite : writeOf value destination with
  | none =>
    rw [hwrite] at h
    cases h
    rfl
  | some w =>
    rw [hwrite] at h
    simp only at h
    split at h
    · cases h
      rfl
    · cases h

theorem addConfigs_ok {value : Yaml} {destinations : List Yaml} {config config' : Entries}
    (h : destinations.foldlM (addConfig value) config = .ok config') :
    config' = (destinations.filterMap (writeOf value)).foldl Write.set config := by
  induction destinations generalizing config with
  | nil =>
    cases h
    rfl
  | cons destination rest ih =>
    obtain ⟨mid, hmid, h⟩ := Compose.bind_ok_iff.mp h
    rw [ih h, addConfig_ok hmid]
    cases hwrite : writeOf value destination with
    | none => rw [List.filterMap_cons_none hwrite]; rfl
    | some w => rw [List.filterMap_cons_some hwrite]; rfl

theorem configContext_ok {c : Configuration} {config config' : Entries}
    (h : configContext config c = .ok config') :
    config' = ((((destinationsIn c).toOption).getD []).filterMap (writeOf c.value)).foldl
      Write.set config := by
  unfold configContext at h
  cases hvalue : c.value with
  | dict v =>
    rw [hvalue] at h
    obtain ⟨destinations, hdestinations, h⟩ := Compose.bind_ok_iff.mp h
    rw [hdestinations]
    exact addConfigs_ok h
  | _ =>
    rw [hvalue] at h
    cases h
    have hnone : (((destinationsIn c).toOption).getD []).filterMap
        (fun _ => (none : Option Write)) = [] := by simp
    exact (congrArg (List.foldl Write.set config) hnone).symm

theorem computeConfigContext_ok {configurations : List Configuration} {config config' : Entries}
    (h : configurations.foldlM configContext config = .ok config') :
    config' = (configured configurations).foldl Write.set config := by
  induction configurations generalizing config with
  | nil =>
    cases h
    rfl
  | cons c rest ih =>
    obtain ⟨mid, hmid, h⟩ := Compose.bind_ok_iff.mp h
    rw [ih h, configContext_ok hmid, configured, configured, List.flatMap_cons, List.foldl_append]

/-- Of several writes under a key the last one stands. -/
theorem get?_foldl_set (writes : List Write) (config : Entries) (key : String) :
    Dict.get? (writes.foldl Write.set config) key =
      ((lastWhere (fun w : Write => w.key.sameKey (.str key)) writes).map Write.value).or
        (Dict.get? config key) := by
  induction writes generalizing config with
  | nil => rfl
  | cons w rest ih =>
    rw [List.foldl_cons, ih, ← List.singleton_append, lastWhere_append, Write.set]
    cases lastWhere (fun w : Write => w.key.sameKey (.str key)) rest with
    | some x => rfl
    | none =>
      by_cases hw : w.key = .str key
      · simp [lastWhere, hw]
      · simp [lastWhere, hw, Dict.get?_set_ne hw]

/-- **The context has the value last configured.** -/
theorem config_last {configurations : List Configuration} {config : Entries}
    (h : computeConfigContext configurations = .ok config) (key : String) :
    Dict.get? config key = lastConfigured configurations key := by
  rw [computeConfigContext_ok h, get?_foldl_set, lastConfigured]
  simp

/-! ## The law -/

/-- Whether an environment gives a key this value, and its rendering changes neither. -/
def Literally (repr : Repr) (environment : Yaml) (key : String) (v : Yaml) : Prop :=
  match environment with
  | .dict d => Dict.get? d key = some v ∧ (leaves v).all isPlain = true
  | .list items => isPlain (strOf repr v) = true ∧
      ∃ pre post, items = pre ++ .str (key ++ "=" ++ strOf repr v) :: post ∧
        ∀ item ∈ post, maySet key item = false
  | _ => False

/-- **When an environment gives a key its value under every engine.** -/
theorem literally_iff {repr : Repr} {environment v : Yaml} {key : String} (hkey : Spelled key) :
    (∀ render, Verbatim render → valueIn (childRenderTree render environment) key =
      some (asWritten repr (childRenderTree render environment) v)) ↔
    Literally repr environment key v := by
  cases environment with
  | dict d =>
    refine Iff.trans ?_ pair_shared_iff
    simp only [childRenderTree, asWritten]
  | list items =>
    refine Iff.trans ?_ (item_shared_iff hkey)
    simp only [childRenderTree, asWritten]
  | _ =>
    refine iff_of_false (fun h => ?_) id
    cases h id verbatim_id

/-- The environment of a container, with what the configurations write, less what the strip
takes. -/
def kept (w : WordClass) (objects : Objects) (services : Yaml) (integrations : Entries)
    (configurations : List Configuration) (container : String) (environment : Yaml) : Yaml :=
  keepEntries (fun e =>
    !takes w objects services (unsetTypes integrations) configurations (.str container) e)
    environment

/-- When a secret travels unchanged. -/
structure Unchanged (ids : IdentifierClass) (w : WordClass) (repr : Repr) (template : Document)
    (integrations : Entries) (configurations : List Configuration) (container key : String) :
    Prop where
  readable : readable ids key = true
  literally : ∃ v environment, lastConfigured configurations key = some v ∧
    written repr template.objects container (writesOf (destinationsOf configurations))
      (environmentAt template.tree container) = .ok environment ∧
    Literally repr (kept w template.objects (servicesIn template.tree) integrations configurations
      container environment) key v

/-- **When a file and a container read the same secret.**  For every start whose configurations
are applied and whose compose body is stripped, whatever its services share, and for every engine
that leaves text without markers alone: each key that an `env` destination writes for a container
has the same value in `config` and in that container's rendered environment, if and only if each of
them travels unchanged. -/
theorem same_secret_iff {W : Type}
    {M : Machine (Raises (ControlCall.Answer StartCall.Answer) ControlError) W} {s s' : W}
    {settings : StartSettings} {repr : Repr} {ids : IdentifierClass} {w : WordClass}
    {info info' : GreffonInfo} {template : Document} {template' config : Entries} {compose : Yaml}
    {maxSize maxFile : String}
    (hcontext : computeConfigContext info.configurations = .ok config)
    (run : Run M s (applyConfigurationInPlace settings repr info template) s'
      (.pure (.ok (.ok (info', template')))))
    (hstrip : deleteUnsetIntegrationEnvKeys w template.objects (.dict template') info.integrations
      info.configurations = .ok compose) :
    (∀ write ∈ writesOf (destinationsOf info.configurations), ∀ container key,
      write.container = .str container → write.key = .str key → ∀ render, Verbatim render →
        SameSecret ids repr config (renderedBody render maxSize maxFile compose) container key) ↔
    ∀ write ∈ writesOf (destinationsOf info.configurations), ∀ container key,
      write.container = .str container → write.key = .str key →
        Unchanged ids w repr template info.integrations info.configurations container key := by
  have hservices : servicesIn (.dict template.tree.entries) = servicesIn template.tree := by
    rw [servicesIn_entries, servicesIn_entries template.tree, Yaml.entries]
  have hwrites := Action.Yields.at_return (applyDestinations_writes settings info
    template.tree.entries (hservices ▸ template.of) (destinationsOf info.configurations) s) run _ rfl
  rw [hservices] at hwrites
  refine forall_congr' fun write => forall_congr' fun hwrite => forall_congr' fun container =>
    forall_congr' fun key => forall_congr' fun hcontainer => forall_congr' fun _ => ?_
  have hwritten := hwrites.environment container (hwrites.there write hwrite container hcontainer)
  have hconfig := config_last hcontext key
  -- The environment of the body is the written one, less what is stripped, rendered.
  have hbody : ∀ render, environmentAt (renderedBody render maxSize maxFile compose) container =
      childRenderTree render (kept w template.objects (servicesIn template.tree) info.integrations
        info.configurations container (environmentAt (.dict template') container)) := by
    intro render
    rw [renderedBody, environmentAt_rendered, environmentAt_rotated, environmentAt_stripped hstrip,
      kept]
    simp only [takes, Compose.poppedUnset, Compose.poppedBy, hwrites.reached]
  constructor
  · intro h
    have hreadable : readable ids key = true := by
      obtain ⟨v, hv, -⟩ := h id verbatim_id
      rw [obtained] at hv
      split at hv
      · assumption
      · cases hv
    obtain ⟨v, hv, -⟩ := h id verbatim_id
    rw [obtained, if_pos hreadable, hconfig] at hv
    refine ⟨hreadable, v, _, hv, hwritten, ?_⟩
    refine (literally_iff (spelled_of_readable hreadable)).mp fun render hrender => ?_
    obtain ⟨v', hv', hvalue⟩ := h render hrender
    rw [obtained, if_pos hreadable, hconfig, hv] at hv'
    cases hv'
    rwa [hbody render] at hvalue
  · rintro ⟨hreadable, v, environment, hv, henvironment, hliterally⟩ render hrender
    rw [environmentAt, hwritten] at henvironment
    cases henvironment
    refine ⟨v, ?_, ?_⟩
    · rw [obtained, if_pos hreadable, hconfig, hv]
    · rw [hbody render]
      exact (literally_iff (spelled_of_readable hreadable)).mpr hliterally render hrender

/-- Identifiers of ASCII letters, digits and underscores. -/
def asciiIdentifiers : IdentifierClass where
  isIdentifier s := s.toList.all isWordChar && !((s.toList.head?).all Char.isDigit)
  word s h c hc _ := by
    rw [Bool.and_eq_true, List.all_eq_true] at h
    exact h.1 c hc

/-- A compose of a database and a web application, each with an environment of its own. -/
def webTemplate : Document :=
  .unshared (.dict [(.str "services", .dict [
      (.str "db", .dict [(.str "image", .str "db"), (.str "environment", .dict [])]),
      (.str "web", .dict [(.str "image", .str "web"), (.str "environment", .dict [])])])])
    (fun name => if name.sameKey (.str "db") then 0 else 1) (by
      intro s hs t ht hone
      rcases List.mem_pair.mp hs with rfl | rfl <;> rcases List.mem_pair.mp ht with rfl | rfl
      · rfl
      · exact absurd hone (by decide)
      · exact absurd hone (by decide)
      · rfl)

/-- A configuration that sets the password of these containers. -/
def setsPassword (value : String) (containers : List String) : Configuration where
  value := .dict [(.str "value", .str value)]
  destinations := .list (containers.map fun c =>
    .dict [(.str "type", .str "env"), (.str "container", .str c), (.str "key", .str "PW")])

/-- One password for both, and one for each. -/
def onePassword : List Configuration := [setsPassword "one" ["db", "web"]]

def twoPasswords : List Configuration := [setsPassword "one" ["db"], setsPassword "two" ["web"]]

/-- One password is the same everywhere. -/
theorem same_secret_one : ∃ config template' info' journal compose,
    computeConfigContext onePassword = .ok config ∧
    Run (stagingMachine plainOven) []
      (applyConfigurationInPlace {} plainDumps (vaultInfo onePassword) webTemplate) journal
      (.pure (.ok (.ok (info', template')))) ∧
    deleteUnsetIntegrationEnvKeys Compose.asciiWords webTemplate.objects (.dict template') []
      onePassword = .ok compose ∧
    ∀ write ∈ writesOf (destinationsOf onePassword), ∀ container key,
      write.container = .str container → write.key = .str key → ∀ render, Verbatim render →
        SameSecret asciiIdentifiers plainDumps config (renderedBody render "10m" "3" compose)
          container key := by
  have hrun : ∃ config template' info' journal compose,
      computeConfigContext (vaultInfo onePassword).configurations = .ok config ∧
      Run (stagingMachine plainOven) []
        (applyConfigurationInPlace {} plainDumps (vaultInfo onePassword) webTemplate) journal
        (.pure (.ok (.ok (info', template')))) ∧
      deleteUnsetIntegrationEnvKeys Compose.asciiWords webTemplate.objects (.dict template')
        (vaultInfo onePassword).integrations (vaultInfo onePassword).configurations =
        .ok compose :=
    ⟨_, _, _, _, _, rfl, Prog.run_evalFor (h := bakery) bakery_serves 12 _ _, rfl⟩
  obtain ⟨config, template', info', journal, compose, hconfig, run, hstrip⟩ := hrun
  refine ⟨config, template', info', journal, compose, hconfig, run, hstrip,
    (same_secret_iff hconfig run hstrip).mpr ?_⟩
  intro write hwrite container key hcontainer hkey
  have hwrites : writesOf (destinationsOf (vaultInfo onePassword).configurations) =
      [⟨.str "db", .str "PW", .str "one"⟩, ⟨.str "web", .str "PW", .str "one"⟩] := rfl
  rw [hwrites] at hwrite
  rcases List.mem_pair.mp hwrite with rfl | rfl
  · cases hcontainer
    cases hkey
    exact ⟨by decide, .str "one", _, rfl, rfl, rfl, by decide⟩
  · cases hcontainer
    cases hkey
    exact ⟨by decide, .str "one", _, rfl, rfl, rfl, by decide⟩

/-- **Two containers with a password each**: a file has the web application's, whichever
container it is for. -/
theorem key_of_two_containers : ¬ ∀ (settings : StartSettings) (repr : Repr)
    (ids : IdentifierClass) (w : WordClass) (o : Oven) (journal : Journal)
    (info info' : GreffonInfo) (template : Document) (template' config : Entries) (compose : Yaml)
    (maxSize maxFile : String),
    computeConfigContext info.configurations = .ok config →
    Run (stagingMachine o) [] (applyConfigurationInPlace settings repr info template) journal
      (.pure (.ok (.ok (info', template')))) →
    deleteUnsetIntegrationEnvKeys w template.objects (.dict template') info.integrations
      info.configurations = .ok compose →
    ∀ write ∈ writesOf (destinationsOf info.configurations), ∀ container key,
      write.container = .str container → write.key = .str key → ∀ render, Verbatim render →
        SameSecret ids repr config (renderedBody render maxSize maxFile compose) container key := by
  intro hall
  obtain ⟨v, hfile, hcontainer⟩ := hall {} plainDumps asciiIdentifiers Compose.asciiWords plainOven
    _ (vaultInfo twoPasswords) _ webTemplate _ _ _ "10m" "3" rfl
    (Prog.run_evalFor (h := bakery) bakery_serves 12 _ _) rfl
    ⟨.str "db", .str "PW", .str "one"⟩ List.mem_cons_self "db" "PW" rfl rfl id verbatim_id
  cases hfile
  have hvalue : some (Yaml.str "one") = some (.str "two") := hcontainer
  exact absurd (Yaml.str.inj (Option.some.inj hvalue)) (by decide)

end Greffer.Instance

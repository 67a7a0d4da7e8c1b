import Greffer.Compose.Postcondition

/-! # Where the pass fails with an error that is not its own

The pass promises its own error for every compose that it does not accept.  It keeps the
promise for almost everything: each entry is looked at by its type first.  What is left
are the places where a built-in operation is asked more than it can do (`Piece.Trips`): a
number that no conversion takes, a protocol that no set can look up, a mount whose source
or target is no text; and a refusal that cannot be *said*, because a value that it names
holds an integer too long to print, or is nested too deep.

The pass looks at a compose piece by piece (`pieces`), and stops at the first that it does
not accept.  So it fails with another error **exactly when that first piece is one that
it stumbles over** (`own_errors_iff`).
-/
namespace Greffer.Compose

/-! ## Going through pieces -/

section
variable {α : Type} (passes stumbles : α → Prop)

/-- Going through the pieces in turn, the first that does not pass is stumbled over. -/
def StumblesFirst (l : List α) : Prop :=
  ∃ before piece after, l = before ++ piece :: after ∧ (∀ p ∈ before, passes p) ∧ stumbles piece

variable {passes stumbles}

@[simp] theorem stumblesFirst_nil : ¬ StumblesFirst passes stumbles [] := by
  rintro ⟨before, piece, after, h, -⟩
  cases before <;> cases h

theorem stumblesFirst_cons {x : α} {l : List α} : StumblesFirst passes stumbles (x :: l) ↔
    stumbles x ∨ passes x ∧ StumblesFirst passes stumbles l := by
  constructor
  · rintro ⟨before, piece, after, h, hbefore, hpiece⟩
    cases before with
    | nil =>
      cases h
      exact .inl hpiece
    | cons y before =>
      cases h
      rw [List.forall_mem_cons] at hbefore
      exact .inr ⟨hbefore.1, before, piece, after, rfl, hbefore.2, hpiece⟩
  · rintro (h | ⟨hx, before, piece, after, rfl, hbefore, hpiece⟩)
    · exact ⟨[], x, l, rfl, fun _ h => (by cases h), h⟩
    · exact ⟨x :: before, piece, after, rfl, List.forall_mem_cons.mpr ⟨hx, hbefore⟩, hpiece⟩

theorem stumblesFirst_append {l m : List α} : StumblesFirst passes stumbles (l ++ m) ↔
    StumblesFirst passes stumbles l ∨
      (∀ p ∈ l, passes p) ∧ StumblesFirst passes stumbles m := by
  induction l with
  | nil => simp
  | cons x l ih =>
    rw [List.cons_append, stumblesFirst_cons, stumblesFirst_cons, ih, List.forall_mem_cons]
    tauto

end

/-! ## What a piece is -/

/-- What the pass looks at, one after the other. -/
inductive Piece where
  /-- A compose that is no mapping. -/
  | compose (value : Yaml)
  | topKey (key : Yaml)
  | serviceKey (service key : Yaml)
  /-- What stands under `services`. -/
  | services (value : Yaml)
  | serviceName (name : Yaml)
  /-- What stands under `networks` at top level. -/
  | networks (value : Yaml)
  /-- The name of a service, which nginx will interpolate. -/
  | token (name : String)
  | body (value : Yaml)
  /-- What stands under `ports` or `volumes` of a service. -/
  | entries (value : Yaml)
  | port (entry : Yaml)
  | mount (entry : Yaml)
  /-- The container ports of a service. -/
  | targets (texts : List String)
  /-- The networks of a service, among those declared. -/
  | joined (declared : List String) (entry : Yaml)

/-- The target and the protocol that a `ports` entry says. -/
def portSays (entry : Yaml) : Option (Yaml × Yaml) :=
  match entry with
  | .int n => some (.int n, .null)
  | .str raw =>
    match rsplitOnce '/' raw with
    | (some left, proto) => some (.str (rsplitOnce ':' left).2, .str (asciiLower proto))
    | (none, raw) => some (.str (rsplitOnce ':' raw).2, .null)
  | .dict d => (Dict.get? d "target").map fun target => (target, (Dict.get? d "protocol").getD .null)
  | _ => none

/-- A container port: a number from 1 to 65535, or digits that denote one. -/
def IsPort (target : Yaml) : Prop :=
  match target with
  | .int n => 0 < n ∧ n < 65536
  | .str t => isDigit t = true ∧ DenotesPort t
  | _ => False

/-- What passes for a number and is none: digits that `int` does not take, or an integer
that `str` does not. -/
def NoNumber (target : Yaml) : Prop :=
  match target with
  | .int n => (Yaml.int n).printable = false
  | .str t => isDigit t = true ∧
      (Yaml.maxStrDigits < t.length ∨ ∃ c ∈ t.toList, decimalValue c = none)
  | _ => False

/-- The source and the target that a `volumes` entry says, if it is of a kind that is
supported. -/
def mountSays (entry : Yaml) : Option (Yaml × Yaml) :=
  match entry with
  | .str s =>
    match split ':' s with
    | [source, target] => some (.str source, .str target)
    | [source, target, mode] => if mode ∈ mountModes then some (.str source, .str target) else none
    | _ => none
  | .dict d =>
    if hasOptions d then none
    else if (Dict.get? d "type").getD (.str "volume") = .str "volume" then
      match Dict.get? d "target" with
      | none => none
      | some target =>
        let source := (Dict.get? d "source").getD .null
        if source.truthy then some (source, target) else none
    else none
  | _ => none

/-- A value that is a text. -/
def IsText (v : Yaml) : Prop := ∃ s, v = .str s

/-- Whether a mount's source is a path of the host. -/
def isBind (source : Yaml) : Prop := ∃ s, source = .str s ∧ beginsWith s ['/', '.', '~'] = true

/-- The networks that a service says: one name, a list of names, or a mapping. -/
def networksSaid (entry : Yaml) : Option (List String) :=
  match entry with
  | .str s => some [s]
  | .list items => allTexts items
  | .dict d => allTexts (d.map Prod.fst)
  | _ => none

namespace Piece
variable (strict : Bool) (extraKeys : Option String)

/-- What the pass accepts. -/
def Passes : Piece → Prop
  | compose _ => False
  | topKey key => allows topKeys key = true
  | serviceKey _ key =>
    (allows (serviceKeys strict extraKeys) key || allows managedServiceKeys key) = true
  | services value => ∃ e rest, value = .dict (e :: rest)
  | serviceName name => ∃ s, name = .str s ∧ s ≠ ""
  | networks value => value.truthy = false ∨ (∃ items, value = .list items) ∨ ∃ d, value = .dict d
  | token name => isNginxSafe name = true
  | body value => ∃ d, value = .dict d
  | entries value => value = .null ∨ ∃ items, value = .list items
  | port entry => ∃ target protocol, portSays entry = some (target, protocol) ∧ IsPort target ∧
      (protocol = .null ∨ ∃ p ∈ protocols, protocol = .str p)
  | mount entry => ∃ s t, mountSays entry = some (.str s, .str t) ∧ s ≠ "" ∧
      ¬ isBind (.str s) ∧ beginsWith t ['/'] = true
  | targets texts => texts.Nodup
  | joined declared entry => entry = .null ∨ ∃ names, networksSaid entry = some names ∧
      ∀ n ∈ names, n ∈ declared ∨ n ∈ implicitNetworks

/-- Where a built-in operation is asked more than it can do. -/
def Trips : Piece → Prop
  | port entry => ∃ target protocol, portSays entry = some (target, protocol) ∧
      (NoNumber target ∨
        IsPort target ∧ protocol.hashable = false ∧ protocol.typeName ≠ "set")
  | mount entry => ∃ source target, mountSays entry = some (source, target) ∧
      source.truthy = true ∧ target.truthy = true ∧
      (¬ IsText source ∨ ¬ isBind source ∧ ¬ IsText target)
  | _ => False

/-- The values that a refusal of the piece names. -/
def named : Piece → List Yaml
  | compose value | services value | networks value | body value | entries value => [value]
  | topKey key => [key]
  | serviceKey service key => [service, key]
  | serviceName name => [name]
  | token name => [.str name]
  | port entry | mount entry | joined _ entry => [entry]
  | targets _ => []

/-- **What the pass stumbles over**: it trips, or refuses what it cannot name. -/
def Stumbles (p : Piece) : Prop :=
  p.Trips ∨ ¬ p.Passes strict extraKeys ∧ ∃ v ∈ p.named, v.printable = false

end Piece

/-! ## The pieces of a compose, in the pass's order -/

/-- The entries under a key, if they are a list. -/
def itemsUnder (d : Entries) (key : String) : List Yaml :=
  match Dict.get? d key with
  | some (.list items) => items
  | _ => []

/-- One service, as the normalizing loop goes through it. -/
def servicePieces (declared : List String) (name : String) (body : Yaml) : List Piece :=
  .token name :: .body body :: match body with
    | .dict d =>
      .entries ((Dict.get? d "ports").getD .null) :: (itemsUnder d "ports").map .port ++
      .entries ((Dict.get? d "volumes").getD .null) :: (itemsUnder d "volumes").map .mount ++
      [.targets (declaredTargets d), .joined declared ((Dict.get? d "networks").getD .null)]
    | _ => []

/-- The keys of the services that are mappings. -/
def keyPieces (services : Entries) : List Piece :=
  services.flatMap fun s => match s.2 with
    | .dict d => d.map fun e => .serviceKey s.1 e.1
    | _ => []

/-- What stands under `services`, as a refusal names it. -/
def servicesValue (compose : Entries) : Yaml :=
  match Dict.get? compose "services" with
  | none | some .null => .str "<missing>"
  | some v => v

/-- The services, if they are a mapping. -/
def servicesUnder (compose : Entries) : Entries :=
  match Dict.get? compose "services" with
  | some (.dict services) => services
  | _ => []

/-- The networks declared at top level, if they can be read. -/
def networksUnder (compose : Entries) : List String := (declaredNetworks compose).toOption.getD []

/-- The services with their names, as far as these are texts. -/
def namedServices (compose : Entries) : List (String × Yaml) :=
  (servicesUnder compose).filterMap fun s => match s.1 with
    | .str name => some (name, s.2)
    | _ => none

/-- What the pass looks at. -/
def pieces (compose : Yaml) : List Piece :=
  match compose with
  | .dict entries =>
    (entries.map (fun e => .topKey e.1) ++ keyPieces (servicesUnder entries)) ++
      ([.services (servicesValue entries)] ++
        ((servicesUnder entries).map (fun s => .serviceName s.1) ++
          ([.networks ((Dict.get? entries "networks").getD .null)] ++
            (namedServices entries).flatMap fun s =>
              servicePieces (networksUnder entries) s.1 s.2)))
  | v => [.compose v]

/-! ## Outcomes -/

/-- Whether a result is an error that is not the pass's own. -/
def Raises {α : Type} (r : Except ComposeError α) : Prop := ∃ e, r = .error (.raised e)

/-- Whether a result is one at all. -/
def Accepts {α : Type} (r : Except ComposeError α) : Prop := ∃ a, r = .ok a

section
variable {α β : Type} {strict : Bool} {extraKeys : Option String}

theorem raises_bind {x : Except ComposeError α} {f : α → Except ComposeError β} :
    Raises (x >>= f) ↔ Raises x ∨ ∃ a, x = .ok a ∧ Raises (f a) := by
  cases x with
  | error e =>
    constructor
    · rintro ⟨e', h⟩
      exact .inl ⟨e', by cases h; rfl⟩
    · rintro (⟨e', h⟩ | ⟨a, h, -⟩)
      · cases h
        exact ⟨e', rfl⟩
      · cases h
  | ok a =>
    constructor
    · exact fun h => .inr ⟨a, rfl, h⟩
    · rintro (⟨e, h⟩ | ⟨a', h, h'⟩)
      · cases h
      · cases h
        exact h'

theorem raises_bad {service : Option Yaml} {key : Yaml} {message : String} {value : Option Yaml} :
    Raises (bad (α := α) service key message value) ↔
      (service.all Yaml.printable && key.printable && value.all Yaml.printable) = false := by
  have hprints : (service.all Yaml.printable && key.printable && value.all Yaml.printable) =
      ((service.bind Yaml.reprFailure).or
        (key.reprFailure.or (value.bind Yaml.reprFailure))).isNone := by
    cases service <;> cases value <;> simp [Yaml.printable, Option.isNone_or, Bool.and_assoc]
  unfold bad
  rw [hprints]
  split
  · rename_i h
    rw [h]
    exact ⟨(by rintro ⟨e, h⟩; cases h), fun h => by cases h⟩
  · rename_i e h
    rw [h]
    exact ⟨fun _ => rfl, fun _ => ⟨e, rfl⟩⟩

@[simp] theorem printable_str (s : String) : (Yaml.str s).printable = true := by
  rw [Yaml.printable, Yaml.reprFailure, Yaml.recursionLimit, Yaml.reprError]
  all_goals simp

variable (strict extraKeys) in
/-- What a part of the pass comes to, by the pieces that it looks at. -/
structure Outcome (r : Except ComposeError α) (l : List Piece) : Prop where
  accepts : Accepts r ↔ ∀ p ∈ l, p.Passes strict extraKeys
  raises : Raises r ↔ StumblesFirst (Piece.Passes strict extraKeys)
    (Piece.Stumbles strict extraKeys) l

theorem Outcome.ok (a : α) : Outcome strict extraKeys (.ok a : Except ComposeError α) [] where
  accepts := ⟨fun _ _ h => (by cases h), fun _ => ⟨a, rfl⟩⟩
  raises := by
    constructor
    · rintro ⟨e, h⟩
      cases h
    · exact fun h => absurd h stumblesFirst_nil

/-- **In sequence**: what comes after is looked at once what comes before has passed. -/
theorem Outcome.bind {x : Except ComposeError α} {f : α → Except ComposeError β}
    {l m : List Piece} (hx : Outcome strict extraKeys x l)
    (hf : ∀ a, x = .ok a → Outcome strict extraKeys (f a) m) :
    Outcome strict extraKeys (x >>= f) (l ++ m) where
  accepts := by
    rw [List.forall_mem_append]
    constructor
    · rintro ⟨b, hb⟩
      obtain ⟨a, ha, hb⟩ := bind_ok_iff.mp hb
      exact ⟨hx.accepts.mp ⟨a, ha⟩, (hf a ha).accepts.mp ⟨b, hb⟩⟩
    · rintro ⟨hl, hm⟩
      obtain ⟨a, ha⟩ := hx.accepts.mpr hl
      obtain ⟨b, hb⟩ := (hf a ha).accepts.mpr hm
      exact ⟨b, bind_ok_iff.mpr ⟨a, ha, hb⟩⟩
  raises := by
    rw [raises_bind, stumblesFirst_append, hx.raises, ← hx.accepts]
    refine or_congr_right ?_
    constructor
    · rintro ⟨a, ha, h⟩
      exact ⟨⟨a, ha⟩, (hf a ha).raises.mp h⟩
    · rintro ⟨⟨a, ha⟩, h⟩
      exact ⟨a, ha, (hf a ha).raises.mpr h⟩

theorem Outcome.map {x : Except ComposeError α} {l : List Piece}
    (hx : Outcome strict extraKeys x l) (f : α → β) : Outcome strict extraKeys (x.map f) l where
  accepts := by
    rw [← hx.accepts]
    cases x <;> simp [Accepts, Except.map]
  raises := by
    rw [← hx.raises]
    cases x <;> simp [Raises, Except.map]

theorem Outcome.of_piece {r : Except ComposeError α} {p : Piece}
    (haccepts : Accepts r ↔ p.Passes strict extraKeys)
    (hraises : Raises r ↔ p.Stumbles strict extraKeys) : Outcome strict extraKeys r [p] where
  accepts := by simpa using haccepts
  raises := by rw [stumblesFirst_cons, hraises]; simp

/-- **A piece that the pass refuses** is the last that it looks at. -/
theorem Outcome.refused {r : Except ComposeError α} {p : Piece} (hr : Outcome strict extraKeys r [p])
    (hpasses : ¬ p.Passes strict extraKeys) (rest : List Piece) :
    Outcome strict extraKeys r (p :: rest) where
  accepts := by
    rw [hr.accepts]
    simp [hpasses]
  raises := by
    rw [hr.raises, stumblesFirst_cons, stumblesFirst_cons]
    simp [hpasses]

/-- A piece that the pass takes says nothing of the result. -/
theorem Outcome.taken {r : Except ComposeError α} {p : Piece} {rest : List Piece}
    (htrips : ¬ p.Trips) (hpasses : p.Passes strict extraKeys)
    (hr : Outcome strict extraKeys r rest) : Outcome strict extraKeys r (p :: rest) where
  accepts := by
    rw [hr.accepts, List.forall_mem_cons, and_iff_right hpasses]
  raises := by
    rw [hr.raises, stumblesFirst_cons]
    simp [Piece.Stumbles, htrips, hpasses]

theorem Outcome.bad {service : Option Yaml} {key : Yaml} {message : String} {value : Option Yaml}
    {p : Piece} (htrips : ¬ p.Trips) (hpasses : ¬ p.Passes strict extraKeys)
    (hnamed : (service.all Yaml.printable && key.printable && value.all Yaml.printable) = false ↔
      ∃ v ∈ p.named, v.printable = false) (rest : List Piece) :
    Outcome strict extraKeys (bad (α := α) service key message value) (p :: rest) := by
  refine Outcome.refused (.of_piece ?_ ?_) hpasses rest
  · simp [Accepts, hpasses]
  · rw [raises_bad, hnamed]
    simp [Piece.Stumbles, htrips, hpasses]

theorem Outcome.badService {service key message : String} {value : Yaml} {p : Piece}
    (htrips : ¬ p.Trips) (hpasses : ¬ p.Passes strict extraKeys) (hnamed : p.named = [value])
    (rest : List Piece) :
    Outcome strict extraKeys (badService (α := α) service key message value) (p :: rest) := by
  refine Outcome.bad htrips hpasses ?_ rest
  rw [hnamed]
  simp

/-- A loop that collects looks at the pieces of its elements. -/
theorem Outcome.mapM {γ : Type} {f : γ → Except ComposeError β} {piece : γ → Piece}
    (hf : ∀ e, Outcome strict extraKeys (f e) [piece e]) (items : List γ) :
    Outcome strict extraKeys (items.mapM f) (items.map piece) := by
  induction items with
  | nil => exact .ok []
  | cons e rest ih =>
    rw [List.mapM_cons, List.map_cons, ← List.singleton_append]
    refine (hf e).bind fun b _ => ?_
    rw [← List.append_nil (rest.map piece)]
    exact ih.bind fun bs _ => .ok _

end

/-! ## One port -/

theorem isDigit_toString (n : Nat) : isDigit (toString n) = true := by
  have hlist : (toString n).toList = Nat.toDigits 10 n := Nat.toList_repr
  rw [isDigit, hlist, Bool.and_eq_true, List.all_eq_true, bne_iff_ne]
  constructor
  · intro h
    rw [h] at hlist
    exact absurd hlist.symm Nat.toDigits_ne_nil
  · intro c hc
    rw [isDigitChar, decimalValue_of_isDigit (Nat.isDigit_of_mem_toDigits (by decide) (by decide) hc)]
    rfl

variable {strict : Bool} {extraKeys : Option String}

/-- A list is no port, and one that is nested too deep is refused without the pass's error. -/
theorem nested_port_stumbles {n : Nat} (h : Yaml.recursionLimit ≤ n + 1) :
    (Piece.port (Yaml.nested (n + 1))).Stumbles strict extraKeys := by
  refine .inr ⟨?_, Yaml.nested (n + 1), List.mem_singleton_self _, ?_⟩
  · rintro ⟨target, protocol, hsays, -⟩
    simp [Yaml.nested, portSays] at hsays
  · rw [← Bool.not_eq_true, Yaml.printable_nested]
    omega

end Greffer.Compose

import Mathlib.Data.List.Forall2
import Greffer.Compose.Info

/-! # What the normalization leaves

`normalizeCompose` rewrites the ports, the mounts and the networks of each service and
nothing else.  This module says what a compose *declares*, read off the author's own tree,
and that an accepted compose still says the same: past the pass every service reads back
without an error, its mounts and networks are those that it declares
(`normalizeService_ok`), and the services are the author's, in their order
(`normalizeCompose_ok`).
-/
namespace Greffer.Compose

/-! ## Results of a sequence -/

theorem bind_ok_iff {ε α β : Type} {x : Except ε α} {f : α → Except ε β} {b : β} :
    (x >>= f) = .ok b ↔ ∃ a, x = .ok a ∧ f a = .ok b := by
  cases x with
  | error e =>
    constructor
    · intro h
      cases h
    · rintro ⟨_, h, _⟩
      cases h
  | ok a =>
    constructor
    · exact fun h => ⟨a, rfl, h⟩
    · rintro ⟨_, h, h'⟩
      cases h
      exact h'

theorem ok_bind {ε α β : Type} (a : α) (f : α → Except ε β) : (Except.ok a >>= f) = f a := rfl

theorem map_ok_iff {ε α β : Type} {x : Except ε α} {f : α → β} {b : β} :
    x.map f = .ok b ↔ ∃ a, x = .ok a ∧ f a = b := by
  cases x <;> simp [Except.map]

/-- **A loop that collects** succeeds when each of its steps does. -/
theorem mapM_ok_iff {ε α β : Type} {f : α → Except ε β} {as : List α} {bs : List β} :
    as.mapM f = .ok bs ↔ List.Forall₂ (fun a b => f a = .ok b) as bs := by
  induction as generalizing bs with
  | nil => cases bs <;> simp [pure, Except.pure]
  | cons a as ih =>
    rw [List.mapM_cons, bind_ok_iff]
    constructor
    · rintro ⟨b, hb, h⟩
      obtain ⟨bs', hbs, h⟩ := bind_ok_iff.mp h
      cases h
      exact .cons hb (ih.mp hbs)
    · rintro (_ | ⟨hb, h⟩)
      exact ⟨_, hb, bind_ok_iff.mpr ⟨_, ih.mpr h, rfl⟩⟩

theorem builtin_ok_iff {α : Type} {r : Except Exn α} {a : α} : builtin r = .ok a ↔ r = .ok a := by
  cases r <;> simp [builtin, Except.mapError]

@[simp] theorem bad_ne_ok {α : Type} (service : Option Yaml) (key : Yaml) (message : String)
    (value : Option Yaml) (a : α) : bad service key message value ≠ .ok a := by
  unfold bad
  split <;> exact fun h => by cases h

@[simp] theorem badService_ne_ok {α : Type} (service key message : String) (value : Yaml) (a : α) :
    badService service key message value ≠ .ok a :=
  bad_ne_ok _ _ _ _ _

/-! ## What a compose declares -/

/-- The mount that a `volumes` entry declares: the short form `SOURCE:TARGET[:MODE]`, or
the long form's fields. -/
def declaredMount (entry : Yaml) : Option VolumeMount :=
  match entry with
  | .str s =>
    match split ':' s with
    | [source, target] => some ⟨source, target, none⟩
    | [source, target, mode] => some ⟨source, target, some mode⟩
    | _ => none
  | .dict d =>
    match Dict.get? d "source", Dict.get? d "target" with
    | some (.str source), some (.str target) => some ⟨source, target, longMode d⟩
    | _, _ => none
  | _ => none

/-- The mounts that a service declares. -/
def declaredMounts (service : Entries) : List VolumeMount :=
  match Dict.get? service "volumes" with
  | some (.list items) => items.filterMap declaredMount
  | _ => []

/-- The networks that a service declares: one name, a list, or a mapping. -/
def networksOf (service : Entries) : List String :=
  let texts (items : List Yaml) : List String := items.filterMap fun
    | .str s => some s
    | _ => none
  match Dict.get? service "networks" with
  | some (.str s) => [s]
  | some (.list items) => texts items
  | some (.dict d) => texts (d.map Prod.fst)
  | _ => []

/-- Whether a service declares a port. -/
def hasPorts (service : Entries) : Bool :=
  match Dict.get? service "ports" with
  | some (.list (_ :: _)) => true
  | _ => false

/-- The services of a compose, as the author wrote them. -/
def authored (compose : Entries) : List (String × Entries) :=
  match Dict.get? compose "services" with
  | some (.dict services) => services.filterMap fun
    | (.str name, .dict d) => some (name, d)
    | _ => none
  | _ => []

/-! ## Reading back -/

/-- **A normalized mount reads back as itself.** -/
theorem readMount_toYaml (m : VolumeMount) : readMount m.toYaml = .ok m := by
  obtain ⟨source, target, _ | mode⟩ := m <;> rfl

/-- **So does a normalized port.** -/
theorem readPort_toYaml (p : Port) : readPort p.toYaml = .ok p := by
  obtain ⟨target, _ | protocol⟩ := p <;> rfl

theorem readAll {β : Type} (toYaml : β → Yaml) (read : Yaml → Except Exn β)
    (h : ∀ b, read (toYaml b) = .ok b) (items : List β) :
    (items.map toYaml).mapM read = .ok items := by
  rw [mapM_ok_iff]
  induction items with
  | nil => exact .nil
  | cons b rest ih => exact .cons (h b) ih

theorem serviceItems_list (service : Entries) (key : String) (items : List Yaml)
    (h : Dict.get? service key = some (.list items)) : serviceItems service key = .ok items := by
  unfold serviceItems
  rw [h]
  cases items <;> rfl

theorem serviceItems_none (service : Entries) (key : String)
    (h : Dict.get? service key = none ∨ Dict.get? service key = some .null) :
    serviceItems service key = .ok [] := by
  unfold serviceItems
  rcases h with h | h
  · rw [h]
  · rw [h]
    rfl

/-! ## One entry -/

theorem longMode_known (d : Entries) {mode : String} (h : longMode d = some mode) :
    mode ∈ mountModes := by
  unfold longMode at h
  split at h <;> cases h <;> decide

/-- The fields of a mount are those that its entry declares, with a known mode. -/
theorem mountFields_declared {entry : Yaml} {service : String} {source target : String}
    {mode : Option String} (h : mountFields entry service = .ok (.str source, .str target, mode)) :
    declaredMount entry = some ⟨source, target, mode⟩ ∧ ∀ m, mode = some m → m ∈ mountModes := by
  unfold mountFields at h
  unfold declaredMount
  cases entry with
  | str s =>
    simp only at h ⊢
    split at h
    · rename_i hs
      cases h
      rw [hs]
      exact ⟨rfl, fun _ h => (by cases h)⟩
    · rename_i hs
      split at h
      · rename_i hmode
        cases h
        rw [hs]
        exact ⟨rfl, fun _ h => Option.some.inj h ▸ hmode⟩
      · exact absurd h (badService_ne_ok _ _ _ _ _)
    · exact absurd h (badService_ne_ok _ _ _ _ _)
    · exact absurd h (badService_ne_ok _ _ _ _ _)
  | dict d =>
    simp only at h ⊢
    split at h
    · exact absurd h (badService_ne_ok _ _ _ _ _)
    split at h
    · split at h
      · exact absurd h (badService_ne_ok _ _ _ _ _)
      · rename_i target' ht
        split at h
        · cases h' : Dict.get? d "source" with
          | none =>
            rw [h'] at h
            cases h
          | some v =>
            rw [h'] at h
            cases h
            rw [ht]
            exact ⟨rfl, fun _ h => longMode_known d h⟩
        · exact absurd h (badService_ne_ok _ _ _ _ _)
    · exact absurd h (badService_ne_ok _ _ _ _ _)
  | _ => exact absurd h (badService_ne_ok _ _ _ _ _)

theorem asText_ok {v : Yaml} {s : String} (h : asText v = .ok s) : v = .str s := by
  unfold asText at h
  split at h
  · cases h
    rfl
  · cases h
  · cases h

/-- **An accepted mount is the one that its entry declares**, and its mode is known. -/
theorem normalizeVolume_declared {entry : Yaml} {service : String} {m : VolumeMount}
    (h : normalizeVolume entry service = .ok m) :
    declaredMount entry = some m ∧ ∀ mode, m.mode = some mode → mode ∈ mountModes := by
  obtain ⟨⟨source, target, mode⟩, hfields, h⟩ := bind_ok_iff.mp h
  simp only at h
  split at h
  · rename_i htruthy
    obtain ⟨s, hs, hrest⟩ := bind_ok_iff.mp h
    cases asText_ok hs
    split at hrest
    · exact absurd hrest (badService_ne_ok _ _ _ _ _)
    · rename_i hbind
      obtain ⟨t, ht, hlast⟩ := bind_ok_iff.mp hrest
      cases asText_ok ht
      split at hlast
      · cases hlast
        exact mountFields_declared hfields
      · exact absurd hlast (badService_ne_ok _ _ _ _ _)
  · exact absurd h (badService_ne_ok _ _ _ _ _)

theorem allTexts_eq {items : List Yaml} {names : List String} (h : allTexts items = some names) :
    (items.filterMap fun | .str s => some s | _ => none) = names := by
  induction items generalizing names with
  | nil =>
    cases h
    rfl
  | cons v rest ih =>
    cases v with
    | str s =>
      obtain ⟨names', h', rfl⟩ := Option.map_eq_some_iff.mp h
      rw [List.filterMap_cons, ih h']
    | _ => cases h

/-! ## One service -/

/-- What an accepted service says past the pass, and that it is what it said before. -/
structure Normalizes (declared : List String) (raw service : Entries) : Prop where
  ports : ∃ ps, servicePorts service = .ok ps ∧ ps.isEmpty = !hasPorts raw
  mounts : serviceMounts service = .ok (declaredMounts raw)
  modes : ∀ m ∈ declaredMounts raw, ∀ mode, m.mode = some mode → mode ∈ mountModes
  networks : serviceNetworks service = .ok (networksOf raw)
  known : ∀ n ∈ networksOf raw, n ∈ declared ∨ n = "default"
  others : ∀ key ∉ managedServiceKeys, Dict.get? service key = Dict.get? raw key

theorem normalizeEntries_ok {β : Type} {d : Entries} {name key : String}
    {normalizer : Yaml → String → Except ComposeError β} {r : Option (List β)}
    (h : normalizeEntries d name key normalizer = .ok r) :
    (r = none ∧ (Dict.get? d key = none ∨ Dict.get? d key = some .null)) ∨
      ∃ items bs, r = some bs ∧ Dict.get? d key = some (.list items) ∧
        List.Forall₂ (fun e b => normalizer e name = .ok b) items bs := by
  unfold normalizeEntries at h
  split at h
  · rename_i hd
    cases h
    exact .inl ⟨rfl, .inl hd⟩
  · rename_i hd
    cases h
    exact .inl ⟨rfl, .inr hd⟩
  · rename_i items hd
    obtain ⟨bs, hbs, rfl⟩ := map_ok_iff.mp h
    exact .inr ⟨items, bs, rfl, hd, mapM_ok_iff.mp hbs⟩
  · exact absurd h (badService_ne_ok _ _ _ _ _)

theorem get?_setEntries_ne {β : Type} (d : Entries) {key key' : String} (toYaml : β → Yaml)
    (entries : Option (List β)) (hne : key ≠ key') :
    Dict.get? (setEntries d key toYaml entries) key' = Dict.get? d key' := by
  unfold setEntries
  split
  · rfl
  · exact Dict.get?_set_ne fun h => hne (Yaml.str.inj h)

/-- The entries under the key read back as what they were normalized to. -/
theorem read_setEntries {β : Type} {d : Entries} {name key : String}
    {normalizer : Yaml → String → Except ComposeError β} {r : Option (List β)}
    (toYaml : β → Yaml) (read : Yaml → Except Exn β) (hread : ∀ b, read (toYaml b) = .ok b)
    (h : normalizeEntries d name key normalizer = .ok r) (service : Entries)
    (hservice : Dict.get? service key = Dict.get? (setEntries d key toYaml r) key) :
    (serviceItems service key >>= fun items => items.mapM read) = .ok (r.getD []) := by
  rcases normalizeEntries_ok h with ⟨rfl, hd⟩ | ⟨items, bs, rfl, -, -⟩
  · rw [serviceItems_none service key (by rw [hservice]; exact hd)]
    rfl
  · rw [serviceItems_list service key (bs.map toYaml) (by rw [hservice]; exact Dict.get?_set_self)]
    exact readAll toYaml read hread bs

/-- Item by item, what is normalized is what is declared. -/
theorem declared_of_normalized {β γ : Type} {normalizer : Yaml → String → Except ComposeError β}
    {name : String} {declared : Yaml → Option γ} {f : β → γ} {P : γ → Prop}
    (hone : ∀ {e b}, normalizer e name = .ok b → declared e = some (f b) ∧ P (f b))
    {items : List Yaml} {bs : List β}
    (h : List.Forall₂ (fun e b => normalizer e name = .ok b) items bs) :
    items.filterMap declared = bs.map f ∧ ∀ c ∈ bs.map f, P c := by
  induction h with
  | nil => exact ⟨rfl, nofun⟩
  | cons hb _ ih =>
    obtain ⟨hdeclared, hkept⟩ := hone hb
    rw [List.filterMap_cons_some hdeclared, ih.1]
    exact ⟨rfl, List.forall_mem_cons.mpr ⟨hkept, ih.2⟩⟩

/-- The mounts of an accepted service are those that it declares. -/
theorem normalizeEntries_declared {d : Entries} {name : String} {r : Option (List VolumeMount)}
    (h : normalizeEntries d name "volumes" normalizeVolume = .ok r) :
    declaredMounts d = r.getD [] ∧
      ∀ m ∈ r.getD [], ∀ mode, m.mode = some mode → mode ∈ mountModes := by
  unfold declaredMounts
  rcases normalizeEntries_ok h with ⟨rfl, hd | hd⟩ | ⟨items, bs, rfl, hd, hall⟩
  · rw [hd]
    exact ⟨rfl, fun _ h => (by cases h)⟩
  · rw [hd]
    exact ⟨rfl, fun _ h => (by cases h)⟩
  · rw [hd]
    have hitems := declared_of_normalized (f := id)
      (P := fun m => ∀ mode, m.mode = some mode → mode ∈ mountModes) normalizeVolume_declared hall
    rwa [List.map_id] at hitems

theorem normalizeEntries_hasPorts {d : Entries} {name : String} {r : Option (List Port)}
    (h : normalizeEntries d name "ports" normalizePort = .ok r) :
    (r.getD []).isEmpty = !hasPorts d := by
  unfold hasPorts
  rcases normalizeEntries_ok h with ⟨rfl, hd | hd⟩ | ⟨items, bs, rfl, hd, hall⟩
  · rw [hd]
    rfl
  · rw [hd]
    rfl
  · rw [hd]
    cases hall <;> rfl

theorem normalizeServiceNetworks_ok {entry : Yaml} {service : String} {names : List String}
    (h : normalizeServiceNetworks entry service = .ok names) (d : Entries)
    (hd : Dict.get? d "networks" = some entry) : networksOf d = names := by
  unfold normalizeServiceNetworks at h
  unfold networksOf
  rw [hd]
  cases entry with
  | str s =>
    cases h
    rfl
  | list items =>
    cases hall : allTexts items with
    | none =>
      simp only [hall] at h
      exact absurd h (badService_ne_ok _ _ _ _ _)
    | some names' =>
      simp only [hall] at h
      cases h
      exact allTexts_eq hall
  | dict entries =>
    cases hall : allTexts (entries.map Prod.fst) with
    | none =>
      simp only [hall] at h
      exact absurd h (badService_ne_ok _ _ _ _ _)
    | some names' =>
      simp only [hall] at h
      cases h
      exact allTexts_eq hall
  | _ => exact absurd h (badService_ne_ok _ _ _ _ _)

theorem checkNetworks_ok {declared : List String} {entry : Yaml} {service : String}
    {names : List String} (h : checkNetworks declared entry service = .ok names) (d : Entries)
    (hd : Dict.get? d "networks" = some entry) :
    networksOf d = names ∧ ∀ n ∈ names, n ∈ declared ∨ n = "default" := by
  obtain ⟨names', hnames, h⟩ := bind_ok_iff.mp h
  simp only at h
  split at h
  · rename_i hnone
    cases h
    refine ⟨normalizeServiceNetworks_ok hnames d hd, fun n hn => ?_⟩
    by_contra hcon
    rw [not_or] at hcon
    have hmem : n ∈ names.filter fun n => !declared.contains n && !implicitNetworks.contains n :=
      List.mem_filter.mpr ⟨hn, by simp [hcon.1, implicitNetworks, hcon.2]⟩
    rw [List.isEmpty_iff.mp hnone] at hmem
    cases hmem
  · exact absurd h (badService_ne_ok _ _ _ _ _)

theorem setNetworks_ok {declared : List String} {name : String} {d out : Entries}
    (h : setNetworks declared name d = .ok out) :
    serviceNetworks out = .ok (networksOf d) ∧
      (∀ n ∈ networksOf d, n ∈ declared ∨ n = "default") ∧
      ∀ key, key ≠ "networks" → Dict.get? out key = Dict.get? d key := by
  unfold setNetworks at h
  split at h
  · rename_i hd
    cases h
    rw [show networksOf d = [] by rw [networksOf, hd]]
    refine ⟨?_, fun _ hn => (by cases hn), fun _ _ => rfl⟩
    rw [serviceNetworks, serviceItems_none _ _ (.inl hd)]
    rfl
  · rename_i hd
    cases h
    rw [show networksOf d = [] by rw [networksOf, hd]]
    refine ⟨?_, fun _ hn => (by cases hn), fun _ _ => rfl⟩
    rw [serviceNetworks, serviceItems_none _ _ (.inr hd)]
    rfl
  · rename_i entry hd
    obtain ⟨names, hnames, rfl⟩ := map_ok_iff.mp h
    obtain ⟨hsame, hknown⟩ := checkNetworks_ok hnames d hd
    rw [hsame]
    refine ⟨?_, hknown, fun key hne => Dict.get?_set_ne fun hk => hne (Yaml.str.inj hk).symm⟩
    rw [serviceNetworks, serviceItems_list _ _ _ Dict.get?_set_self]
    exact readAll Yaml.str text (fun _ => rfl) names

theorem networksOf_congr {d d' : Entries}
    (h : Dict.get? d "networks" = Dict.get? d' "networks") : networksOf d = networksOf d' := by
  rw [networksOf, networksOf, h]

/-- **One service**: it was a mapping, and it says what it said. -/
theorem normalizeService_ok {declared : List String} {name : String} {body : Yaml} {out : Entries}
    (h : normalizeService declared name body = .ok out) :
    ∃ d, body = .dict d ∧ Normalizes declared d out := by
  unfold normalizeService at h
  split at h
  swap
  · exact absurd h (bad_ne_ok _ _ _ _ _)
  cases body with
  | dict d =>
    refine ⟨d, rfl, ?_⟩
    obtain ⟨ports, hports, h⟩ := bind_ok_iff.mp h
    obtain ⟨volumes, hvolumes, h⟩ := bind_ok_iff.mp h
    obtain ⟨_, -, h⟩ := bind_ok_iff.mp h
    obtain ⟨hnetworks, hknown, hframe⟩ := setNetworks_ok h
    have hsame : networksOf (setEntries (setEntries d "ports" Port.toYaml ports) "volumes"
        VolumeMount.toYaml volumes) = networksOf d := by
      refine networksOf_congr ?_
      rw [get?_setEntries_ne _ _ _ (by decide), get?_setEntries_ne _ _ _ (by decide)]
    rw [hsame] at hnetworks hknown
    obtain ⟨hmounts, hmodes⟩ := normalizeEntries_declared hvolumes
    refine ⟨⟨ports.getD [], ?_, normalizeEntries_hasPorts hports⟩, ?_, by rwa [hmounts], hnetworks,
      hknown, ?_⟩
    · refine read_setEntries Port.toYaml readPort readPort_toYaml hports out ?_
      rw [hframe _ (by decide), get?_setEntries_ne _ _ _ (by decide)]
    · rw [hmounts]
      refine read_setEntries VolumeMount.toYaml readMount readMount_toYaml hvolumes out ?_
      rw [hframe _ (by decide)]
      unfold setEntries
      split
      · exact get?_setEntries_ne _ _ _ (by decide)
      · rw [Dict.get?_set_self, Dict.get?_set_self]
    · intro key hkey
      have hne : key ≠ "ports" ∧ key ≠ "volumes" ∧ key ≠ "networks" := by
        simpa [managedServiceKeys] using hkey
      rw [hframe key hne.2.2, get?_setEntries_ne _ _ _ hne.2.1.symm,
        get?_setEntries_ne _ _ _ hne.1.symm]
  | _ => exact absurd h (badService_ne_ok _ _ _ _ _)

/-! ## The whole compose -/

theorem requireServices_get {entries raw : Entries} (h : requireServices entries = .ok raw) :
    Dict.get? entries "services" = some (.dict raw) ∧ raw ≠ [] := by
  unfold requireServices at h
  split at h
  · rename_i hget
    cases h
    exact ⟨hget, List.cons_ne_nil _ _⟩
  · exact absurd h (bad_ne_ok _ _ _ _ _)

theorem serviceNames_ok {entries : Entries} {named : List (String × Yaml)}
    (h : serviceNames entries = .ok named) :
    entries = named.map fun s => (.str s.1, s.2) := by
  induction entries generalizing named with
  | nil =>
    cases h
    rfl
  | cons e rest ih =>
    obtain ⟨key, body⟩ := e
    cases key with
    | str name =>
      simp only [serviceNames] at h
      split at h
      · exact absurd h (bad_ne_ok _ _ _ _ _)
      · obtain ⟨named', hrest, rfl⟩ := map_ok_iff.mp h
        rw [ih hrest]
        rfl
    | _ =>
      simp only [serviceNames] at h
      exact absurd h (bad_ne_ok _ _ _ _ _)

theorem normalizeServices_ok {declared : List String} {named : List (String × Yaml)}
    {services : List (String × Entries)} (h : normalizeServices declared named = .ok services) :
    List.Forall₂ (fun s t => s.1 = t.1 ∧ normalizeService declared s.1 s.2 = .ok t.2)
      named services := by
  induction named generalizing services with
  | nil =>
    cases h
    exact .nil
  | cons s rest ih =>
    obtain ⟨d, hd, h⟩ := bind_ok_iff.mp h
    obtain ⟨rest', hrest, h⟩ := bind_ok_iff.mp h
    cases h
    exact .cons ⟨rfl, hd⟩ (ih hrest)

/-- What an accepted compose is: its top level untouched but for the services, and each
service as `Normalizes` says. -/
structure Accepted (entries : Entries) (services : List (String × Entries)) : Prop where
  top : ∃ declared, declaredNetworks entries = .ok declared ∧
    List.Forall₂ (fun raw s => raw.1 = s.1 ∧ Normalizes declared raw.2 s.2)
      (authored entries) services
  names : ∃ raw, Dict.get? entries "services" = some (.dict raw) ∧
    raw.map Prod.fst = services.map fun s => .str s.1

/-- **The pass service by service**: every service is a mapping, and is normalized alone. -/
theorem normalizeCompose_each {compose out : Yaml} {strict : Bool} {extraKeys : Option String}
    (h : normalizeCompose compose strict extraKeys = .ok out) :
    ∃ entries services declared, compose = .dict entries ∧
      out = .dict (Dict.set entries (.str "services") (servicesYaml services)) ∧
      declaredNetworks entries = .ok declared ∧
      List.Forall₂ (fun raw s => raw.1 = s.1 ∧
        normalizeService declared raw.1 (.dict raw.2) = .ok s.2) (authored entries) services ∧
      ∃ raw, Dict.get? entries "services" = some (.dict raw) ∧
        raw.map Prod.fst = services.map fun s => .str s.1 := by
  unfold normalizeCompose at h
  cases compose with
  | dict entries =>
    obtain ⟨_, -, h⟩ := bind_ok_iff.mp h
    obtain ⟨raw, hraw, h⟩ := bind_ok_iff.mp h
    obtain ⟨named, hnamed, h⟩ := bind_ok_iff.mp h
    obtain ⟨declared, hdeclared, h⟩ := bind_ok_iff.mp h
    obtain ⟨services, hservices, h⟩ := bind_ok_iff.mp h
    cases h
    have hget := (requireServices_get hraw).1
    have heach := normalizeServices_ok hservices
    obtain rfl := serviceNames_ok hnamed
    refine ⟨entries, services, declared, rfl, rfl, hdeclared, ?_, _, hget, ?_⟩
    · rw [authored, hget]
      clear * - heach
      induction heach with
      | nil => exact .nil
      | cons hs _ ih =>
        obtain ⟨hname, hnorm⟩ := hs
        obtain ⟨d, hd, -⟩ := normalizeService_ok hnorm
        simp only [List.map_cons, List.filterMap_cons, hd] at ih ⊢
        exact .cons ⟨hname, hd ▸ hnorm⟩ ih
    · clear * - heach
      induction heach with
      | nil => rfl
      | cons hs _ ih =>
        rw [List.map_cons, List.map_cons, List.map_cons, ih, hs.1]
  | _ => exact absurd h (bad_ne_ok _ _ _ _ _)

theorem Accepted.of_each {entries : Entries} {services : List (String × Entries)}
    {declared : List String} (hdeclared : declaredNetworks entries = .ok declared)
    (heach : List.Forall₂ (fun raw s => raw.1 = s.1 ∧
      normalizeService declared raw.1 (.dict raw.2) = .ok s.2) (authored entries) services)
    (hnames : ∃ raw, Dict.get? entries "services" = some (.dict raw) ∧
      raw.map Prod.fst = services.map fun s => .str s.1) : Accepted entries services := by
  refine ⟨⟨declared, hdeclared, heach.imp ?_⟩, hnames⟩
  intro raw s hs
  obtain ⟨d, hd, hnorm⟩ := normalizeService_ok hs.2
  cases hd
  exact ⟨hs.1, hnorm⟩

/-- **An accepted compose says past the pass what it said before.** -/
theorem normalizeCompose_ok {compose out : Yaml} {strict : Bool} {extraKeys : Option String}
    (h : normalizeCompose compose strict extraKeys = .ok out) :
    ∃ entries services, compose = .dict entries ∧
      out = .dict (Dict.set entries (.str "services") (servicesYaml services)) ∧
      Accepted entries services := by
  obtain ⟨entries, services, declared, hcompose, hout, hdeclared, heach, hnames⟩ :=
    normalizeCompose_each h
  exact ⟨entries, services, hcompose, hout, .of_each hdeclared heach hnames⟩

theorem servicesOf_set (entries : Entries) (services : List (String × Entries)) :
    servicesOf (Dict.set entries (.str "services") (servicesYaml services)) = .ok services := by
  rw [servicesOf, Dict.get?_set_self, servicesYaml]
  simp only
  rw [mapM_ok_iff]
  induction services with
  | nil => exact .nil
  | cons s rest ih => exact .cons rfl ih

end Greffer.Compose

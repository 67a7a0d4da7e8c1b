import Greffer.Compose.Idempotent
import Greffer.Compose.PortPartition
import Greffer.Compose.Sharing

/-! # The start's steps, in place

`normalize_compose` and the rebuild go over the services by name and change each mapping in place.
**A mapping that several names share is changed once for each of them**: it is normalized again and
again, and everything that the rebuild appends for one of the names stands under all of them.

The first pass over a mapping is the one that a tree gets.  A later pass reads what it wrote, in
the long form, where a mode other than `ro` and `rw` is lost (`Later`).  So what a start collects
from a document is what it collects from a tree that says the same up to these modes
(`normalizeDocument_ok`), and a rebuilt service has what the info has for all the names of its
mapping (`createDocumentTemplate_ok`).
-/
namespace Greffer.Compose

/-! ## The normalization -/

section InPlace
variable (objects : Objects)

/-- Two names of one mapping. -/
def Objects.oneService (a b : String) : Bool :=
  objects.service (.str a) == objects.service (.str b)

/-- `service_def[key] = …`, as every name of the mapping sees it. -/
def putService (name : String) (d : Entries) (services : List (String × Yaml)) :
    List (String × Yaml) :=
  services.map fun s => if objects.oneService s.1 name then (s.1, .dict d) else s

/-- The loop over the services, by name. -/
def normalizeInPlace (declared : List String) :
    List String → List (String × Yaml) → Except ComposeError (List (String × Yaml))
  | [], services => .ok services
  | name :: rest, services => do
    let d ← normalizeService declared name ((services.lookup name).getD .null)
    normalizeInPlace declared rest (putService objects name d services)

end InPlace

/-- `normalize_compose`. -/
def normalizeDocument (document : Document) (strict : Bool) (extraKeys : Option String) :
    Except ComposeError Yaml :=
  match document.tree with
  | .dict entries => do
    validateKeys entries strict extraKeys
    let services ← requireServices entries
    let services ← serviceNames services
    let declared ← declaredNetworks entries
    let services ←
      normalizeInPlace document.objects declared (services.map Prod.fst) services
    return .dict (Dict.set entries (.str "services")
      (.dict (services.map fun s => (.str s.1, s.2))))
  | tree => bad none (.str "compose") "top level must be a mapping" (some tree)

/-- `create_greffon_info`. -/
def createDocumentInfo (greffonPath : String) (document : Document) (greffon : Greffon)
    (strict : Bool) (extraKeys : Option String) : Except ComposeError (GreffonInfo × Entries) := do
  match ← normalizeDocument document strict extraKeys with
  | .dict entries =>
    let info ← builtin (collectInfo greffonPath entries greffon)
    return (info, entries)
  | _ => builtin (.error (.typeError "not a mapping"))

/-! ## One more pass -/

/-- What a service says when a later pass comes to it. -/
structure Later (raw before : Entries) : Prop where
  mounts : declaredMounts before = (declaredMounts raw).map reread
  targets : declaredTargets before = declaredTargets raw
  hasPorts : hasPorts before = hasPorts raw
  networks : networksOf before = networksOf raw
  others : ∀ key ∉ managedServiceKeys, Dict.get? before key = Dict.get? raw key

theorem reread_reread (m : VolumeMount) : reread (reread m) = reread m := by
  rw [reread_eq_iff]
  intro mode hmode
  simpa using (Option.filter_eq_some_iff.mp hmode).2

theorem Later.trans {raw before after : Entries} (h : Later raw before) (h' : Later before after) :
    Later raw after where
  mounts := by
    rw [h'.mounts, h.mounts, List.map_map]
    exact List.map_congr_left fun m _ => reread_reread m
  targets := h'.targets.trans h.targets
  hasPorts := h'.hasPorts.trans h.hasPorts
  networks := h'.networks.trans h.networks
  others key hkey := (h'.others key hkey).trans (h.others key hkey)

/-- What the entries under a key declare once they are normalized. -/
theorem declared_later {β γ : Type} {d out : Entries} {name key : String}
    {normalizer : Yaml → String → Except ComposeError β} {r : Option (List β)} {toYaml : β → Yaml}
    {declared : Yaml → Option γ} {f : β → γ} (hone : ∀ b, declared (toYaml b) = some (f b))
    (h : normalizeEntries d name key normalizer = .ok r)
    (hout : Dict.get? out key = Dict.get? (setEntries d key toYaml r) key) :
    (match Dict.get? out key with
      | some (.list items) => items.filterMap declared
      | _ => []) = (r.getD []).map f := by
  rw [hout]
  rcases normalizeEntries_ok h with ⟨rfl, hd | hd⟩ | ⟨items, bs, rfl, -, -⟩
  · rw [setEntries, hd]
    rfl
  · rw [setEntries, hd]
    rfl
  · rw [setEntries, Dict.get?_set_self]
    dsimp only
    rw [List.filterMap_map, Option.getD_some, ← List.filterMap_eq_map]
    exact List.filterMap_congr fun b _ => hone b

theorem hasPorts_later {d out : Entries} {name : String} {r : Option (List Port)}
    (h : normalizeEntries d name "ports" normalizePort = .ok r)
    (hout : Dict.get? out "ports" = Dict.get? (setEntries d "ports" Port.toYaml r) "ports") :
    hasPorts out = hasPorts d := by
  have hd := normalizeEntries_hasPorts h
  rw [eq_comm, Bool.not_eq_eq_eq_not] at hd
  rw [hd, hasPorts, hout]
  rcases normalizeEntries_ok h with ⟨rfl, hnone | hnone⟩ | ⟨items, bs, rfl, -, -⟩
  · rw [setEntries, hnone]
    rfl
  · rw [setEntries, hnone]
    rfl
  · rw [setEntries, Dict.get?_set_self]
    cases bs <;> rfl

theorem networksOf_later {declared : List String} {name : String} {d out : Entries}
    (h : setNetworks declared name d = .ok out) : networksOf out = networksOf d := by
  have hread := (setNetworks_ok h).1
  have hagain := (setNetworks_ok (setNetworks_again h)).1
  exact Except.ok.inj (hagain.symm.trans hread)

/-- **What a pass leaves** says what it came to, but for the modes that are not read back. -/
theorem normalizeService_later {declared : List String} {name : String} {d out : Entries}
    (h : normalizeService declared name (.dict d) = .ok out) : Later d out := by
  obtain ⟨d', hd, hsays⟩ := normalizeService_ok h
  cases hd
  unfold normalizeService at h
  split at h
  case isFalse => exact absurd h (bad_ne_ok _ _ _ _ _)
  case isTrue =>
    obtain ⟨ports, hports, h⟩ := bind_ok_iff.mp h
    obtain ⟨volumes, hvolumes, h⟩ := bind_ok_iff.mp h
    obtain ⟨_, -, h⟩ := bind_ok_iff.mp h
    obtain ⟨-, -, hframe⟩ := setNetworks_ok h
    have hgetPorts : Dict.get? out "ports" =
        Dict.get? (setEntries d "ports" Port.toYaml ports) "ports" := by
      rw [hframe _ (by decide), get?_setEntries_ne _ _ _ (by decide)]
    have hgetVolumes : Dict.get? out "volumes" =
        Dict.get? (setEntries d "volumes" VolumeMount.toYaml volumes) "volumes" := by
      rw [hframe _ (by decide)]
      cases volumes with
      | none => exact get?_setEntries_ne d Port.toYaml ports (show "ports" ≠ "volumes" by decide)
      | some mounts => rw [setEntries, setEntries, Dict.get?_set_self, Dict.get?_set_self]
    have hnetworks := networksOf_later h
    refine ⟨?_, ?_, hasPorts_later hports hgetPorts, ?_, hsays.others⟩
    · rw [(normalizeEntries_declared hvolumes).1]
      exact declared_later declaredMount_toYaml hvolumes hgetVolumes
    · rw [← (normalizeEntries_targets hports).1]
      exact declared_later (fun _ => rfl) hports hgetPorts
    · rw [hnetworks]
      refine networksOf_congr ?_
      rw [get?_setEntries_ne _ _ _ (by decide), get?_setEntries_ne _ _ _ (by decide)]

/-! ## The loop -/

section Loop
variable {objects : Objects} {declared : List String}

/-- What so many passes leave of a service. -/
inductive Passed (declared : List String) (raw : Yaml) : Nat → Yaml → Prop
  | none : Passed declared raw 0 raw
  | pass {passes : Nat} {before : Yaml} {name : String} {d : Entries}
      (h : Passed declared raw passes before)
      (hd : normalizeService declared name before = .ok d) : Passed declared raw (passes + 1) (.dict d)

/-- The names of one mapping. -/
def Objects.names (objects : Objects) (names : List String) (name : String) : List String :=
  names.filter fun n => objects.oneService n name

/-- One mapping reads the same under all its names. -/
def OneMapping (objects : Objects) (services : List (String × Yaml)) : Prop :=
  ∀ s ∈ services, ∀ t ∈ services, objects.oneService s.1 t.1 = true → s.2 = t.2

theorem Objects.oneService_self (a : String) : objects.oneService a a = true := beq_self_eq_true _

theorem Objects.oneService_comm (a b : String) :
    objects.oneService a b = objects.oneService b a := by
  rw [Bool.eq_iff_iff, oneService, oneService, beq_iff_eq, beq_iff_eq]
  exact eq_comm

theorem Objects.oneService_congr {a b : String} (h : objects.oneService a b = true) (c : String) :
    objects.oneService a c = objects.oneService b c := by
  rw [oneService, beq_iff_eq] at h
  rw [oneService, oneService, h]

theorem OneMapping.put {services : List (String × Yaml)} (h : OneMapping objects services)
    (name : String) (d : Entries) : OneMapping objects (putService objects name d services) := by
  have hfst : ∀ s : String × Yaml,
      (if objects.oneService s.1 name then (s.1, Yaml.dict d) else s).1 = s.1 := by
    intro s
    split <;> rfl
  intro s' hs' t' ht' hone
  obtain ⟨s, hs, rfl⟩ := List.mem_map.mp hs'
  obtain ⟨t, ht, rfl⟩ := List.mem_map.mp ht'
  rw [hfst, hfst] at hone
  rw [objects.oneService_congr hone]
  split
  · rfl
  · exact h s hs t ht hone

/-- **Every name is one more pass** over its mapping. -/
theorem normalizeInPlace_passed {names : List String} {services out : List (String × Yaml)}
    (hone : OneMapping objects services)
    (h : normalizeInPlace objects declared names services = .ok out) :
    List.Forall₂ (fun s t => s.1 = t.1 ∧ ∀ raw passes, Passed declared raw passes s.2 →
      Passed declared raw (passes + (objects.names names s.1).length) t.2) services out := by
  induction names generalizing services with
  | nil =>
    cases h
    exact List.forall₂_same.mpr fun s _ => ⟨rfl, fun raw passes hs => hs⟩
  | cons name rest ih =>
    obtain ⟨d, hd, h⟩ := bind_ok_iff.mp h
    have hrest := ih (hone.put name d) h
    rw [putService, List.forall₂_map_left_iff] at hrest
    -- the mapping that is normalized is the one that its other names have
    obtain ⟨body, hbody⟩ : ∃ body, services.lookup name = some body := by
      cases hlookup : services.lookup name with
      | none =>
        rw [hlookup] at hd
        obtain ⟨d', hnull, -⟩ := normalizeService_ok hd
        cases hnull
      | some body => exact ⟨body, rfl⟩
    rw [hbody, Option.getD_some] at hd
    have hmem := mem_of_lookup hbody
    have hwith := (List.forall₂_and_left (p := (· ∈ services)) services out).mpr
      ⟨fun s hs => hs, hrest⟩
    refine hwith.imp fun s t hst => ?_
    obtain ⟨hs, hname, hpassed⟩ := hst
    by_cases hshared : objects.oneService s.1 name = true
    · rw [if_pos hshared] at hname hpassed
      refine ⟨hname, fun raw passes hraw => ?_⟩
      have hsame : s.2 = body := hone s hs _ hmem hshared
      have hcount : objects.names (name :: rest) s.1 = name :: objects.names rest s.1 :=
        List.filter_cons_of_pos ((objects.oneService_comm name s.1).trans hshared)
      have hnext := hpassed raw (passes + 1) (.pass (hsame ▸ hraw) hd)
      rw [hcount, List.length_cons]
      rwa [Nat.add_assoc, Nat.add_comm 1] at hnext
    · rw [if_neg hshared] at hname hpassed
      have hcount : objects.names (name :: rest) s.1 = objects.names rest s.1 :=
        List.filter_cons_of_neg fun h => hshared ((objects.oneService_comm s.1 name).trans h)
      rw [hcount]
      exact ⟨hname, hpassed⟩

/-- What the first pass comes to is the service; what a later one comes to says the same, up to the
modes. -/
theorem Passed.last {raw body : Yaml} {passes : Nat} (h : Passed declared raw (passes + 1) body) :
    ∃ d before name out, raw = .dict d ∧ body = .dict out ∧
      (if passes = 0 then before = d else Later d before) ∧
      normalizeService declared name (.dict before) = .ok out := by
  induction passes generalizing body with
  | zero =>
    obtain _ | ⟨h, hd⟩ := h
    obtain ⟨d, rfl, -⟩ := normalizeService_ok hd
    cases h
    exact ⟨d, d, _, _, rfl, rfl, rfl, hd⟩
  | succ passes ih =>
    obtain _ | ⟨h, hd⟩ := h
    obtain ⟨raw', before, name, out, hraw, rfl, hbefore, hout⟩ := ih h
    refine ⟨raw', out, _, _, hraw, rfl, ?_, hd⟩
    rw [if_neg (Nat.succ_ne_zero passes)]
    have hlater := normalizeService_later hout
    split at hbefore
    · rwa [← hbefore]
    · exact hbefore.trans hlater

/-! ## The whole document -/

/-- A compose with these services. -/
def withServices (entries : Entries) (services : List (String × Entries)) : Entries :=
  Dict.set entries (.str "services") (servicesYaml services)

theorem authored_withServices (entries : Entries) (services : List (String × Entries)) :
    authored (withServices entries services) = services := authored_normalized entries services

theorem mem_servicesIn {entries : Entries} {s : String × Entries} (hs : s ∈ authored entries) :
    (Yaml.str s.1, Yaml.dict s.2) ∈ (servicesIn (.dict entries)).entries := by
  rw [authored] at hs
  rw [servicesIn]
  cases hget : Dict.get? entries "services" with
  | none =>
    rw [hget] at hs
    cases hs
  | some v =>
    rw [hget] at hs
    cases v with
    | dict d =>
      obtain ⟨e, he, hsome⟩ := List.mem_filterMap.mp hs
      split at hsome
      · cases hsome
        exact he
      · cases hsome
    | _ => cases hs

/-- What the last pass over a service comes to: the service, if it is the only one of its mapping,
and what earlier passes have left of it, if it is not. -/
structure ComesTo (objects : Objects) (names : List String) (raw before : String × Entries) :
    Prop where
  name : raw.1 = before.1
  alone : (objects.names names raw.1).length = 1 → before.2 = raw.2
  shared : (objects.names names raw.1).length ≠ 1 → Later raw.2 before.2

theorem names_comesTo {objects : Objects} {names : List String}
    {raws befores : List (String × Entries)}
    (h : List.Forall₂ (ComesTo objects names) raws befores) :
    befores.map Prod.fst = raws.map Prod.fst := by
  induction h with
  | nil => rfl
  | cons hs _ ih => rw [List.map_cons, List.map_cons, ih, hs.name]

/-- A normalized document: what the last passes come to, and what they make of it. -/
structure PassedOver (objects : Objects) (entries : Entries)
    (befores services : List (String × Entries)) : Prop where
  comesTo : List.Forall₂ (ComesTo objects (serviceNamesOf entries)) (authored entries) befores
  passed : ∃ declared, declaredNetworks entries = .ok declared ∧
    List.Forall₂ (fun before s => before.1 = s.1 ∧
      ∃ name, normalizeService declared name (.dict before.2) = .ok s.2) befores services
  names : ∃ raw, Dict.get? entries "services" = some (.dict raw) ∧
    raw.map Prod.fst = services.map fun s => .str s.1

theorem Objects.length_names_pos (objects : Objects) {names : List String} {name : String}
    (h : name ∈ names) : 0 < (objects.names names name).length :=
  List.length_pos_of_mem (List.mem_filter.mpr ⟨h, objects.oneService_self name⟩)

theorem passes_services {names : List String} {named bodies : List (String × Yaml)}
    (hnames : ∀ s ∈ named, s.1 ∈ names)
    (h : List.Forall₂ (fun s t => s.1 = t.1 ∧ ∀ raw passes, Passed declared raw passes s.2 →
      Passed declared raw (passes + (objects.names names s.1).length) t.2) named bodies) :
    ∃ raws befores services : List (String × Entries),
      named = raws.map (fun s => (s.1, .dict s.2)) ∧
      bodies = services.map (fun s => (s.1, .dict s.2)) ∧
      List.Forall₂ (ComesTo objects names) raws befores ∧
      List.Forall₂ (fun before s => before.1 = s.1 ∧
        ∃ name, normalizeService declared name (.dict before.2) = .ok s.2) befores services := by
  induction h with
  | nil => exact ⟨[], [], [], rfl, rfl, .nil, .nil⟩
  | @cons s t named bodies hst _ ih =>
    obtain ⟨hname, hpassed⟩ := hst
    obtain ⟨hmem, hrest⟩ := List.forall_mem_cons.mp hnames
    obtain ⟨raws, befores, services, hraws, hservices, hcomes, hout⟩ := ih hrest
    obtain ⟨passes, hpasses⟩ := Nat.exists_eq_succ_of_ne_zero (objects.length_names_pos hmem).ne'
    have hlast := hpassed s.2 0 .none
    rw [hpasses, Nat.zero_add] at hlast
    obtain ⟨d, before, name, out, hd, ht, hbefore, hok⟩ := hlast.last
    refine ⟨(s.1, d) :: raws, (s.1, before) :: befores, (s.1, out) :: services, ?_, ?_,
      .cons ⟨rfl, fun halone => ?_, fun hshared => ?_⟩ hcomes, .cons ⟨rfl, name, hok⟩ hout⟩
    · rw [List.map_cons, ← hraws, ← hd]
    · rw [List.map_cons, ← hservices, ← ht, hname]
    · rwa [if_pos (Nat.succ.inj (hpasses.symm.trans halone))] at hbefore
    · rwa [if_neg fun hzero => hshared (by rw [hpasses, hzero])] at hbefore

/-- **What a pass over a document leaves.** -/
theorem normalizeDocument_ok {document : Document} {out : Yaml} {strict : Bool}
    {extraKeys : Option String} (h : normalizeDocument document strict extraKeys = .ok out) :
    ∃ entries befores services, document.tree = .dict entries ∧
      out = .dict (withServices entries services) ∧
      PassedOver document.objects entries befores services := by
  obtain ⟨tree, objects, hof⟩ := document
  unfold normalizeDocument at h
  cases tree with
  | dict entries =>
    obtain ⟨_, -, h⟩ := bind_ok_iff.mp h
    obtain ⟨raw, hraw, h⟩ := bind_ok_iff.mp h
    obtain ⟨named, hnamed, h⟩ := bind_ok_iff.mp h
    obtain ⟨declared, hdeclared, h⟩ := bind_ok_iff.mp h
    obtain ⟨bodies, hbodies, h⟩ := bind_ok_iff.mp h
    cases h
    have hget := (requireServices_get hraw).1
    obtain rfl := serviceNames_ok hnamed
    have hone : OneMapping objects named := by
      have hservices : (servicesIn (.dict entries)).entries =
          named.map fun s => (.str s.1, s.2) := by
        rw [servicesIn, hget]
        rfl
      intro s hs t ht hsame
      refine hof.service (.str s.1, s.2) ?_ (.str t.1, t.2) ?_ (beq_iff_eq.mp hsame)
      · rw [hservices]
        exact List.mem_map_of_mem hs
      · rw [hservices]
        exact List.mem_map_of_mem ht
    obtain ⟨raws, befores, services, rfl, rfl, hcomes, hout⟩ := passes_services
      (fun s hs => List.mem_map_of_mem hs) (normalizeInPlace_passed hone hbodies)
    have hauthored : authored entries = raws := by
      rw [authored, hget]
      dsimp only
      rw [List.filterMap_map, List.filterMap_map]
      exact List.filterMap_some
    have hnames : (raws.map fun s => (s.1, Yaml.dict s.2)).map Prod.fst = serviceNamesOf entries := by
      rw [serviceNamesOf, hauthored, List.map_map]
      rfl
    rw [hnames] at hcomes
    refine ⟨entries, befores, services, rfl, ?_, ?_, ⟨declared, hdeclared, hout⟩, _, hget, ?_⟩
    · rw [withServices, servicesYaml, List.map_map]
      rfl
    · rwa [hauthored]
    · rw [List.map_map, List.map_map]
      clear * - hcomes hout
      induction hcomes generalizing services with
      | nil =>
        cases hout
        rfl
      | cons hr _ ih =>
        obtain _ | ⟨hs, hrest⟩ := hout
        rw [List.map_cons, List.map_cons, ih _ hrest]
        simp [hr.name, hs.1]
  | _ => exact absurd h (bad_ne_ok _ _ _ _ _)

end Loop

/-! ## The document as a tree -/

namespace PassedOver
variable {objects : Objects} {entries : Entries} {befores services : List (String × Entries)}

/-- **The document, normalized, is a tree, normalized**: the one that the last passes come to. -/
theorem accepted (h : PassedOver objects entries befores services) :
    Accepted (withServices entries befores) services := by
  obtain ⟨declared, hdeclared, hout⟩ := h.passed
  refine ⟨⟨declared, ?_, ?_⟩, befores.map (fun s => (Yaml.str s.1, Yaml.dict s.2)), ?_, ?_⟩
  · rw [← hdeclared, declaredNetworks, declaredNetworks, withServices,
      get?_normalized _ _ (show "networks" ≠ "services" by decide)]
  · rw [authored_withServices]
    refine hout.imp fun before s hs => ⟨hs.1, ?_⟩
    obtain ⟨name, hname⟩ := hs.2
    obtain ⟨d, hd, hnormalizes⟩ := normalizeService_ok hname
    cases hd
    exact hnormalizes
  · exact Dict.get?_set_self
  · rw [List.map_map]
    clear * - hout
    induction hout with
    | nil => rfl
    | cons hs _ ih =>
      rw [List.map_cons, List.map_cons, ih]
      simp [hs.1]

theorem names_eq (h : PassedOver objects entries befores services) :
    befores.map Prod.fst = serviceNamesOf entries := names_comesTo h.comesTo

theorem set_services : withServices (withServices entries befores) services =
    withServices entries services := Dict.set_set _ _ _ _

end PassedOver

section Collected
variable {greffonPath : String} {greffon : Greffon} {document : Document} {strict : Bool}
  {extraKeys : Option String}

theorem topVolumes_withServices (entries : Entries) (services : List (String × Entries)) :
    topVolumes (withServices entries services) = topVolumes entries := by
  rw [topVolumes, topVolumes, declaredVolumes, declaredVolumes, withServices,
    get?_normalized _ _ (show "volumes" ≠ "services" by decide)]

/-- Earlier passes make no difference to what can be collected. -/
theorem PassedOver.collectable_iff {objects : Objects} {entries : Entries}
    {befores services : List (String × Entries)} (h : PassedOver objects entries befores services) :
    Collectable (withServices entries befores) ↔ Collectable entries := by
  have hstreams : (∀ s ∈ befores, Streams s.2) ↔ ∀ s ∈ authored entries, Streams s.2 := by
    have hcomes := h.comesTo
    generalize serviceNamesOf entries = names at hcomes
    generalize authored entries = raws at hcomes
    clear h
    induction hcomes with
    | nil => exact Iff.rfl
    | @cons raw before raws befores hs _ ih =>
      have hone : Streams before.2 ↔ Streams raw.2 := by
        by_cases halone : (objects.names names raw.1).length = 1
        · rw [hs.alone halone]
        · have hlater := hs.shared halone
          have hlabel : streamingLabel before.2 = streamingLabel raw.2 := by
            rw [streamingLabel, streamingLabel, hlater.others "labels" (by decide)]
          rw [Streams, Streams, hlater.hasPorts, serviceStreaming, serviceStreaming, hlabel]
      rw [List.forall_mem_cons, List.forall_mem_cons]
      exact and_congr hone ih
  have hvolumes : declaredVolumes (withServices entries befores) = declaredVolumes entries := by
    rw [declaredVolumes, declaredVolumes, withServices,
      get?_normalized _ _ (show "volumes" ≠ "services" by decide)]
  have hnetworks : topNetworkNames (withServices entries befores) = topNetworkNames entries := by
    rw [topNetworkNames, topNetworkNames, withServices,
      get?_normalized _ _ (show "networks" ≠ "services" by decide)]
  constructor
  · rintro ⟨hv, hn, hs⟩
    rw [hvolumes] at hv
    rw [hnetworks] at hn
    rw [authored_withServices] at hs
    exact ⟨hv, hn, hstreams.mp hs⟩
  · rintro ⟨hv, hn, hs⟩
    refine ⟨?_, ?_, ?_⟩
    · rwa [hvolumes]
    · rwa [hnetworks]
    · rw [authored_withServices]
      exact hstreams.mpr hs

/-- **What is collected from a document** is what is collected from the tree that its last passes
come to. -/
theorem createDocumentInfo_ok {info : GreffonInfo} {normalized : Entries}
    (h : createDocumentInfo greffonPath document greffon strict extraKeys = .ok (info, normalized)) :
    ∃ entries befores services, document.tree = .dict entries ∧
      PassedOver document.objects entries befores services ∧
      normalized = withServices entries services ∧
      collectInfo greffonPath (withServices (withServices entries befores) services) greffon =
        .ok info := by
  obtain ⟨out, hout, h⟩ := bind_ok_iff.mp h
  obtain ⟨entries, befores, services, htree, rfl, hpassed⟩ := normalizeDocument_ok hout
  obtain ⟨info', hinfo, h⟩ := bind_ok_iff.mp h
  cases h
  refine ⟨entries, befores, services, htree, hpassed, rfl, ?_⟩
  rw [PassedOver.set_services]
  exact builtin_ok_iff.mp hinfo

/-- **What the normalization accepts is collected** if and only if it is collectable. -/
theorem createDocumentInfo_ok_iff {out : Yaml}
    (h : normalizeDocument document strict extraKeys = .ok out) :
    (∃ info normalized, createDocumentInfo greffonPath document greffon strict extraKeys =
      .ok (info, normalized)) ↔ Collectable document.tree.entries := by
  obtain ⟨entries, befores, services, htree, rfl, hpassed⟩ := normalizeDocument_ok h
  have hcollect := @collectInfo_ok_iff greffonPath greffon _ _ hpassed.accepted
  rw [htree, Yaml.entries, ← hpassed.collectable_iff, ← hcollect, ← withServices,
    PassedOver.set_services, createDocumentInfo, h, ok_bind]
  simp only
  constructor
  · rintro ⟨info, normalized, hok⟩
    obtain ⟨info', hinfo, -⟩ := bind_ok_iff.mp hok
    exact ⟨info', builtin_ok_iff.mp hinfo⟩
  · rintro ⟨info, hinfo⟩
    rw [hinfo]
    exact ⟨info, _, rfl⟩

end Collected

/-! ## The rebuild -/

section Rebuild
variable (objects : Objects)

/-- Two names of one mapping of the rebuilt compose, where the sidecar has a mapping of its own. -/
def Objects.oneRebuilt (a b : String) : Bool :=
  a == b || a != nginxService && b != nginxService && objects.oneService a b

/-- `compose['services'][name][key].append(item)`, for each name and item in turn, as every name of
the mapping sees it. -/
def appendInPlace (key : String) :
    List (String × Yaml) → List (String × Entries) → Except Exn (List (String × Entries))
  | [], services => .ok services
  | (name, item) :: rest, services =>
    if services.any fun s => s.1 == name then
      appendInPlace key rest <| services.map fun s =>
        if objects.oneRebuilt s.1 name then (s.1, appendItem key s.2 item) else s
    else .error (.exception ("KeyError: '" ++ name ++ "'"))

/-- The services of the rebuilt compose. -/
def rebuildInPlace (services : List (String × Entries)) (info : GreffonInfo) (l4BindHost : String) :
    Except Exn (List (String × Entries)) := do
  let services ← appendInPlace objects "ports" (l4Mappings info l4BindHost)
    (bareServices services info)
  let services ← appendInPlace objects "volumes" (volumeMappings info) services
  let services ← appendInPlace objects "networks" (networkMemberships info) services
  renameServices info.services services []

/-- `create_compose_template_from_greffon`.  To reset a mapping twice is to reset it once. -/
def createDocumentTemplate (compose : Entries) (info : GreffonInfo) (l4BindHost : String) :
    Except Exn Entries := do
  let services ← servicesOf compose
  let services ← rebuildInPlace objects services info l4BindHost
  return Dict.set (Dict.set (Dict.set compose (.str "volumes") (.dict (rebuiltVolumes info)))
    (.str "networks") (.dict (rebuiltNetworks info))) (.str "services") (servicesYaml services)

/-- The items for the mapping of a service, in their order. -/
def itemsForMapping (pairs : List (String × Yaml)) (name : String) : List Yaml :=
  (pairs.filter fun p => objects.oneRebuilt name p.1).map Prod.snd

/-- **Appending item after item** gives each mapping the items for all its names, and fails only on
a name that is no service's. -/
theorem appendInPlace_ok (key : String) (pairs : List (String × Yaml))
    (services : List (String × Entries)) (h : ∀ p ∈ pairs, p.1 ∈ services.map Prod.fst) :
    appendInPlace objects key pairs services = .ok (services.map fun s =>
      (s.1, (itemsForMapping objects pairs s.1).foldl (appendItem key) s.2)) := by
  induction pairs generalizing services with
  | nil => simp [appendInPlace, itemsForMapping]
  | cons p rest ih =>
    obtain ⟨name, item⟩ := p
    have hany : (services.any fun s => s.1 == name) = true := by
      obtain ⟨s, hs, hname⟩ := List.mem_map.mp (h _ List.mem_cons_self)
      exact List.any_eq_true.mpr ⟨s, hs, beq_iff_eq.mpr hname⟩
    have hfst : ∀ s : String × Entries,
        (if objects.oneRebuilt s.1 name then (s.1, appendItem key s.2 item) else s).1 = s.1 := by
      intro s
      split <;> rfl
    rw [appendInPlace, if_pos hany, ih]
    · rw [List.map_map]
      refine congrArg Except.ok (List.map_congr_left fun s _ => ?_)
      rw [Function.comp_apply, hfst]
      by_cases hs : objects.oneRebuilt s.1 name = true
      · simp [hs, itemsForMapping]
      · simp [hs, itemsForMapping]
    · intro p hp
      obtain ⟨s, hs, hname⟩ := List.mem_map.mp (h p (List.mem_cons_of_mem _ hp))
      rw [List.map_map]
      exact List.mem_map.mpr ⟨s, hs, (hfst s).trans hname⟩

/-- A service with everything that the info has for its mapping. -/
def furnishedInPlace (info : GreffonInfo) (l4BindHost : String) (s : String × Entries) :
    String × Entries :=
  (s.1, (itemsForMapping objects (networkMemberships info) s.1).foldl (appendItem "networks")
    ((itemsForMapping objects (volumeMappings info) s.1).foldl (appendItem "volumes")
      ((itemsForMapping objects (l4Mappings info l4BindHost) s.1).foldl (appendItem "ports") s.2)))

theorem itemsAt_volumes_inPlace (info : GreffonInfo) (l4BindHost : String) (s : String × Entries) :
    itemsAt (furnishedInPlace objects info l4BindHost s).2 "volumes" =
      itemsAt s.2 "volumes" ++ itemsForMapping objects (volumeMappings info) s.1 := by
  rw [furnishedInPlace, itemsAt_foldl_ne (by decide), itemsAt_foldl_self,
    itemsAt_foldl_ne (by decide)]

theorem itemsAt_ports_inPlace (info : GreffonInfo) (l4BindHost : String) (s : String × Entries) :
    itemsAt (furnishedInPlace objects info l4BindHost s).2 "ports" =
      itemsAt s.2 "ports" ++ itemsForMapping objects (l4Mappings info l4BindHost) s.1 := by
  rw [furnishedInPlace, itemsAt_foldl_ne (by decide), itemsAt_foldl_ne (by decide),
    itemsAt_foldl_self]

theorem map_fst_inPlace (info : GreffonInfo) (l4BindHost : String)
    (services : List (String × Entries)) :
    (services.map (furnishedInPlace objects info l4BindHost)).map Prod.fst =
      services.map Prod.fst := by
  rw [List.map_map]
  rfl

end Rebuild

/-- What a start makes of a document: the info that it collects, from the tree that the last passes
come to, and the services of the rebuilt compose. -/
structure RebuiltInPlace (greffonPath : String) (greffon : Greffon) (objects : Objects)
    (entries : Entries) (befores : List (String × Entries)) (info : GreffonInfo)
    (l4BindHost : String) (services : List (String × Entries)) : Prop where
  comesTo : List.Forall₂ (ComesTo objects (serviceNamesOf entries)) (authored entries) befores
  accepted : ∃ normal, Accepted (withServices entries befores) normal
  collected : Collected greffonPath greffon (withServices entries befores) info
  nodup : (serviceNamesOf entries).Nodup
  services : ∃ bare : List (String × Entries), bare.map Prod.fst = serviceNamesOf entries ∧
    services = (bareServices bare info).map (furnishedInPlace objects info l4BindHost)

theorem RebuiltInPlace.names_eq {greffonPath : String} {greffon : Greffon} {objects : Objects}
    {entries : Entries} {befores : List (String × Entries)} {info : GreffonInfo}
    {l4BindHost : String} {services : List (String × Entries)}
    (h : RebuiltInPlace greffonPath greffon objects entries befores info l4BindHost services) :
    befores.map Prod.fst = serviceNamesOf entries := names_comesTo h.comesTo

section
variable {greffonPath : String} {greffon : Greffon} {document : Document} {strict : Bool}
  {extraKeys : Option String} {info : GreffonInfo} {normalized : Entries}

/-- The services of a document that has been loaded have distinct names. -/
theorem PassedOver.nodup {objects : Objects} {entries : Entries}
    {befores services : List (String × Entries)} (h : PassedOver objects entries befores services)
    (hloaded : (Yaml.dict entries).WellFormed) : (serviceNamesOf entries).Nodup := by
  obtain ⟨raw, hget, hkeys⟩ := h.names
  have hsame : serviceNamesOf (withServices entries befores) = serviceNamesOf entries := by
    rw [serviceNamesOf, authored_withServices, h.names_eq]
  have hnames : services.map Prod.fst = serviceNamesOf entries :=
    h.accepted.names_eq.trans hsame
  rw [← hnames]
  refine nodup_of_loaded hloaded hget ?_
  rw [hkeys, List.map_map]
  rfl

/-- **A collected document is rebuilt.** -/
theorem createDocumentTemplate_ok (hloaded : document.tree.WellFormed)
    (h : createDocumentInfo greffonPath document greffon strict extraKeys = .ok (info, normalized))
    (l4BindHost : String) :
    ∃ befores rebuilt services,
      createDocumentTemplate document.objects normalized info l4BindHost = .ok rebuilt ∧
      servicesOf rebuilt = .ok services ∧
      RebuiltInPlace greffonPath greffon document.objects document.tree.entries befores info
        l4BindHost services := by
  obtain ⟨entries, befores, bare, htree, hpassed, rfl, hinfo⟩ := createDocumentInfo_ok h
  rw [htree] at hloaded
  have hcollected := (collectInfo_ok hpassed.accepted hinfo).1
  have hnodup := hpassed.nodup hloaded
  have hsame : serviceNamesOf (withServices entries befores) = serviceNamesOf entries := by
    rw [serviceNamesOf, authored_withServices, hpassed.names_eq]
  have hbare : bare.map Prod.fst = serviceNamesOf entries :=
    hpassed.accepted.names_eq.trans hsame
  have hknown : ∀ p : String × Yaml, p ∈ l4Mappings info l4BindHost ∨ p ∈ volumeMappings info ∨
      p ∈ networkMemberships info → p.1 ∈ (bareServices bare info).map Prod.fst := by
    intro p hp
    rw [mem_names_bareServices, hbare, ← hsame]
    exact hcollected.known l4BindHost hp
  have hrebuild : rebuildInPlace document.objects bare info l4BindHost =
      .ok ((bareServices bare info).map (furnishedInPlace document.objects info l4BindHost)) := by
    unfold rebuildInPlace
    rw [appendInPlace_ok _ _ _ _ fun p hp => hknown p (.inl hp), ok_bind, appendInPlace_ok, ok_bind,
      appendInPlace_ok, ok_bind, List.map_map, List.map_map]
    · refine hcollected.renamed (hsame ▸ hnodup) (hbare.trans hsame.symm) ?_
      rw [List.map_map]
      rfl
    · intro p hp
      rw [List.map_map, List.map_map]
      exact hknown p (.inr (.inr hp))
    · intro p hp
      rw [List.map_map]
      exact hknown p (.inr (.inl hp))
  unfold createDocumentTemplate
  rw [withServices, servicesOf_set, ok_bind, hrebuild, ok_bind]
  refine ⟨befores, _, _, rfl, servicesOf_set _ _, ?_⟩
  rw [htree]
  exact ⟨hpassed.comesTo, ⟨bare, hpassed.accepted⟩, hcollected, hnodup, bare, hbare, rfl⟩

end

/-! ## Where nothing is shared -/

/-- Every service has a mapping of its own. -/
def Objects.Alone (objects : Objects) (services : Entries) : Prop :=
  ∀ s ∈ services, ∀ t ∈ services, objects.service s.1 = objects.service t.1 → s.1 = t.1

section Alone
variable {objects : Objects}

theorem putService_alone {name : String} {body : Yaml} {d : Entries}
    {done rest : List (String × Yaml)}
    (halone : ∀ s ∈ done ++ rest, objects.oneService s.1 name = false) :
    putService objects name d (done ++ (name, body) :: rest) = done ++ (name, .dict d) :: rest := by
  have hsame : ∀ part : List (String × Yaml), (∀ s ∈ part, s ∈ done ++ rest) →
      (part.map fun s => if objects.oneService s.1 name then (s.1, Yaml.dict d) else s) = part := by
    intro part hpart
    refine (List.map_congr_left fun s hs => ?_).trans (List.map_id part)
    rw [halone s (hpart s hs)]
    rfl
  rw [putService, List.map_append, List.map_cons, hsame done fun _ => List.mem_append_left _,
    hsame rest fun _ => List.mem_append_right _, if_pos (objects.oneService_self name)]

/-- **Each service is normalized once**, if none shares its mapping. -/
theorem normalizeInPlace_alone (objects : Objects) (declared : List String)
    (done rest : List (String × Yaml))
    (hnodup : ((done ++ rest).map Prod.fst).Nodup)
    (halone : ∀ s ∈ done ++ rest, ∀ t ∈ done ++ rest,
      objects.oneService s.1 t.1 = true → s.1 = t.1) :
    normalizeInPlace objects declared (rest.map Prod.fst) (done ++ rest) =
      (normalizeServices declared rest).map fun out =>
        done ++ out.map fun s => (s.1, .dict s.2) := by
  induction rest generalizing done with
  | nil => rfl
  | cons s rest ih =>
    obtain ⟨name, body⟩ := s
    have hbody : (done ++ (name, body) :: rest).lookup name = some body :=
      lookup_entry hnodup (List.mem_append_right _ List.mem_cons_self)
    rw [List.map_cons, normalizeInPlace, hbody, Option.getD_some, normalizeServices]
    cases normalizeService declared name body with
    | error e => rfl
    | ok d =>
      have hother : ∀ s ∈ done ++ rest, objects.oneService s.1 name = false := by
        intro s hs
        rw [Bool.eq_false_iff]
        intro hone
        have hmem : s ∈ done ++ (name, body) :: rest := by
          rw [List.mem_append, List.mem_cons]
          exact (List.mem_append.mp hs).imp_right .inr
        have heq := halone s hmem (name, body)
          (List.mem_append_right _ List.mem_cons_self) hone
        rw [List.map_append, List.map_cons] at hnodup
        have hfresh := (List.nodup_middle.mp hnodup)
        rw [← List.map_append, List.nodup_cons] at hfresh
        exact hfresh.1 (List.mem_map.mpr ⟨s, hs, heq⟩)
      have hkeys : ((done ++ [(name, Yaml.dict d)]) ++ rest).map Prod.fst =
          (done ++ (name, body) :: rest).map Prod.fst := by
        simp
      have hnext := ih (done ++ [(name, .dict d)]) (hkeys ▸ hnodup) (by
        intro s hs t ht
        have hname : ∀ s ∈ (done ++ [(name, Yaml.dict d)]) ++ rest,
            ∃ s' ∈ done ++ (name, body) :: rest, s'.1 = s.1 := by
          intro s hs
          have hmem := List.mem_map_of_mem (f := Prod.fst) hs
          rw [hkeys] at hmem
          exact List.mem_map.mp hmem
        obtain ⟨s', hs', hs⟩ := hname s hs
        obtain ⟨t', ht', ht⟩ := hname t ht
        rw [← hs, ← ht]
        exact halone s' hs' t' ht')
      rw [ok_bind, ok_bind, putService_alone hother]
      rw [List.append_assoc, List.singleton_append] at hnext
      rw [hnext]
      cases normalizeServices declared rest with
      | error e => rfl
      | ok out =>
        simp only [ok_bind, Except.map, List.append_assoc]
        rfl

/-- **A compose without aliases** is normalized as the tree that it is. -/
theorem normalizeDocument_alone {document : Document} (hloaded : document.tree.WellFormed)
    (halone : document.objects.Alone (servicesIn document.tree).entries) (strict : Bool)
    (extraKeys : Option String) :
    normalizeDocument document strict extraKeys =
      normalizeCompose document.tree strict extraKeys := by
  obtain ⟨tree, objects, hof⟩ := document
  unfold normalizeDocument normalizeCompose
  cases tree with
  | dict entries =>
    dsimp only
    refine congrArg _ (funext fun _ => ?_)
    cases hraw : requireServices entries with
    | error e => rfl
    | ok raw =>
      rw [ok_bind, ok_bind]
      cases hnamed : serviceNames raw with
      | error e => rfl
      | ok named =>
        rw [ok_bind, ok_bind]
        refine congrArg _ (funext fun declared => ?_)
        have hget := (requireServices_get hraw).1
        obtain rfl := serviceNames_ok hnamed
        have hservices : (servicesIn (.dict entries)).entries =
            named.map fun s => (.str s.1, s.2) := by
          rw [servicesIn, hget]
          rfl
        have hnodup : (named.map Prod.fst).Nodup := by
          refine nodup_of_loaded hloaded hget ?_
          rw [List.map_map, List.map_map]
          rfl
        have hrun := normalizeInPlace_alone objects declared [] named hnodup (by
          intro s hs t ht hone
          have heq := halone (.str s.1, s.2) (hservices ▸ List.mem_map_of_mem hs)
            (.str t.1, t.2) (hservices ▸ List.mem_map_of_mem ht) (beq_iff_eq.mp hone)
          exact Yaml.str.inj heq)
        rw [List.nil_append] at hrun
        rw [hrun]
        cases normalizeServices declared named with
        | error e => rfl
        | ok out =>
          rw [Except.map, ok_bind, ok_bind, servicesYaml, List.nil_append, List.map_map]
          rfl
  | _ => rfl

theorem createDocumentInfo_alone {document : Document} (hloaded : document.tree.WellFormed)
    (halone : document.objects.Alone (servicesIn document.tree).entries) (greffonPath : String)
    (greffon : Greffon) (strict : Bool) (extraKeys : Option String) :
    createDocumentInfo greffonPath document greffon strict extraKeys =
      createGreffonInfo greffonPath document.tree greffon strict extraKeys := by
  rewrite [createDocumentInfo, normalizeDocument_alone hloaded halone, createGreffonInfo]
  rfl

theorem names_appendEach {key : String} {pairs : List (String × Yaml)}
    {services out : List (String × Entries)} (h : appendEach key pairs services = .ok out) :
    out.map Prod.fst = services.map Prod.fst := by
  induction pairs generalizing services with
  | nil =>
    cases h
    rfl
  | cons p rest ih =>
    rw [appendEach] at h
    split at h
    · rw [ih h, List.map_map]
      refine List.map_congr_left fun s _ => ?_
      rw [Function.comp_apply]
      split <;> rfl
    · cases h

theorem appendInPlace_alone (key : String) (pairs : List (String × Yaml))
    {services : List (String × Entries)}
    (halone : ∀ a ∈ services.map Prod.fst, ∀ b ∈ services.map Prod.fst,
      objects.oneRebuilt a b = true → a = b) :
    appendInPlace objects key pairs services = appendEach key pairs services := by
  induction pairs generalizing services with
  | nil => rfl
  | cons p rest ih =>
    obtain ⟨name, item⟩ := p
    rw [appendInPlace, appendEach]
    by_cases hany : (services.any fun s => s.1 == name) = true
    · obtain ⟨t, ht, hname⟩ := List.any_eq_true.mp hany
      have hmem : name ∈ services.map Prod.fst := eq_of_beq hname ▸ List.mem_map_of_mem ht
      have hsame : (services.map fun s =>
            if objects.oneRebuilt s.1 name then (s.1, appendItem key s.2 item) else s) =
          services.map fun s => if s.1 = name then (s.1, appendItem key s.2 item) else s := by
        refine List.map_congr_left fun s hs => ?_
        by_cases hs' : s.1 = name
        · rw [if_pos hs', if_pos (by simp [Objects.oneRebuilt, hs'])]
        · rw [if_neg hs', if_neg fun hone =>
            hs' (halone s.1 (List.mem_map_of_mem hs) name hmem hone)]
      have hkeys : (services.map fun s =>
            if s.1 = name then (s.1, appendItem key s.2 item) else s).map Prod.fst =
          services.map Prod.fst := by
        rw [List.map_map]
        refine List.map_congr_left fun s _ => ?_
        rw [Function.comp_apply]
        split <;> rfl
      rw [if_pos hany, if_pos hany, hsame]
      exact ih (hkeys ▸ halone)
    · rw [if_neg hany, if_neg hany]

/-- **It is rebuilt as the tree that it is.** -/
theorem createDocumentTemplate_alone {compose : Entries}
    (halone : ∀ services, servicesOf compose = .ok services → ∀ s ∈ services, ∀ t ∈ services,
      objects.oneService s.1 t.1 = true → s.1 = t.1) (info : GreffonInfo) (l4BindHost : String) :
    createDocumentTemplate objects compose info l4BindHost =
      createComposeTemplate compose info l4BindHost := by
  unfold createDocumentTemplate createComposeTemplate
  cases hservices : servicesOf compose with
  | error e => rfl
  | ok services =>
    have hrebuilt : ∀ a ∈ (bareServices services info).map Prod.fst,
        ∀ b ∈ (bareServices services info).map Prod.fst,
          objects.oneRebuilt a b = true → a = b := by
      intro a ha b hb hone
      by_contra hne
      simp only [Objects.oneRebuilt, beq_eq_false_iff_ne.mpr hne, Bool.false_or, Bool.and_eq_true,
        bne_iff_ne] at hone
      obtain ⟨⟨hna, hnb⟩, hone⟩ := hone
      obtain ⟨s, hs, rfl⟩ := List.mem_map.mp ((mem_names_bareServices.mp ha).resolve_left hna)
      obtain ⟨t, ht, rfl⟩ := List.mem_map.mp ((mem_names_bareServices.mp hb).resolve_left hnb)
      exact hne (halone services hservices s hs t ht hone)
    have hsame : rebuildInPlace objects services info l4BindHost =
        rebuildServices services info l4BindHost := by
      unfold rebuildInPlace rebuildServices
      rw [appendInPlace_alone _ _ hrebuilt]
      cases hports : appendEach "ports" (l4Mappings info l4BindHost)
          (bareServices services info) with
      | error e => rfl
      | ok withPorts =>
        rw [ok_bind, ok_bind]
        rw [← names_appendEach hports] at hrebuilt
        rw [appendInPlace_alone _ _ hrebuilt]
        cases hvolumes : appendEach "volumes" (volumeMappings info) withPorts with
        | error e => rfl
        | ok withVolumes =>
          rw [ok_bind, ok_bind]
          rw [← names_appendEach hvolumes] at hrebuilt
          rw [appendInPlace_alone _ _ hrebuilt]
    rw [ok_bind, ok_bind, hsame]

end Alone

end Greffer.Compose

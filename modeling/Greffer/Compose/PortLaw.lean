import Greffer.Compose.InPlace

/-! # Every port once

The template's two views of the ports and nginx's agree on every compose that shares nothing:
**what the rebuilt services publish is a permutation of one publication for each declared port**,
all distinct, and nginx has one upstream and one server for each proxied port and none for the
others.

Two services of one mapping publish together what each of them declares, so that a port of the
fourth layer is published under both.  That is the only way in which a compose without a service
of the sidecar's name fails (`ports_partitioned_iff`).
-/
namespace Greffer.Compose

/-- The three views agree: every port that the compose declares, with the tier that the
manager sends, is published once and, if it is proxied, served once. -/
structure PortPartition (greffon : Greffon) (entries : Entries) (info : GreffonInfo)
    (l4BindHost : String) (services : List (String × Entries)) : Prop where
  declared : info.ports.map PortInfo.declared =
    (declaredPorts entries).map fun d => (d, sentTier greffon d)
  published : (publications services).Perm (info.ports.zipIdx.map (publication l4BindHost))
  once : (publications services).Nodup
  upstreams : ∀ p ∈ info.ports,
    ((createNginxConf info).upstreams.filter fun u => u.name = p.upstreamName) =
      if p.proxied then [p.upstream] else []
  servers : ∀ p ∈ info.ports,
    ((createNginxConf info).servers.filter fun s => s.proxyPass = p.server.proxyPass) =
      if p.proxied then [p.server] else []
  served : (∀ u ∈ (createNginxConf info).upstreams, ∃ p ∈ info.ports, u = p.upstream) ∧
    ∀ s ∈ (createNginxConf info).servers, ∃ p ∈ info.ports, s = p.server
  names : ((createNginxConf info).upstreams.map Upstream.name).Nodup

/-- **The services of the fourth layer share nothing**: no other name has the mapping of a service
that declares a port of it. -/
def OwnMappings (objects : Objects) (greffon : Greffon) (entries : Entries) : Prop :=
  ∀ d ∈ declaredPorts entries, sentTier greffon d = .str "l4" →
    ∀ name ∈ serviceNamesOf entries, objects.oneService name d.1 = true → name = d.1

/-! ## The declared ports -/

theorem nodup_declaredPorts {entries : Entries} (hnodup : (serviceNamesOf entries).Nodup)
    (heach : ∀ s ∈ authored entries, (declaredTargets s.2).Nodup) :
    (declaredPorts entries).Nodup := by
  rw [declaredPorts, List.nodup_flatMap]
  constructor
  · intro s hs
    exact (heach s hs).map fun t t' heq => (Prod.mk.inj heq).2
  · rw [serviceNamesOf, List.Nodup, List.pairwise_map] at hnodup
    refine hnodup.imp fun hne => ?_
    intro d hd hd'
    obtain ⟨t, -, rfl⟩ := List.mem_map.mp hd
    obtain ⟨t', -, heq⟩ := List.mem_map.mp hd'
    exact hne (Prod.mk.inj heq).1.symm

theorem declaredPorts_comesTo {objects : Objects} {names : List String}
    {raws befores : List (String × Entries)}
    (h : List.Forall₂ (ComesTo objects names) raws befores) :
    (befores.flatMap fun s => (declaredTargets s.2).map fun t => (s.1, t)) =
      raws.flatMap fun s => (declaredTargets s.2).map fun t => (s.1, t) := by
  induction h with
  | nil => rfl
  | @cons raw before _ _ hs _ ih =>
    have htargets : declaredTargets before.2 = declaredTargets raw.2 := by
      by_cases halone : (objects.names names raw.1).length = 1
      · rw [hs.alone halone]
      · exact (hs.shared halone).targets
    rw [List.flatMap_cons, List.flatMap_cons, ih, htargets, hs.name]

section
variable {greffonPath : String} {document : Document} {greffon : Greffon} {strict : Bool}
  {extraKeys : Option String} {info : GreffonInfo} {normalized : Entries}

/-- **The ports of a document's info** are those that the document declares. -/
theorem createDocumentInfo_ports
    (h : createDocumentInfo greffonPath document greffon strict extraKeys = .ok (info, normalized)) :
    info.ports.map PortInfo.declared =
        (declaredPorts document.tree.entries).map (fun d => (d, sentTier greffon d)) ∧
      ∀ s ∈ authored document.tree.entries, (declaredTargets s.2).Nodup ∧
        ∀ t ∈ declaredTargets s.2, isDigit t = true := by
  obtain ⟨entries, befores, services, htree, hpassed, -, hinfo⟩ := createDocumentInfo_ok h
  obtain ⟨declared, -, hout⟩ := hpassed.passed
  have hkept : List.Forall₂ (fun raw s => raw.1 = s.1 ∧ PortsKept raw.2 s.2)
      (authored (withServices entries befores)) services := by
    rw [authored_withServices]
    refine hout.imp fun before s hs => ⟨hs.1, ?_⟩
    obtain ⟨name, hname⟩ := hs.2
    exact normalizeService_ports hname
  obtain ⟨hports, heach⟩ := collectInfo_ports hpassed.accepted hkept hinfo
  rw [htree, Yaml.entries]
  rw [declaredPorts, authored_withServices, declaredPorts_comesTo hpassed.comesTo] at hports
  rw [authored_withServices] at heach
  refine ⟨hports, fun raw hraw => ?_⟩
  obtain ⟨before, hbefore, hcomes⟩ := exists_right_of_forall₂ hpassed.comesTo hraw
  have hsame := declaredPorts_comesTo (.cons hcomes .nil)
  rw [List.flatMap_singleton, List.flatMap_singleton, hcomes.name] at hsame
  have htargets : declaredTargets before.2 = declaredTargets raw.2 :=
    List.map_injective_iff.mpr (fun _ _ heq => (Prod.mk.inj heq).2) hsame
  rw [← htargets]
  exact heach before hbefore

/-- The ports of an info are distinct, and their container ports are made of digits. -/
theorem nodup_ports
    (h : createDocumentInfo greffonPath document greffon strict extraKeys = .ok (info, normalized))
    (hnodup : (serviceNamesOf document.tree.entries).Nodup) :
    (info.ports.map PortInfo.pair).Nodup ∧
      ∀ p ∈ info.ports, isDigit p.portContainer = true := by
  obtain ⟨hdeclared, heach⟩ := createDocumentInfo_ports h
  have hpairs : info.ports.map PortInfo.pair = declaredPorts document.tree.entries := by
    have hfst := congrArg (List.map Prod.fst) hdeclared
    rw [List.map_map, List.map_map] at hfst
    exact hfst.trans (List.map_id _)
  constructor
  · rw [hpairs]
    exact nodup_declaredPorts hnodup fun s hs => (heach s hs).1
  · intro p hp
    have hmem : p.pair ∈ declaredPorts document.tree.entries := hpairs ▸ List.mem_map_of_mem hp
    obtain ⟨s, hs, hd⟩ := List.mem_flatMap.mp hmem
    obtain ⟨t, ht, heq⟩ := List.mem_map.mp hd
    have hport := (Prod.mk.inj heq).2
    rw [← hport]
    exact (heach s hs).2 t ht

end

/-! ## What the services publish -/

section Published
variable {objects : Objects} {info : GreffonInfo} {l4BindHost : String}
  {bare : List (String × Entries)}

/-- A port of the fourth layer is published on every service of its mapping. -/
theorem mem_publications_inPlace (l4BindHost : String) {p : PortInfo × Nat}
    (hp : p ∈ info.ports.zipIdx)
    (hproxied : ¬ p.1.proxied = true) {name : String} (hname : name ∈ bare.map Prod.fst)
    (hone : objects.oneRebuilt name p.1.containerName = true) :
    (name, (publication l4BindHost p).2) ∈
      publications ((bareServices bare info).map (furnishedInPlace objects info l4BindHost)) := by
  have hbare : name ∈ (bareServices bare info).map Prod.fst :=
    mem_names_bareServices.mpr (.inr hname)
  obtain ⟨s, hs, rfl⟩ := List.mem_map.mp hbare
  refine List.mem_flatMap.mpr ⟨_, List.mem_map_of_mem hs, List.mem_map.mpr ⟨_, ?_, rfl⟩⟩
  rw [itemsAt_ports_inPlace]
  refine List.mem_append_right _ (List.mem_map.mpr ⟨publication l4BindHost p, ?_, rfl⟩)
  rw [l4Mappings_eq]
  refine List.mem_filter.mpr ⟨List.mem_map_of_mem (List.mem_filter.mpr ⟨hp, by simpa using hproxied⟩), ?_⟩
  rw [publication, if_neg hproxied]
  exact hone

/-- Mappings that nobody shares get what they would get in a tree. -/
theorem publications_inPlace (h : ∀ m ∈ l4Mappings info l4BindHost,
      ∀ name ∈ (bareServices bare info).map Prod.fst,
        objects.oneRebuilt name m.1 = true → name = m.1) :
    publications ((bareServices bare info).map (furnishedInPlace objects info l4BindHost)) =
      publications ((bareServices bare info).map (furnished info l4BindHost)) := by
  rw [publications, publications, List.flatMap_map, List.flatMap_map]
  refine List.flatMap_congr fun s hs => ?_
  rw [itemsAt_ports_inPlace, itemsAt_furnished_ports]
  have hitems : itemsForMapping objects (l4Mappings info l4BindHost) s.1 =
      itemsFor (l4Mappings info l4BindHost) s.1 := by
    refine congrArg _ (List.filter_congr fun m hm => ?_)
    rw [Bool.eq_iff_iff, beq_iff_eq]
    constructor
    · intro hone
      exact (h m hm s.1 (List.mem_map_of_mem hs) hone).symm
    · intro hname
      rw [hname, Objects.oneRebuilt, beq_self_eq_true, Bool.true_or]
  rw [hitems]
  rfl

end Published

/-- The item of a port of the fourth layer holds its index. -/
theorem publication_index {l4BindHost : String} {p q : PortInfo × Nat}
    (hp : ¬ p.1.proxied = true) (hq : ¬ q.1.proxied = true)
    (h : (publication l4BindHost p).2 = (publication l4BindHost q).2) : p.2 = q.2 := by
  rw [publication, if_neg hp, publication, if_neg hq, Yaml.str.injEq] at h
  simp only [String.append_assoc] at h
  have hhost := String.append_right_inj _ |>.mp h
  exact portHostExpression_inj (String.append_right_inj _ |>.mp hhost)

/-! ## The law -/

section
variable {greffonPath : String} {document : Document} {greffon : Greffon} {strict : Bool}
  {extraKeys : Option String} {info : GreffonInfo} {normalized : Entries}

/-- A port that the compose declares for the fourth layer is one of the info's. -/
theorem exists_l4_port {entries : Entries} (h : info.ports.map PortInfo.declared =
      (declaredPorts entries).map fun d => (d, sentTier greffon d))
    {d : String × String} (hd : d ∈ declaredPorts entries) (hl4 : sentTier greffon d = .str "l4") :
    ∃ p ∈ info.ports.zipIdx, ¬ p.1.proxied = true ∧ p.1.containerName = d.1 := by
  have hmem : (d, sentTier greffon d) ∈ info.ports.map PortInfo.declared := by
    rw [h]
    exact List.mem_map_of_mem hd
  obtain ⟨p, hp, heq⟩ := List.mem_map.mp hmem
  obtain ⟨hpair, htier⟩ := Prod.mk.inj heq
  obtain ⟨i, hi, rfl⟩ := List.getElem_of_mem hp
  refine ⟨(info.ports[i], i), List.mk_mem_zipIdx_iff_getElem?.mpr (List.getElem?_eq_getElem hi), ?_,
    congrArg Prod.fst hpair⟩
  dsimp only
  rw [PortInfo.proxied, htier, hl4]
  decide

/-- A mapping that two names share publishes a port of the fourth layer under both, and the index
tells that it is one port. -/
theorem ownMappings_of_published {objects : Objects} {entries : Entries} {l4BindHost : String}
    {bare : List (String × Entries)} (hbare : bare.map Prod.fst = serviceNamesOf entries)
    (hnginx : nginxService ∉ serviceNamesOf entries)
    (hports : ∀ p ∈ info.ports, p.containerName ∈ serviceNamesOf entries)
    (hdeclared : info.ports.map PortInfo.declared =
      (declaredPorts entries).map fun d => (d, sentTier greffon d))
    (hpublished : (publications ((bareServices bare info).map
      (furnishedInPlace objects info l4BindHost))).Perm
        (info.ports.zipIdx.map (publication l4BindHost))) : OwnMappings objects greffon entries := by
  intro d hd hl4 name hname hone
  obtain ⟨p, hp, hproxied, hcontainer⟩ := exists_l4_port hdeclared hd hl4
  have hshared : objects.oneRebuilt name p.1.containerName = true := by
    have hne : name ≠ nginxService := fun heq => hnginx (heq ▸ hname)
    have hne' : d.1 ≠ nginxService := fun heq =>
      hnginx (heq ▸ hcontainer ▸ hports _ (List.fst_mem_of_mem_zipIdx hp))
    rw [hcontainer, Objects.oneRebuilt, hone, bne_iff_ne.mpr hne, bne_iff_ne.mpr hne']
    exact Bool.or_true _
  have hmem := hpublished.subset
    (mem_publications_inPlace l4BindHost hp hproxied (hbare ▸ hname) hshared)
  obtain ⟨q, hq, heq⟩ := List.mem_map.mp hmem
  have hother : ¬ q.1.proxied = true := by
    intro hserved
    rw [publication, if_pos hserved] at heq
    exact hnginx ((Prod.mk.inj heq).1 ▸ hname)
  have hindex := publication_index hother hproxied (Prod.mk.inj heq).2
  have hsame : some q.1 = some p.1 := by
    rw [← List.mem_zipIdx_iff_getElem?.mp hp, ← List.mem_zipIdx_iff_getElem?.mp hq, hindex]
  have howner := congrArg Prod.fst heq
  rw [publication, if_neg hother, Option.some.inj hsame, hcontainer] at howner
  exact howner.symm

/-- Mappings of their own publish every port once. -/
theorem published_of_ownMappings {objects : Objects} {entries : Entries} (l4BindHost : String)
    {bare : List (String × Entries)} (hbare : bare.map Prod.fst = serviceNamesOf entries)
    (hnodup : (serviceNamesOf entries).Nodup) (hnginx : nginxService ∉ serviceNamesOf entries)
    (hports : ∀ p ∈ info.ports, p.containerName ∈ serviceNamesOf entries)
    (hdeclared : info.ports.map PortInfo.declared =
      (declaredPorts entries).map fun d => (d, sentTier greffon d))
    (hown : OwnMappings objects greffon entries) :
    (publications ((bareServices bare info).map (furnishedInPlace objects info l4BindHost))).Perm
      (info.ports.zipIdx.map (publication l4BindHost)) := by
  rw [← hbare] at hnodup hnginx hports
  rw [publications_inPlace]
  · exact publications_perm hnodup hnginx hports
  · intro m hm name hname hone
    obtain ⟨p, hp, rfl⟩ := List.mem_map.mp hm
    obtain ⟨hp, hproxied⟩ := List.mem_filter.mp hp
    have hmem := List.mem_map_of_mem (f := PortInfo.declared) (List.fst_mem_of_mem_zipIdx hp)
    rw [hdeclared] at hmem
    obtain ⟨d, hd, heq⟩ := List.mem_map.mp hmem
    obtain ⟨hpair, htier⟩ := Prod.mk.inj heq
    have hl4 : sentTier greffon d = .str "l4" := by
      rw [htier]
      simpa [PortInfo.proxied] using hproxied
    have hcontainer : d.1 = p.1.containerName := congrArg Prod.fst hpair
    rw [← hcontainer] at hone ⊢
    rw [Objects.oneRebuilt, Bool.or_eq_true, beq_iff_eq, Bool.and_eq_true, Bool.and_eq_true,
      bne_iff_ne] at hone
    refine hone.elim id fun hone => hown d hd hl4 name ?_ hone.2
    rw [← hbare]
    exact (mem_names_bareServices.mp hname).resolve_left hone.1.1

/-- **Every declared port appears exactly once**, in the template and in nginx's configuration,
whatever the tiers and the names of the services, if and only if no other service shares the mapping
of one that declares a port of the fourth layer. -/
theorem ports_partitioned_iff (hloaded : document.tree.WellFormed)
    (h : createDocumentInfo greffonPath document greffon strict extraKeys = .ok (info, normalized))
    (hnginx : nginxService ∉ serviceNamesOf document.tree.entries) (l4BindHost : String) :
    ∃ rebuilt services,
      createDocumentTemplate document.objects normalized info l4BindHost = .ok rebuilt ∧
      servicesOf rebuilt = .ok services ∧
      (PortPartition greffon document.tree.entries info l4BindHost services ↔
        OwnMappings document.objects greffon document.tree.entries) := by
  obtain ⟨befores, rebuilt, services, htemplate, hread, hrebuilt⟩ :=
    createDocumentTemplate_ok hloaded h l4BindHost
  obtain ⟨bare, hbare, rfl⟩ := hrebuilt.services
  refine ⟨rebuilt, _, htemplate, hread, ?_⟩
  have hdeclared := (createDocumentInfo_ports h).1
  have hports : ∀ p ∈ info.ports, p.containerName ∈ serviceNamesOf document.tree.entries := by
    intro p hp
    have hmem := hrebuilt.collected.ports p hp
    rwa [authored_withServices, hrebuilt.names_eq] at hmem
  constructor
  · intro hpartition
    exact ownMappings_of_published hbare hnginx hports hdeclared hpartition.published
  · intro hown
    have hpublished := published_of_ownMappings l4BindHost hbare hrebuilt.nodup hnginx hports
      hdeclared hown
    obtain ⟨hdistinct, hdigits⟩ := nodup_ports h hrebuilt.nodup
    have hupstreams := nodup_upstreamNames hdistinct hdigits
    have hservers : (info.ports.map fun p => p.server.proxyPass).Nodup := by
      have hmap := hupstreams.map (f := fun name => "http://" ++ name ++ "/") fun a b heq =>
        String.append_right_inj _ |>.mp (String.append_left_inj _ |>.mp heq)
      rwa [List.map_map] at hmap
    refine ⟨hdeclared, hpublished, ?_, ?_, ?_, ?_, ?_⟩
    · exact hpublished.nodup_iff.mpr (nodup_publications fun p hp heq => hnginx (heq ▸ hports p hp))
    · intro p hp
      exact filter_rendered hupstreams hp PortInfo.proxied PortInfo.upstream fun _ => rfl
    · intro p hp
      exact filter_rendered hservers hp PortInfo.proxied PortInfo.server fun _ => rfl
    · constructor
      · intro u hu
        obtain ⟨p, hp, rfl⟩ := List.mem_map.mp hu
        exact ⟨p, (List.mem_filter.mp hp).1, rfl⟩
      · intro s hs
        obtain ⟨p, hp, rfl⟩ := List.mem_map.mp hs
        exact ⟨p, (List.mem_filter.mp hp).1, rfl⟩
    · have hrendered : (createNginxConf info).upstreams.map Upstream.name =
          (info.ports.filter PortInfo.proxied).map PortInfo.upstreamName := List.map_map
      rw [hrendered]
      exact hupstreams.sublist (List.filter_sublist.map _)

end

/-- A document without aliases. -/
def documentPublishing : Document :=
  .unshared composePublishing (fun | .str "app" => 0 | _ => 1) (by
    intro s hs t ht h
    rcases List.mem_cons.mp hs with rfl | hs
    · rcases List.mem_cons.mp ht with rfl | ht
      · rfl
      · obtain rfl := List.mem_singleton.mp ht
        cases h
    · obtain rfl := List.mem_singleton.mp hs
      rcases List.mem_cons.mp ht with rfl | ht
      · cases h
      · exact (List.mem_singleton.mp ht).symm)

/-- A request whose second port is of the fourth layer. -/
def greffonPublishing : Greffon :=
  { id := "a", ports := [("app_443", [(.str "exposure_tier", .str "l4")])] }

theorem ports_partitioned_app : ∃ info normalized rebuilt services,
    createDocumentInfo "/data" documentPublishing greffonPublishing true none =
      .ok (info, normalized) ∧
    createDocumentTemplate documentPublishing.objects normalized info "0.0.0.0" = .ok rebuilt ∧
    servicesOf rebuilt = .ok services ∧
    PortPartition greffonPublishing composePublishing.entries info "0.0.0.0" services := by
  obtain ⟨info, normalized, hinfo⟩ : ∃ info normalized, createDocumentInfo "/data"
      documentPublishing greffonPublishing true none = .ok (info, normalized) := ⟨_, _, rfl⟩
  obtain ⟨rebuilt, services, hrebuilt, hread, hpartition⟩ :=
    ports_partitioned_iff composePublishing_wellFormed hinfo (by decide) "0.0.0.0"
  refine ⟨info, normalized, rebuilt, services, hinfo, hrebuilt, hread, hpartition.mpr ?_⟩
  unfold OwnMappings
  decide

/-- Two services of one mapping: `a: &s {image: x, ports: ["53"]}`, `b: *s`. -/
def aliasedPublishing : Document where
  tree := .dict [(.str "services", .dict (["a", "b"].map fun name => (.str name, .dict
    [(.str "image", .str "x"), (.str "ports", .list [.str "53"])])))]
  objects := ⟨fun _ => 0, fun _ => 0⟩
  of := by
    have hone : ∀ s ∈ (["a", "b"].map fun name => (Yaml.str name, Yaml.dict
        [(.str "image", .str "x"), (.str "ports", .list [.str "53"])])),
        s.2 = .dict [(.str "image", .str "x"), (.str "ports", .list [.str "53"])] := by
      intro s hs
      obtain ⟨name, -, rfl⟩ := List.mem_map.mp hs
      rfl
    exact ⟨fun s hs t ht _ => (hone s hs).trans (hone t ht).symm,
      fun s hs t ht _ => by rw [hone s hs, hone t ht], fun _ _ _ _ _ => rfl,
      fun _ _ _ _ _ _ => rfl⟩

/-- A request whose ports are all of the fourth layer. -/
def greffonAliased : Greffon :=
  { id := "i", ports := ["a_53", "b_53"].map fun name => (name, [(.str "exposure_tier", .str "l4")]) }

/-- **Two ports, four mappings**: each of the two services publishes what both declare. -/
theorem aliased_ports_doubled : ∃ info normalized rebuilt services,
    nginxService ∉ serviceNamesOf aliasedPublishing.tree.entries ∧
    createDocumentInfo "/data" aliasedPublishing greffonAliased true none = .ok (info, normalized) ∧
    createDocumentTemplate aliasedPublishing.objects normalized info "0.0.0.0" = .ok rebuilt ∧
    servicesOf rebuilt = .ok services ∧ info.ports.length = 2 ∧
    (publications services).map Prod.fst = ["a", "a", "b", "b"] ∧
    ¬ PortPartition greffonAliased aliasedPublishing.tree.entries info "0.0.0.0" services := by
  refine ⟨_, _, _, _, by decide, rfl, rfl, rfl, rfl, rfl, fun h => ?_⟩
  exact absurd h.published.length_eq (by decide)

end Greffer.Compose

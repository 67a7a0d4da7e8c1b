import Greffer.Compose.Collected
import Greffer.Compose.Template

/-! # The rebuilt compose

For every collected compose the rebuild succeeds, and each service of its result is a
service of the author's, reset, or the sidecar, with the ports, the mounts and the networks
that the info has for it (`createComposeTemplate_ok`).  Which mounts and which networks
these are is then read off the compose: a mount point of the info is the sidecar's own or
one that a service declares (`Collected.container`), and its volume carries the name that
`volumeName` gives its source.
-/
namespace Greffer.Compose

/-! ## The top level, read -/

/-- The names of the top-level volumes. -/
def topVolumes (entries : Entries) : List Yaml :=
  match declaredVolumes entries with
  | .ok names => names
  | .error _ => []

/-- The names of the top-level networks. -/
def topNetworks (entries : Entries) : List Yaml :=
  match topNetworkNames entries with
  | .ok names => names
  | .error _ => []

/-- The docker volume of a source: the sidecar's own has a name of its own, unless the
compose declares its key. -/
def volumeName (id : String) (entries : Entries) (source : String) : String :=
  if source = nginxService ∧ Yaml.str nginxService ∉ topVolumes entries then id ++ "_nginx_volume"
  else id ++ "_" ++ source

/-- The names of the services. -/
def serviceNamesOf (entries : Entries) : List String := (authored entries).map Prod.fst

/-! ## What the info has for each service -/

section
variable {greffonPath : String} {greffon : Greffon} {entries : Entries} {info : GreffonInfo}

theorem Collected.volumesOf (h : Collected greffonPath greffon entries info) :
    VolumesOf greffon.id info.volumes := by
  obtain ⟨declared, volumes, -, hvolumes, hinfo⟩ := h.volumes
  rw [hinfo]
  exact ((VolumesOf.nginx greffonPath greffon).declared hvolumes).mounts _

theorem Collected.networksOf (h : Collected greffonPath greffon entries info) :
    NetworksOf (serviceNamesOf entries) info.networks := by
  obtain ⟨top, networks, -, hnetworks, hjoin⟩ := h.networks
  refine ((NetworksOf.internal _).declared hnetworks).join (fun p hp => ?_) hjoin
  obtain ⟨s, hs, hp⟩ := List.mem_flatMap.mp hp
  obtain ⟨n, -, rfl⟩ := List.mem_map.mp hp
  exact List.mem_map_of_mem hs

/-- The volumes before the services' mounts, key by key: the declared ones, and the
sidecar's own. -/
structure Initial (greffonPath : String) (greffon : Greffon) (entries : Entries)
    (volumes : Dict VolumeInfo) : Prop where
  volumesOf : VolumesOf greffon.id volumes
  get : ∀ s, Dict.get? volumes s =
    if .str s ∈ topVolumes entries then some (unmounted greffon.id s)
    else if s = nginxService then some (nginxVolume greffonPath greffon) else none

theorem Collected.initial (h : Collected greffonPath greffon entries info) :
    ∃ volumes, Initial greffonPath greffon entries volumes ∧
      info.volumes = (declaredAll (authored entries)).foldl (addMount greffon.id) volumes := by
  obtain ⟨declared, volumes, hdeclared, hvolumes, hinfo⟩ := h.volumes
  refine ⟨volumes, ⟨(VolumesOf.nginx greffonPath greffon).declared hvolumes, fun s => ?_⟩, hinfo⟩
  have htop : topVolumes entries = declared := by rw [topVolumes, hdeclared]
  rw [htop, get?_addDeclaredVolumes hvolumes, Dict.get?_cons, Dict.get?_nil]
  by_cases hs : s = nginxService
  · rw [if_pos (congrArg Yaml.str hs.symm), if_pos hs]
  · rw [if_neg (fun heq => hs (Yaml.str.inj heq).symm), if_neg hs]

/-- The docker volume of a source does not depend on the mounts. -/
theorem Initial.valueOf {volumes : Dict VolumeInfo}
    (h : Initial greffonPath greffon entries volumes) (s : String) :
    valueOf greffon.id volumes s = volumeName greffon.id entries s := by
  unfold Compose.valueOf volumeName
  rw [h.get]
  by_cases htop : Yaml.str s ∈ topVolumes entries
  · rw [if_pos htop, if_neg fun hand => hand.2 (hand.1 ▸ htop)]
    rfl
  · rw [if_neg htop]
    by_cases hs : s = nginxService
    · rw [if_pos hs, if_pos ⟨hs, hs ▸ htop⟩]
      rfl
    · rw [if_neg hs, if_neg fun hand => hs hand.1]
      rfl

/-- Before the mounts, only the sidecar's own volume has a mount point. -/
theorem Initial.container {volumes : Dict VolumeInfo}
    (h : Initial greffonPath greffon entries volumes) {s : String} {v : VolumeInfo}
    (hv : Dict.get? volumes s = some v) {c : String × MountPoint} (hc : c ∈ v.containers) :
    s = nginxService ∧ Yaml.str nginxService ∉ topVolumes entries ∧
      c = (nginxService, ⟨"/etc/nginx/", none⟩) := by
  rw [h.get] at hv
  split at hv
  · cases hv
    cases hc
  · rename_i htop
    split at hv
    · rename_i hs
      cases hv
      exact ⟨hs, hs ▸ htop, List.mem_singleton.mp hc⟩
    · cases hv

/-- **A mount point** is the sidecar's own, or one that a service declares. -/
theorem Collected.container (h : Collected greffonPath greffon entries info)
    {e : Yaml × VolumeInfo} (he : e ∈ info.volumes) {c : String × MountPoint}
    (hc : c ∈ e.2.containers) :
    ∃ s, e.1 = .str s ∧ e.2.value = volumeName greffon.id entries s ∧
      ((s = nginxService ∧ Yaml.str nginxService ∉ topVolumes entries ∧
          c = (nginxService, ⟨"/etc/nginx/", none⟩)) ∨
        ∃ mount ∈ declaredAll (authored entries), mount.2.source = s ∧
          c = (mount.1, ⟨mount.2.target, mount.2.mode⟩)) := by
  have hof := h.volumesOf
  have htext : ∃ s, e.1 = .str s := by
    by_contra hnone
    rw [hof.plain e he fun s hs => hnone ⟨s, hs⟩] at hc
    cases hc
  obtain ⟨s, hs⟩ := htext
  have hget : Dict.get? info.volumes s = some e.2 := hof.distinct.get?_of_mem (by rw [← hs]; exact he)
  obtain ⟨volumes, hinitial, hinfo⟩ := h.initial
  rw [hinfo] at hget
  refine ⟨s, hs, ?_, ?_⟩
  · rw [value_addAll hget, hinitial.valueOf]
  · rcases mem_containers_addAll hget hc with ⟨v, hv, hold⟩ | hmount
    · exact .inl (hinitial.container hv hold)
    · exact .inr hmount

/-- **The networks**, key by key: the declared ones with the services that name them, and
the internal one with every service. -/
theorem Collected.network (h : Collected greffonPath greffon entries info) (s : String) :
    Dict.get? info.networks s =
      if .str s ∈ topNetworks entries then
        some ⟨.str s, .str s, joining (memberships (authored entries)) s⟩
      else if s = internalNetworkId then
        some ⟨.str "internal", .str s,
          serviceNamesOf entries ++ joining (memberships (authored entries)) s⟩
      else none := by
  obtain ⟨top, networks, htop, hnetworks, hjoin⟩ := h.networks
  have heq : topNetworks entries = top := by rw [topNetworks, htop]
  rw [get?_joinAll hjoin, get?_addDeclaredNetworks hnetworks, heq, Dict.get?_cons, Dict.get?_nil]
  split
  · rfl
  · by_cases hs : s = internalNetworkId
    · rw [if_pos (congrArg Yaml.str hs.symm), if_pos hs, hs]
      rfl
    · rw [if_neg (fun heq => hs (Yaml.str.inj heq).symm), if_neg hs]
      rfl

theorem Collected.mounted (h : Collected greffonPath greffon entries info)
    {mount : String × VolumeMount} (hm : mount ∈ declaredAll (authored entries)) :
    ∃ e ∈ info.volumes, e.2.value = volumeName greffon.id entries mount.2.source ∧
      ∃ p, (mount.1, p) ∈ e.2.containers := by
  obtain ⟨volumes, -, hinfo⟩ := h.initial
  obtain ⟨v, hv, hmem⟩ := mounted_addAll hm
  rw [← hinfo] at hv
  obtain ⟨⟨name, p⟩, hc, hname⟩ := List.mem_map.mp hmem
  cases hname
  obtain ⟨s, hs, hvalue, -⟩ := h.container (Dict.mem_of_get? hv) hc
  cases hs
  exact ⟨_, Dict.mem_of_get? hv, hvalue, p, hc⟩

theorem mem_declaredAll {services : List (String × Entries)} {mount : String × VolumeMount} :
    mount ∈ declaredAll services ↔ ∃ s ∈ services, s.1 = mount.1 ∧ mount.2 ∈ declaredMounts s.2 := by
  rw [declaredAll, List.mem_flatMap]
  constructor
  · rintro ⟨s, hs, hm⟩
    obtain ⟨m, hdeclared, rfl⟩ := List.mem_map.mp hm
    exact ⟨s, hs, rfl, hdeclared⟩
  · rintro ⟨s, hs, hname, hm⟩
    exact ⟨s, hs, List.mem_map.mpr ⟨_, hm, by rw [hname]⟩⟩

/-- A mapping of the info comes from a mount point. -/
theorem mem_volumeMappings {p : String × Yaml} :
    p ∈ volumeMappings info ↔ ∃ e ∈ info.volumes, ∃ c ∈ e.2.containers,
      p = (c.1, .str (mapping e.2.value c.2)) := by
  rw [volumeMappings, List.mem_flatMap]
  refine exists_congr fun e => and_congr_right fun _ => ?_
  rw [List.mem_map]
  exact exists_congr fun c => and_congr_right fun _ => eq_comm

theorem mem_networkMemberships {p : String × Yaml} :
    p ∈ networkMemberships info ↔ ∃ e ∈ info.networks, ∃ c ∈ e.2.containers, p = (c, e.2.value) := by
  rw [networkMemberships, List.mem_flatMap]
  refine exists_congr fun e => and_congr_right fun _ => ?_
  rw [List.mem_map]
  exact exists_congr fun c => and_congr_right fun _ => eq_comm

theorem mem_joining {services : List (String × Entries)} {name network : String}
    (hne : network ≠ "default") :
    name ∈ joining (memberships services) network ↔
      ∃ s ∈ services, s.1 = name ∧ network ∈ Compose.networksOf s.2 := by
  rw [joining, List.mem_map]
  constructor
  · rintro ⟨⟨n, w⟩, hp, rfl⟩
    obtain ⟨hmem, hw⟩ := List.mem_filter.mp hp
    obtain ⟨s, hs, hp⟩ := List.mem_flatMap.mp hmem
    obtain ⟨w', hw', heq⟩ := List.mem_map.mp hp
    cases heq
    rw [Bool.and_eq_true, beq_iff_eq] at hw
    exact ⟨s, hs, rfl, hw.1 ▸ hw'⟩
  · rintro ⟨s, hs, rfl, hw⟩
    refine ⟨(s.1, network), List.mem_filter.mpr ⟨?_, by simp [hne]⟩, rfl⟩
    exact List.mem_flatMap.mpr ⟨s, hs, List.mem_map.mpr ⟨network, hw, rfl⟩⟩

/-! ## The rebuild -/

theorem mem_names_bareServices {services : List (String × Entries)} {name : String} :
    name ∈ (bareServices services info).map Prod.fst ↔
      name = nginxService ∨ name ∈ services.map Prod.fst := by
  rw [bareServices, mem_keys_upsert, List.map_map]
  rfl

/-- The sidecar comes last, unless the author has a service of its name. -/
theorem names_bareServices (services : List (String × Entries)) (info : GreffonInfo) :
    (bareServices services info).map Prod.fst = services.map Prod.fst ++
      if nginxService ∈ services.map Prod.fst then [] else [nginxService] := by
  have hnames : (services.map fun s => (s.1, resetService s.2)).map Prod.fst =
      services.map Prod.fst := by
    rw [List.map_map]
    rfl
  by_cases hmem : nginxService ∈ services.map Prod.fst
  · rw [bareServices, keys_upsert_of_mem _ (by rwa [hnames]), hnames, if_pos hmem, List.append_nil]
  · rw [bareServices, upsert_of_not_mem _ (by rwa [hnames]), List.map_append, hnames, if_neg hmem]
    rfl

theorem nodup_bareServices {services : List (String × Entries)}
    (h : (services.map Prod.fst).Nodup) : ((bareServices services info).map Prod.fst).Nodup := by
  rw [names_bareServices]
  split
  · rwa [List.append_nil]
  · rename_i hmem
    exact List.Nodup.append h (List.nodup_singleton _) (by simpa using hmem)

theorem lookup_map_self {services : List (String × Entries)} {name : String}
    (h : name ∈ services.map Prod.fst) :
    (services.map fun s => (s.1, s.1)).lookup name = some name := by
  induction services with
  | nil => cases h
  | cons s rest ih =>
    rw [List.map_cons, List.lookup_cons]
    by_cases hs : name = s.1
    · rw [beq_iff_eq.mpr hs, hs]
    · rw [beq_eq_false_iff_ne.mpr hs]
      exact ih ((List.mem_cons.mp h).resolve_left hs)

theorem map_fst_furnished (l4BindHost : String) (services : List (String × Entries)) :
    (services.map (furnished info l4BindHost)).map Prod.fst = services.map Prod.fst := by
  rw [List.map_map]
  rfl

/-- **Whatever the info maps** belongs to a service of the compose, or to the sidecar. -/
theorem Collected.known (h : Collected greffonPath greffon entries info) (l4BindHost : String)
    {p : String × Yaml} (hp : p ∈ l4Mappings info l4BindHost ∨ p ∈ volumeMappings info ∨
      p ∈ networkMemberships info) : p.1 = nginxService ∨ p.1 ∈ serviceNamesOf entries := by
  rcases hp with hp | hp | hp
  · obtain ⟨⟨port, i⟩, hport, rfl⟩ := List.mem_map.mp hp
    have hmem := (List.mem_zipIdx (List.mem_filter.mp hport).1).2.2
    exact .inr (h.ports _ (hmem ▸ List.getElem_mem _))
  · obtain ⟨e, he, c, hc, rfl⟩ := mem_volumeMappings.mp hp
    obtain ⟨s, -, -, ⟨-, -, rfl⟩ | ⟨mount, hmount, -, rfl⟩⟩ := h.container he hc
    · exact .inl rfl
    · obtain ⟨svc, hsvc, hname, -⟩ := mem_declaredAll.mp hmount
      exact .inr (hname ▸ List.mem_map_of_mem hsvc)
  · obtain ⟨e, he, c, hc, rfl⟩ := mem_networkMemberships.mp hp
    exact .inr (h.networksOf.known e he c hc)

/-- **The renaming** leaves the services of a collected compose as they are. -/
theorem Collected.renamed (h : Collected greffonPath greffon entries info)
    (hnodup : (serviceNamesOf entries).Nodup) {bare services : List (String × Entries)}
    (hbare : bare.map Prod.fst = serviceNamesOf entries)
    (hnames : services.map Prod.fst = (bareServices bare info).map Prod.fst) :
    renameServices info.services services [] = .ok services := by
  rw [renameServices_self]
  · rfl
  · intro s hs
    have hmem : s.1 ∈ (bareServices bare info).map Prod.fst := hnames ▸ List.mem_map_of_mem hs
    have hname := mem_names_bareServices.mp hmem
    rw [hbare] at hname
    rw [h.services]
    by_cases hn : s.1 = nginxService
    · rw [hn, lookup_upsert_self]
    · rw [lookup_upsert_ne _ _ hn]
      exact lookup_map_self (hname.resolve_left hn)
  · rw [List.nil_append, hnames]
    exact nodup_bareServices (by rwa [hbare])

/-- **The rebuild succeeds** on every collected compose. -/
theorem rebuildServices_ok (h : Collected greffonPath greffon entries info)
    {services : List (String × Entries)} (hnames : services.map Prod.fst = serviceNamesOf entries)
    (hnodup : (serviceNamesOf entries).Nodup) (l4BindHost : String) :
    rebuildServices services info l4BindHost =
      .ok ((bareServices services info).map (furnished info l4BindHost)) := by
  have hknown : ∀ p : String × Yaml, p ∈ l4Mappings info l4BindHost ∨ p ∈ volumeMappings info ∨
      p ∈ networkMemberships info → p.1 ∈ (bareServices services info).map Prod.fst := by
    intro p hp
    rw [mem_names_bareServices, hnames]
    exact h.known l4BindHost hp
  unfold rebuildServices
  rw [appendEach_ok _ _ _ fun p hp => hknown p (.inl hp), ok_bind, appendEach_ok, ok_bind,
    appendEach_ok, ok_bind, List.map_map, List.map_map]
  · refine h.renamed hnodup hnames ?_
    rw [List.map_map]
    rfl
  · intro p hp
    rw [List.map_map, List.map_map]
    exact hknown p (.inr (.inr hp))
  · intro p hp
    rw [List.map_map]
    exact hknown p (.inr (.inl hp))

/-- The services of a value that a parse gives have distinct names. -/
theorem nodup_of_loaded (hloaded : (Yaml.dict entries).WellFormed) {raw : Entries}
    (hget : Dict.get? entries "services" = some (.dict raw)) {names : List String}
    (hkeys : raw.map Prod.fst = names.map .str) : names.Nodup := by
  rw [Yaml.WellFormed] at hloaded
  have hraw := hloaded.2.value (Dict.mem_of_get? hget)
  rw [Yaml.WellFormed] at hraw
  have hdistinct : (raw.map Prod.fst).Pairwise fun a b => a.sameKey b = false :=
    List.pairwise_map.mpr hraw.1
  rw [hkeys, List.pairwise_map] at hdistinct
  refine hdistinct.imp fun {a b} hab heq => ?_
  rw [heq, (Yaml.sameKey_str _ _).mpr rfl] at hab
  cases hab

theorem Accepted.nodup {services : List (String × Entries)} (h : Accepted entries services)
    (hloaded : (Yaml.dict entries).WellFormed) : (serviceNamesOf entries).Nodup := by
  obtain ⟨raw, hget, hkeys⟩ := h.names
  rw [serviceNamesOf, ← h.names_eq]
  refine nodup_of_loaded hloaded hget ?_
  rw [hkeys, List.map_map]
  rfl

/-- What a start makes of a compose: the info it collects, and the services of the rebuilt
compose. -/
structure Rebuilt (greffonPath : String) (greffon : Greffon) (entries : Entries)
    (info : GreffonInfo) (rebuilt : Entries) (services : List (String × Entries)) : Prop where
  collected : Collected greffonPath greffon entries info
  nodup : (serviceNamesOf entries).Nodup
  networks : Dict.get? rebuilt "networks" = some (.dict (rebuiltNetworks info))
  read : servicesOf rebuilt = .ok services
  services : ∃ (bare : List (String × Entries)) (l4BindHost : String),
    bare.map Prod.fst = serviceNamesOf entries ∧
      services = (bareServices bare info).map (furnished info l4BindHost)

/-- **The rebuild, spelled out**: every service, bare, is furnished with what the info has
for it. -/
theorem createComposeTemplate_furnished {compose : Yaml} (hloaded : compose.WellFormed)
    {strict : Bool} {extraKeys : Option String} {normalized : Entries}
    (h : createGreffonInfo greffonPath compose greffon strict extraKeys = .ok (info, normalized))
    (l4BindHost : String) :
    ∃ rebuilt bare, createComposeTemplate normalized info l4BindHost = .ok rebuilt ∧
      Collected greffonPath greffon compose.entries info ∧
      (serviceNamesOf compose.entries).Nodup ∧
      Dict.get? rebuilt "networks" = some (.dict (rebuiltNetworks info)) ∧
      bare.map Prod.fst = serviceNamesOf compose.entries ∧
      servicesOf rebuilt = .ok ((bareServices bare info).map (furnished info l4BindHost)) := by
  obtain ⟨out, hout, h⟩ := bind_ok_iff.mp h
  obtain ⟨entries, services, rfl, rfl, haccepted⟩ := normalizeCompose_ok hout
  obtain ⟨info', hinfo, h⟩ := bind_ok_iff.mp h
  cases h
  have hcollected := (collectInfo_ok haccepted (builtin_ok_iff.mp hinfo)).1
  have hnodup := haccepted.nodup hloaded
  have htemplate := servicesOf_set entries services
  have hrebuild := rebuildServices_ok hcollected haccepted.names_eq hnodup l4BindHost
  unfold createComposeTemplate
  rw [htemplate, ok_bind, hrebuild, ok_bind]
  refine ⟨_, services, rfl, hcollected, hnodup, ?_, haccepted.names_eq, servicesOf_set _ _⟩
  rw [get?_normalized _ _ (by decide), Dict.get?_set_self]

/-- **A collected compose is rebuilt.** -/
theorem createComposeTemplate_ok {compose : Yaml} (hloaded : compose.WellFormed) {strict : Bool}
    {extraKeys : Option String} {normalized : Entries}
    (h : createGreffonInfo greffonPath compose greffon strict extraKeys = .ok (info, normalized))
    (l4BindHost : String) :
    ∃ rebuilt services, createComposeTemplate normalized info l4BindHost = .ok rebuilt ∧
      Rebuilt greffonPath greffon compose.entries info rebuilt services := by
  obtain ⟨rebuilt, bare, hrebuilt, hcollected, hnodup, hnetworks, hnames, hread⟩ :=
    createComposeTemplate_furnished hloaded h l4BindHost
  exact ⟨rebuilt, _, hrebuilt, hcollected, hnodup, hnetworks, hread, bare, l4BindHost, hnames, rfl⟩

theorem Rebuilt.names {rebuilt : Entries} {services : List (String × Entries)}
    (h : Rebuilt greffonPath greffon entries info rebuilt services) {name : String} :
    name ∈ services.map Prod.fst ↔ name = nginxService ∨ name ∈ serviceNamesOf entries := by
  obtain ⟨bare, l4BindHost, hbare, rfl⟩ := h.services
  rw [map_fst_furnished, mem_names_bareServices, hbare]

theorem itemsAt_bare {bare : List (String × Entries)} {s : String × Entries}
    (h : s ∈ bareServices bare info) : itemsAt s.2 "volumes" = [] := by
  rcases mem_upsert h with rfl | hs
  · rfl
  · obtain ⟨raw, -, rfl⟩ := List.mem_map.mp hs
    exact itemsAt_resetService (by decide) _

/-- **The mounts of a rebuilt service** are those that the info has for it. -/
theorem Rebuilt.mounts {rebuilt : Entries} {services : List (String × Entries)}
    (h : Rebuilt greffonPath greffon entries info rebuilt services) {s : String × Entries}
    (hs : s ∈ services) : itemsAt s.2 "volumes" = itemsFor (volumeMappings info) s.1 := by
  obtain ⟨bare, l4BindHost, -, rfl⟩ := h.services
  obtain ⟨b, hb, rfl⟩ := List.mem_map.mp hs
  rw [itemsAt_furnished_volumes, itemsAt_bare hb, List.nil_append]
  rfl

/-- **The networks of a rebuilt service** are those that the info has for it; the sidecar
has the internal one besides. -/
theorem Rebuilt.joins {rebuilt : Entries} {services : List (String × Entries)}
    (h : Rebuilt greffonPath greffon entries info rebuilt services) {s : String × Entries}
    (hs : s ∈ services) :
    s.1 ∈ serviceNamesOf entries ∧ itemsAt s.2 "networks" = itemsFor (networkMemberships info) s.1 ∨
      s.1 = nginxService ∧ itemsAt s.2 "networks" =
        .str internalNetworkId :: itemsFor (networkMemberships info) s.1 := by
  obtain ⟨bare, l4BindHost, hbare, rfl⟩ := h.services
  obtain ⟨b, hb, rfl⟩ := List.mem_map.mp hs
  rw [itemsAt_furnished_networks]
  rcases mem_upsert hb with rfl | hraw
  · refine .inr ⟨rfl, ?_⟩
    rw [← h.collected.internal]
    rfl
  · obtain ⟨raw, hmem, rfl⟩ := List.mem_map.mp hraw
    rw [itemsAt_resetService (by decide), ← hbare]
    exact .inl ⟨List.mem_map.mpr ⟨raw, hmem, rfl⟩, rfl⟩

end

end Greffer.Compose

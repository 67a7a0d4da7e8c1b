import Greffer.Compose.Rebuilt

/-! # The greffer's own entries

The sidecar, its certificate volume and the internal network stand in the same
dictionaries as the author's entries, under fixed names.  A compose *leaves them alone*
(`LeavesReserved`) when it has no service and no volume of the sidecar's name, when no
mount takes its source from them, and when it does not declare the internal network, or
puts every service on it.  `reserved_entries_survive` says that these are exactly the
composes whose rebuilt form has the greffer's entries as the greffer means them.

Nothing refuses the others.  A mount of the source `nginx_volume` gets the docker volume
`<id>_nginx_volume`, which is the sidecar's, and a mount of `greffon_nginx` joins its entry:
either reads the private key (`tenant_mounts_the_key`).
-/
namespace Greffer.Compose

/-! ## The volume of a mapping -/

/-- The source of a mapping `SOURCE:TARGET[:MODE]`. -/
def sourceOf (text : String) : String := (partition ':' text).1

/-- The sidecar's docker volume. -/
def certificateVolume (id : String) : String := id ++ "_nginx_volume"

theorem sourceOf_eq (text : String) :
    sourceOf text = String.ofList (text.toList.takeWhile (· != ':')) := by
  unfold sourceOf partition
  split <;> rfl

theorem sourceOf_append (a b : String) : sourceOf (a ++ ":" ++ b) = sourceOf a := by
  rw [sourceOf_eq, sourceOf_eq, String.toList_append, String.toList_append, List.append_assoc]
  congr 1
  induction a.toList with
  | nil => rfl
  | cons c rest ih =>
    rw [List.cons_append, List.takeWhile_cons, List.takeWhile_cons, ih]

/-- The source of a mount is that of its volume. -/
theorem sourceOf_mapping (value : String) (m : MountPoint) :
    sourceOf (mapping value m) = sourceOf value := by
  unfold mapping
  split
  · split
    · exact sourceOf_append _ _
    · rw [sourceOf_append, sourceOf_append]
  · exact sourceOf_append _ _

theorem acceptedId_no_colon {id : String} (h : acceptedId id = true) : ':' ∉ id.toList := by
  intro hmem
  rw [acceptedId, Bool.and_eq_true, List.all_eq_true] at h
  exact absurd (h.2 ':' hmem) (by decide)

/-- An instance's id is no part of what a colon cuts. -/
theorem sourceOf_prefixed {id : String} (h : acceptedId id = true) (s : String) :
    sourceOf (id ++ "_" ++ s) = id ++ "_" ++ sourceOf s := by
  have hcolon := acceptedId_no_colon h
  have hpre : ∀ c ∈ (id ++ "_").toList, (c != ':') = true := by
    intro c hc
    rw [String.toList_append, List.mem_append] at hc
    rcases hc with hc | hc
    · exact bne_iff_ne.mpr fun heq => hcolon (heq ▸ hc)
    · have hunder : c = '_' := by simpa using hc
      rw [hunder]
      rfl
  rw [sourceOf_eq, sourceOf_eq, String.toList_append, List.takeWhile_append_of_pos hpre,
    String.ofList_append, String.ofList_toList]

theorem prefixed_eq_certificateVolume {id s : String} :
    id ++ "_" ++ s = certificateVolume id ↔ s = "nginx_volume" := by
  have hsplit : certificateVolume id = id ++ "_" ++ "nginx_volume" := by
    rw [certificateVolume, String.append_assoc]
    rfl
  rw [hsplit]
  exact String.append_right_inj _

theorem sourceOf_certificateVolume {id : String} (h : acceptedId id = true) :
    sourceOf (certificateVolume id) = certificateVolume id := by
  have hsplit : certificateVolume id = id ++ "_" ++ "nginx_volume" :=
    (prefixed_eq_certificateVolume.mpr rfl).symm
  rw [hsplit, sourceOf_prefixed h]
  rfl

/-! ## The entries -/

/-- The greffer's own mount of the certificate. -/
def certificateMount (id : String) : String := certificateVolume id ++ ":" ++ "/etc/nginx/"

/-- **The greffer's entries, as it means them**, in a rebuilt compose. -/
structure Reserved (id : String) (names : List String) (info : GreffonInfo) (rebuilt : Entries)
    (services : List (String × Entries)) : Prop where
  /-- The sidecar stands beside the author's services. -/
  beside : services.map Prod.fst = names ++ [nginxService]
  /-- It is the greffer's, with the certificate. -/
  sidecar : services.lookup nginxService = some
    (Dict.set (getNginxService info) (.str "volumes") (.list [.str (certificateMount id)]))
  /-- No other service mounts its volume. -/
  certificate : ∀ s ∈ services, ∀ m, .str m ∈ itemsAt s.2 "volumes" →
    sourceOf m = certificateVolume id → s.1 = nginxService
  /-- The internal network is there, with the greffer's definition. -/
  internal : ∃ networks, Dict.get? rebuilt "networks" = some (.dict networks) ∧
    Dict.get? networks internalNetworkId = some (.dict [])
  /-- Every service is on it. -/
  joined : ∀ s ∈ services, .str internalNetworkId ∈ itemsAt s.2 "networks"

/-- **A compose that leaves the greffer's entries alone.** -/
structure LeavesReserved (entries : Entries) : Prop where
  service : nginxService ∉ serviceNamesOf entries
  volume : Yaml.str nginxService ∉ topVolumes entries
  mounts : ∀ mount ∈ declaredAll (authored entries),
    mount.2.source ≠ nginxService ∧ sourceOf mount.2.source ≠ "nginx_volume"
  network : Yaml.str internalNetworkId ∉ topNetworks entries ∨
    ∀ s ∈ authored entries, internalNetworkId ∈ networksOf s.2

section
variable {greffonPath : String} {greffon : Greffon} {entries : Entries} {info : GreffonInfo}
  {rebuilt : Entries} {services : List (String × Entries)}

/-- A mount of a rebuilt service is a mount point of the info. -/
theorem Rebuilt.mem_mounts (h : Rebuilt greffonPath greffon entries info rebuilt services)
    {s : String × Entries} (hs : s ∈ services) {m : Yaml} :
    m ∈ itemsAt s.2 "volumes" ↔ ∃ e ∈ info.volumes, ∃ c ∈ e.2.containers,
      c.1 = s.1 ∧ m = .str (mapping e.2.value c.2) := by
  rw [h.mounts hs, mem_itemsFor, mem_volumeMappings]
  refine exists_congr fun e => and_congr_right fun _ => exists_congr fun c =>
    and_congr_right fun _ => ?_
  rw [Prod.mk.injEq]
  exact and_congr_left fun _ => eq_comm

/-- A mount point of the sidecar's, without a service of its name, is its own. -/
theorem Collected.sidecar_container (h : Collected greffonPath greffon entries info)
    (hservice : nginxService ∉ serviceNamesOf entries) {e : Yaml × VolumeInfo}
    (he : e ∈ info.volumes) {c : String × MountPoint} (hc : c ∈ e.2.containers)
    (hname : c.1 = nginxService) :
    e.1 = .str nginxService ∧ Yaml.str nginxService ∉ topVolumes entries := by
  obtain ⟨s, hs, -, ⟨rfl, htop, -⟩ | ⟨mount, hmount, -, rfl⟩⟩ := h.container he hc
  · exact ⟨hs, htop⟩
  · obtain ⟨svc, hsvc, hsame, -⟩ := mem_declaredAll.mp hmount
    exact absurd (hname ▸ hsame ▸ List.mem_map_of_mem hsvc) hservice

theorem itemsFor_eq_nil {pairs : List (String × Yaml)} {name : String}
    (h : ∀ p ∈ pairs, p.1 ≠ name) : itemsFor pairs name = [] := by
  rw [itemsFor, List.map_eq_nil_iff, List.filter_eq_nil_iff]
  exact fun p hp heq => h p hp (eq_of_beq heq)

theorem itemsFor_append (a b : List (String × Yaml)) (name : String) :
    itemsFor (a ++ b) name = itemsFor a name ++ itemsFor b name := by
  rw [itemsFor, List.filter_append, List.map_append]
  rfl

/-- **The sidecar mounts its certificate and nothing else**, if no entry of the author's
has its name. -/
theorem Collected.sidecar_mounts (h : Collected greffonPath greffon entries info)
    (hleaves : LeavesReserved entries) :
    itemsFor (volumeMappings info) nginxService = [.str (certificateMount greffon.id)] := by
  obtain ⟨volumes, hinitial, hinfo⟩ := h.initial
  have hget : Dict.get? info.volumes nginxService = some (nginxVolume greffonPath greffon) := by
    rw [hinfo, get?_addAll_of_not_mounted _ fun m hm => (hleaves.mounts m hm).1, hinitial.get,
      if_neg hleaves.volume, if_pos rfl]
  obtain ⟨pre, post, hsplit, -⟩ := h.volumesOf.distinct.exists_split hget
  have hdistinct := h.volumesOf.distinct
  rw [hsplit] at hdistinct
  have hnone : ∀ part : Dict VolumeInfo, (∀ e ∈ part, e ∈ pre ++ post) →
      itemsFor (part.flatMap fun v => v.2.containers.map fun c =>
        (c.1, Yaml.str (mapping v.2.value c.2))) nginxService = [] := by
    intro part hsub
    refine itemsFor_eq_nil fun p hp hname => ?_
    obtain ⟨e, he, hp⟩ := List.mem_flatMap.mp hp
    obtain ⟨c, hc, rfl⟩ := List.mem_map.mp hp
    have hmem : e ∈ info.volumes := by
      rw [hsplit, List.mem_append, List.mem_cons]
      exact (List.mem_append.mp (hsub e he)).imp_right .inr
    exact hdistinct.ne_of_split (hsub e he) (h.sidecar_container hleaves.service hmem hc hname).1
  rw [volumeMappings, hsplit, List.flatMap_append, List.flatMap_cons, itemsFor_append,
    itemsFor_append, hnone pre fun _ => List.mem_append_left _,
    hnone post fun _ => List.mem_append_right _]
  rfl

/-- The sidecar is the greffer's, if no entry of the author's has its name. -/
theorem Rebuilt.sidecar (h : Rebuilt greffonPath greffon entries info rebuilt services)
    (hleaves : LeavesReserved entries) :
    services.map Prod.fst = serviceNamesOf entries ++ [nginxService] ∧
      services.lookup nginxService = some (Dict.set (getNginxService info) (.str "volumes")
        (.list [.str (certificateMount greffon.id)])) := by
  obtain ⟨bare, l4BindHost, hbare, rfl⟩ := h.services
  have hnames : (bare.map fun s => (s.1, resetService s.2)).map Prod.fst = serviceNamesOf entries := by
    rw [List.map_map, ← hbare]
    rfl
  have hfresh : nginxService ∉ (bare.map fun s => (s.1, resetService s.2)).map Prod.fst := by
    rw [hnames]
    exact hleaves.service
  have hports : itemsFor (l4Mappings info l4BindHost) nginxService = [] := by
    refine itemsFor_eq_nil fun p hp hname => ?_
    obtain ⟨⟨port, i⟩, hport, rfl⟩ := List.mem_map.mp hp
    have hmem := (List.mem_zipIdx (List.mem_filter.mp hport).1).2.2
    have hport := h.collected.ports _ (hmem ▸ List.getElem_mem _)
    exact hleaves.service (hname ▸ hport)
  have hnetworks : itemsFor (networkMemberships info) nginxService = [] := by
    refine itemsFor_eq_nil fun p hp hname => ?_
    obtain ⟨e, he, c, hc, rfl⟩ := mem_networkMemberships.mp hp
    exact hleaves.service (hname ▸ h.collected.networksOf.known e he c hc)
  rw [bareServices, upsert_of_not_mem _ hfresh, List.map_append]
  constructor
  · rw [List.map_append, map_fst_furnished, hnames]
    rfl
  · have hnone : ((bare.map fun s => (s.1, resetService s.2)).map
        (furnished info l4BindHost)).lookup nginxService = none := by
      rw [List.lookup_eq_none_iff]
      intro p hp
      have hmem := List.mem_map_of_mem (f := Prod.fst) hp
      rw [map_fst_furnished] at hmem
      exact bne_iff_ne.mpr fun heq => hfresh (heq ▸ hmem)
    rw [List.lookup_append, hnone, Option.none_or, List.map_singleton, furnished, hports,
      hnetworks, h.collected.sidecar_mounts hleaves, List.lookup_cons, beq_self_eq_true]
    rfl

theorem get?_rebuiltNetworks {s : String} (h : ∃ e ∈ info.networks, e.2.value = .str s) :
    Dict.get? (rebuiltNetworks info) s = some (.dict []) := by
  unfold rebuiltNetworks
  generalize info.networks = networks at h
  suffices hfold : ∀ (d : Entries), (Dict.get? d s = some (.dict []) ∨
      ∃ e ∈ networks, e.2.value = .str s) →
      Dict.get? (networks.foldl (fun d n => Dict.set d n.2.value (.dict [])) d) s =
        some (.dict []) from hfold [] (.inr h)
  clear h
  induction networks with
  | nil => exact fun d hd => hd.elim id fun ⟨_, he, _⟩ => (by cases he)
  | cons n rest ih =>
    intro d hd
    rw [List.foldl_cons]
    refine ih _ ?_
    by_cases hn : n.2.value = .str s
    · rw [hn]
      exact .inl Dict.get?_set_self
    · rw [Dict.get?_set_ne hn]
      refine hd.imp_right fun ⟨e, he, hvalue⟩ => ?_
      rcases List.mem_cons.mp he with rfl | he
      · exact absurd hvalue hn
      · exact ⟨e, he, hvalue⟩

/-- A service is on the internal network if the compose does not declare it, or if the
service names it. -/
theorem Collected.joins_internal (h : Collected greffonPath greffon entries info)
    {name : String} (hname : name ∈ serviceNamesOf entries) :
    (name, .str internalNetworkId) ∈ networkMemberships info ↔
      Yaml.str internalNetworkId ∉ topNetworks entries ∨
        ∃ s ∈ authored entries, s.1 = name ∧ internalNetworkId ∈ Compose.networksOf s.2 := by
  have hnetwork := h.network internalNetworkId
  rw [if_pos rfl] at hnetwork
  rw [mem_networkMemberships]
  constructor
  · rintro ⟨e, he, c, hc, heq⟩
    obtain ⟨rfl, hvalue⟩ := Prod.mk.inj heq
    have hkey := (h.networksOf.keyed e he internalNetworkId).mp hvalue.symm
    have hget := h.networksOf.distinct.get?_of_mem (show (Yaml.str internalNetworkId, e.2) ∈ _ by
      rw [← hkey]
      exact he)
    rw [hnetwork] at hget
    split at hget
    · refine .inr ((mem_joining (by decide)).mp ?_)
      rw [← Option.some.inj hget] at hc
      exact hc
    · rename_i htop
      exact .inl htop
  · intro hjoin
    by_cases htop : Yaml.str internalNetworkId ∈ topNetworks entries
    · rw [if_pos htop] at hnetwork
      exact ⟨_, Dict.mem_of_get? hnetwork, name,
        (mem_joining (by decide)).mpr (hjoin.resolve_left (not_not_intro htop)), rfl⟩
    · rw [if_neg htop] at hnetwork
      exact ⟨_, Dict.mem_of_get? hnetwork, name, List.mem_append_left _ hname, rfl⟩

theorem Rebuilt.internal (h : Rebuilt greffonPath greffon entries info rebuilt services) :
    ∃ networks, Dict.get? rebuilt "networks" = some (.dict networks) ∧
      Dict.get? networks internalNetworkId = some (.dict []) := by
  refine ⟨_, h.networks, get?_rebuiltNetworks ?_⟩
  have hnetwork := h.collected.network internalNetworkId
  rw [if_pos rfl] at hnetwork
  split at hnetwork
  · exact ⟨_, Dict.mem_of_get? hnetwork, rfl⟩
  · exact ⟨_, Dict.mem_of_get? hnetwork, rfl⟩

/-- **The greffer's entries stand** in the rebuilt form of a compose that leaves them alone. -/
theorem Rebuilt.reserved (h : Rebuilt greffonPath greffon entries info rebuilt services)
    (hid : acceptedId greffon.id = true) (hleaves : LeavesReserved entries) :
    Reserved greffon.id (serviceNamesOf entries) info rebuilt services := by
  obtain ⟨hbeside, hsidecar⟩ := h.sidecar hleaves
  refine ⟨hbeside, hsidecar, ?_, h.internal, ?_⟩
  · intro s hs m hm hsource
    obtain ⟨e, he, c, hc, hname, hmapping⟩ := (h.mem_mounts hs).mp hm
    rw [Yaml.str.inj hmapping, sourceOf_mapping] at hsource
    obtain ⟨source, -, hvalue, ⟨-, -, rfl⟩ | ⟨mount, hmount, rfl, -⟩⟩ := h.collected.container he hc
    · exact hname.symm
    · obtain ⟨hne, hcut⟩ := hleaves.mounts mount hmount
      rw [hvalue, volumeName, if_neg fun hand => hne hand.1, sourceOf_prefixed hid,
        prefixed_eq_certificateVolume] at hsource
      exact absurd hsource hcut
  · intro s hs
    have hmember : s.1 ∈ serviceNamesOf entries →
        .str internalNetworkId ∈ itemsFor (networkMemberships info) s.1 := by
      intro hname
      rw [mem_itemsFor, h.collected.joins_internal hname]
      obtain ⟨raw, hraw, hsame⟩ := List.mem_map.mp hname
      exact hleaves.network.imp_right fun hall => ⟨raw, hraw, hsame, hall raw hraw⟩
    rcases h.joins hs with ⟨hname, hitems⟩ | ⟨-, hitems⟩
    · rw [hitems]
      exact hmember hname
    · rw [hitems]
      exact List.mem_cons_self

/-- **They stand in no other.** -/
theorem Rebuilt.leavesReserved (h : Rebuilt greffonPath greffon entries info rebuilt services)
    (hid : acceptedId greffon.id = true)
    (hreserved : Reserved greffon.id (serviceNamesOf entries) info rebuilt services) :
    LeavesReserved entries := by
  have hservice : nginxService ∉ serviceNamesOf entries := by
    intro hmem
    obtain ⟨bare, l4BindHost, hbare, hservices⟩ := h.services
    have hnames : (bare.map fun s => (s.1, resetService s.2)).map Prod.fst =
        serviceNamesOf entries := by
      rw [List.map_map, ← hbare]
      rfl
    have hbeside := hreserved.beside
    rw [hservices, map_fst_furnished, bareServices, keys_upsert_of_mem _ (by rwa [hnames]), hnames]
      at hbeside
    exact absurd (congrArg List.length hbeside) (by simp)
  -- a mount of a tenant's, seen in the rebuilt service
  have hmount : ∀ mount ∈ declaredAll (authored entries),
      sourceOf (volumeName greffon.id entries mount.2.source) ≠ certificateVolume greffon.id := by
    intro mount hm hsource
    obtain ⟨e, he, hvalue, p, hc⟩ := h.collected.mounted hm
    obtain ⟨svc, hsvc, hsame, -⟩ := mem_declaredAll.mp hm
    have hname : mount.1 ∈ serviceNamesOf entries := hsame ▸ List.mem_map_of_mem hsvc
    obtain ⟨s, hs, hsname⟩ := List.mem_map.mp (h.names.mpr (.inr hname))
    have hmem := (h.mem_mounts hs).mpr ⟨e, he, _, hc, hsname.symm, rfl⟩
    have hnginx := hreserved.certificate s hs _ hmem (by rw [sourceOf_mapping, hvalue, hsource])
    exact hservice (hnginx ▸ hsname ▸ hname)
  have hvolume : Yaml.str nginxService ∉ topVolumes entries := by
    intro htop
    obtain ⟨s, hs, hlookup⟩ : ∃ s ∈ services, s.1 = nginxService ∧
        s.2 = Dict.set (getNginxService info) (.str "volumes")
          (.list [.str (certificateMount greffon.id)]) :=
      ⟨_, mem_of_lookup hreserved.sidecar, rfl, rfl⟩
    have hmem : .str (certificateMount greffon.id) ∈ itemsAt s.2 "volumes" := by
      rw [hlookup.2, itemsAt, Dict.get?_set_self]
      exact List.mem_cons_self
    obtain ⟨e, he, c, hc, hname, -⟩ := (h.mem_mounts hs).mp hmem
    exact (h.collected.sidecar_container hservice he hc (hname.trans hlookup.1)).2 htop
  refine ⟨hservice, hvolume, fun mount hm => ⟨fun hsource => ?_, fun hsource => ?_⟩, ?_⟩
  · refine hmount mount hm ?_
    rw [hsource, volumeName, if_pos ⟨rfl, hvolume⟩]
    exact sourceOf_certificateVolume hid
  · refine hmount mount hm ?_
    unfold volumeName
    split
    · exact sourceOf_certificateVolume hid
    · rw [sourceOf_prefixed hid, hsource]
      exact prefixed_eq_certificateVolume.mpr rfl
  · by_cases htop : Yaml.str internalNetworkId ∈ topNetworks entries
    · refine .inr fun raw hraw => ?_
      have hname : raw.1 ∈ serviceNamesOf entries := List.mem_map_of_mem hraw
      obtain ⟨s, hs, hsname⟩ := List.mem_map.mp (h.names.mpr (.inr hname))
      have hjoined := hreserved.joined s hs
      rcases h.joins hs with ⟨-, hitems⟩ | ⟨hnginx, -⟩
      · rw [hitems, mem_itemsFor, hsname, h.collected.joins_internal hname] at hjoined
        obtain ⟨raw', hraw', hsame, hnet⟩ := hjoined.resolve_left (not_not_intro htop)
        obtain rfl := List.inj_on_of_nodup_map h.nodup hraw' hraw hsame
        exact hnet
      · exact absurd (hnginx ▸ hsname ▸ hname) hservice
    · exact .inl htop

/-- **The greffer's own entries survive a compose exactly when it leaves them alone**: for
every compose that a start collects, the rebuild succeeds, and its sidecar, its
certificate volume and its internal network are the greffer's if and only if the compose
has no service and no volume of the sidecar's name, takes no mount from either, and does
not take the internal network for its own. -/
theorem reserved_entries_survive {compose : Yaml} (hloaded : compose.WellFormed)
    (hid : acceptedId greffon.id = true) {strict : Bool} {extraKeys : Option String}
    {normalized : Entries}
    (h : createGreffonInfo greffonPath compose greffon strict extraKeys = .ok (info, normalized))
    (l4BindHost : String) :
    ∃ rebuilt services, createComposeTemplate normalized info l4BindHost = .ok rebuilt ∧
      servicesOf rebuilt = .ok services ∧
      (Reserved greffon.id (serviceNamesOf compose.entries) info rebuilt services ↔
        LeavesReserved compose.entries) := by
  obtain ⟨rebuilt, services, htemplate, hrebuilt⟩ := createComposeTemplate_ok hloaded h l4BindHost
  exact ⟨rebuilt, services, htemplate, hrebuilt.read,
    hrebuilt.leavesReserved hid, hrebuilt.reserved hid⟩

end

/-- A compose of one service with the given mounts. -/
def appMounting (mounts : List String) : Yaml :=
  .dict [(.str "services", .dict [(.str "app", .dict
    [(.str "image", .str "x"), (.str "volumes", .list (mounts.map .str))])])]

theorem appMounting_wellFormed (mounts : List String) : (appMounting mounts).WellFormed := by
  have hall : Yaml.WellFormedAll (mounts.map .str) := by
    induction mounts with
    | nil => exact trivial
    | cons m rest ih => exact ⟨trivial, ih⟩
  simp [appMounting, Yaml.WellFormed, Yaml.WellFormedValues, Yaml.Distinct, Yaml.sameKey,
    Yaml.number?, hall]

/-- A request for an instance without settings. -/
def plainGreffon (id : String) : Greffon := { id := id }

/-- A mount of a volume of the author's is left alone. -/
theorem reserved_entries_survive_data : ∃ info normalized rebuilt services,
    createGreffonInfo "/data" (appMounting ["data:/data"]) (plainGreffon "a") true none =
      .ok (info, normalized) ∧
    createComposeTemplate normalized info "0.0.0.0" = .ok rebuilt ∧
    servicesOf rebuilt = .ok services ∧ Reserved "a" ["app"] info rebuilt services := by
  obtain ⟨info, normalized, hinfo⟩ : ∃ info normalized, createGreffonInfo "/data"
      (appMounting ["data:/data"]) (plainGreffon "a") true none = .ok (info, normalized) := ⟨_, _, rfl⟩
  obtain ⟨rebuilt, services, htemplate, hread, hiff⟩ :=
    reserved_entries_survive (appMounting_wellFormed _) (by decide) hinfo "0.0.0.0"
  refine ⟨info, normalized, rebuilt, services, hinfo, htemplate, hread, hiff.mpr ?_⟩
  exact ⟨by decide, by decide, by decide, .inl (by decide)⟩

/-- **A tenant reads the private key**: the mount of `nginx_volume` is accepted, of the
strict set, and is the sidecar's volume. -/
theorem tenant_mounts_the_key : ∃ info normalized rebuilt services,
    createGreffonInfo "/data" (appMounting ["nginx_volume:/steal"]) (plainGreffon "a") true none =
      .ok (info, normalized) ∧
    createComposeTemplate normalized info "0.0.0.0" = .ok rebuilt ∧
    servicesOf rebuilt = .ok services ∧
    (∃ s ∈ services, s.1 = "app" ∧ .str "a_nginx_volume:/steal" ∈ itemsAt s.2 "volumes") ∧
    ¬ Reserved "a" ["app"] info rebuilt services := by
  refine ⟨_, _, _, _, rfl, rfl, rfl, ⟨_, List.mem_cons_self, rfl, List.mem_cons_self⟩, fun h => ?_⟩
  exact absurd (h.certificate _ List.mem_cons_self _ List.mem_cons_self rfl) (by decide)

end Greffer.Compose

import Greffer.Compose.Info

/-! # Rebuilding a compose

`createComposeTemplate` takes the ports, the mounts and the networks off every service,
sets the greffer's own sidecar beside them, and puts back what the info holds: the ports
of the fourth layer on their own services, every mount point of every volume, every
network on the services that it lists.  What nginx serves and which volumes a service
sees is decided by the info alone.
-/
namespace Greffer.Compose

/-- The list under a key of a service. -/
def itemsAt (service : Entries) (key : String) : List Yaml :=
  match Dict.get? service key with
  | some (.list items) => items
  | _ => []

/-- `service.setdefault(key, [])`, then `service[key].append(item)`. -/
def appendItem (key : String) (service : Entries) (item : Yaml) : Entries :=
  Dict.set service (.str key) (.list (itemsAt service key ++ [item]))

/-- `compose['services'][name][key].append(item)`, for each name and item in turn. -/
def appendEach (key : String) :
    List (String × Yaml) → List (String × Entries) → Except Exn (List (String × Entries))
  | [], services => .ok services
  | (name, item) :: rest, services =>
    if services.any fun s => s.1 == name then
      appendEach key rest <|
        services.map fun s => if s.1 = name then (s.1, appendItem key s.2 item) else s
    else .error (.exception ("KeyError: '" ++ name ++ "'"))

/-- What the template says for the host port of the port at an index. -/
def portHostExpression (i : Nat) : String := "\x7b\x7bports[" ++ toString i ++ "].port_host\x7d\x7d"

/-- `port.get('exposure_tier', 'http') != 'l4'`. -/
def PortInfo.proxied (p : PortInfo) : Bool := !decide (p.exposureTier = .str "l4")

/-- `get_nginx_service`: every port is counted, those of the fourth layer are not served. -/
def getNginxService (info : GreffonInfo) : Entries :=
  [(.str "image", .str "nginx:1.20.2-alpine-perl"), (.str "restart", .str "unless-stopped"),
    (.str "ports", .list ((info.ports.zipIdx.filter fun p => p.1.proxied).map fun p =>
      .str (portHostExpression p.2 ++ ":" ++ p.1.portContainer))),
    (.str "networks", .list [.str info.internalNetwork])]

/-- A service without what the info decides. -/
def resetService (service : Entries) : Entries :=
  Dict.del (Dict.set (Dict.set (Dict.set service (.str "ports") (.list [])) (.str "volumes")
    (.list [])) (.str "networks") (.list [])) "container_name"

/-- The container's side of a published port. -/
def containerSide (l4BindHost : String) (p : PortInfo) (i : Nat) : String :=
  if p.samePort then
    if l4BindHost = "127.0.0.1" then "\x7b\x7b instance_l4_port \x7d\x7d"
    else portHostExpression i
  else p.portContainer

/-- The ports of the fourth layer, each with its service. -/
def l4Mappings (info : GreffonInfo) (l4BindHost : String) : List (String × Yaml) :=
  (info.ports.zipIdx.filter fun p => !p.1.proxied).map fun p =>
    (p.1.containerName, .str (l4BindHost ++ ":" ++ portHostExpression p.2 ++ ":" ++
      containerSide l4BindHost p.1 p.2 ++ if p.1.protocol = .str "udp" then "/udp" else ""))

/-- The short form of a mount. -/
def mapping (value : String) (m : MountPoint) : String :=
  match m.mode with
  | some mode =>
    if mode = "" then value ++ ":" ++ m.path else value ++ ":" ++ m.path ++ ":" ++ mode
  | none => value ++ ":" ++ m.path

/-- The mounts, each with its service, one volume after the other. -/
def volumeMappings (info : GreffonInfo) : List (String × Yaml) :=
  info.volumes.flatMap fun v => v.2.containers.map fun c => (c.1, .str (mapping v.2.value c.2))

/-- The networks, each with a service that joins it. -/
def networkMemberships (info : GreffonInfo) : List (String × Yaml) :=
  info.networks.flatMap fun n => n.2.containers.map fun c => (c, n.2.value)

/-- The loop of the renaming. -/
def renameServices (names : List (String × String)) :
    List (String × Entries) → List (String × Entries) → Except Exn (List (String × Entries))
  | [], renamed => .ok renamed
  | (name, service) :: rest, renamed =>
    match names.lookup name with
    | some value => renameServices names rest (upsert renamed value service)
    | none => .error (.exception ("KeyError: '" ++ name ++ "'"))

/-- The services before the info furnishes them: the author's, reset, and the sidecar. -/
def bareServices (services : List (String × Entries)) (info : GreffonInfo) :
    List (String × Entries) :=
  upsert (services.map fun s => (s.1, resetService s.2)) nginxService (getNginxService info)

/-- The services of the rebuilt compose. -/
def rebuildServices (services : List (String × Entries)) (info : GreffonInfo) (l4BindHost : String) :
    Except Exn (List (String × Entries)) := do
  let services ← appendEach "ports" (l4Mappings info l4BindHost) (bareServices services info)
  let services ← appendEach "volumes" (volumeMappings info) services
  let services ← appendEach "networks" (networkMemberships info) services
  renameServices info.services services []

/-- The top-level volumes of the rebuilt compose. -/
def rebuiltVolumes (info : GreffonInfo) : Entries :=
  info.volumes.foldl (fun d v =>
    Dict.set d (.str v.2.value) (.dict [(.str "name", .str v.2.value)])) []

/-- The top-level networks of the rebuilt compose. -/
def rebuiltNetworks (info : GreffonInfo) : Entries :=
  info.networks.foldl (fun d n => Dict.set d n.2.value (.dict [])) []

/-- `create_compose_template_from_greffon`. -/
def createComposeTemplate (compose : Entries) (info : GreffonInfo) (l4BindHost : String) :
    Except Exn Entries := do
  let services ← servicesOf compose
  let services ← rebuildServices services info l4BindHost
  return Dict.set (Dict.set (Dict.set compose (.str "volumes") (.dict (rebuiltVolumes info)))
    (.str "networks") (.dict (rebuiltNetworks info))) (.str "services") (servicesYaml services)

/-! ## What the rebuild does to each service -/

theorem itemsAt_appendItem_self (key : String) (service : Entries) (item : Yaml) :
    itemsAt (appendItem key service item) key = itemsAt service key ++ [item] := by
  rw [appendItem, itemsAt, Dict.get?_set_self]

theorem itemsAt_appendItem_ne {key key' : String} (hne : key ≠ key') (service : Entries)
    (item : Yaml) : itemsAt (appendItem key service item) key' = itemsAt service key' := by
  rw [appendItem, itemsAt, Dict.get?_set_ne fun h => hne (Yaml.str.inj h), itemsAt]

/-- The items for one service, in their order. -/
def itemsFor (pairs : List (String × Yaml)) (name : String) : List Yaml :=
  (pairs.filter fun p => p.1 == name).map Prod.snd

theorem mem_itemsFor {pairs : List (String × Yaml)} {name : String} {item : Yaml} :
    item ∈ itemsFor pairs name ↔ (name, item) ∈ pairs := by
  rw [itemsFor, List.mem_map]
  constructor
  · rintro ⟨⟨n, i⟩, hp, rfl⟩
    obtain ⟨hmem, hn⟩ := List.mem_filter.mp hp
    cases eq_of_beq hn
    exact hmem
  · exact fun h => ⟨_, List.mem_filter.mpr ⟨h, beq_self_eq_true _⟩, rfl⟩

/-- **Appending item after item** gives each service its own items, and fails only on a
name that is no service's. -/
theorem appendEach_ok (key : String) (pairs : List (String × Yaml))
    (services : List (String × Entries)) (h : ∀ p ∈ pairs, p.1 ∈ services.map Prod.fst) :
    appendEach key pairs services =
      .ok (services.map fun s => (s.1, (itemsFor pairs s.1).foldl (appendItem key) s.2)) := by
  induction pairs generalizing services with
  | nil =>
    simp [appendEach, itemsFor]
  | cons p rest ih =>
    obtain ⟨name, item⟩ := p
    have hany : (services.any fun s => s.1 == name) = true := by
      obtain ⟨s, hs, hname⟩ := List.mem_map.mp (h _ List.mem_cons_self)
      exact List.any_eq_true.mpr ⟨s, hs, beq_iff_eq.mpr hname⟩
    rw [appendEach, if_pos hany, ih]
    · rw [List.map_map]
      refine congrArg Except.ok (List.map_congr_left fun s _ => ?_)
      by_cases hs : s.1 = name
      · simp [hs, itemsFor]
      · have hne : (name == s.1) = false := beq_eq_false_iff_ne.mpr (Ne.symm hs)
        simp [hs, itemsFor, hne]
    · intro p hp
      have hmem := h p (List.mem_cons_of_mem _ hp)
      rw [List.map_map]
      refine (List.mem_map.mp hmem).elim fun s hs => List.mem_map.mpr ⟨s, hs.1, ?_⟩
      simp only [Function.comp_apply]
      split
      · exact hs.2
      · exact hs.2

theorem itemsAt_foldl_self (key : String) (items : List Yaml) (service : Entries) :
    itemsAt (items.foldl (appendItem key) service) key = itemsAt service key ++ items := by
  induction items generalizing service with
  | nil => rw [List.foldl_nil, List.append_nil]
  | cons item rest ih =>
    rw [List.foldl_cons, ih, itemsAt_appendItem_self, List.append_assoc, List.singleton_append]

theorem itemsAt_foldl_ne {key key' : String} (hne : key ≠ key') (items : List Yaml)
    (service : Entries) :
    itemsAt (items.foldl (appendItem key) service) key' = itemsAt service key' := by
  induction items generalizing service with
  | nil => rfl
  | cons item rest ih => rw [List.foldl_cons, ih, itemsAt_appendItem_ne hne]

theorem itemsAt_resetService {key : String} (h : key ∈ managedServiceKeys) (service : Entries) :
    itemsAt (resetService service) key = [] := by
  have hne : key ≠ "container_name" := by
    rintro rfl
    exact absurd h (by decide)
  unfold itemsAt resetService
  rw [Dict.get?_del_ne hne]
  simp only [managedServiceKeys, List.mem_cons, List.not_mem_nil, or_false] at h
  rcases h with rfl | rfl | rfl
  · rw [Dict.get?_set_ne (by simp), Dict.get?_set_ne (by simp), Dict.get?_set_self]
  · rw [Dict.get?_set_ne (by simp), Dict.get?_set_self]
  · rw [Dict.get?_set_self]

/-- A service with everything that the info has for it. -/
def furnished (info : GreffonInfo) (l4BindHost : String) (s : String × Entries) : String × Entries :=
  (s.1, (itemsFor (networkMemberships info) s.1).foldl (appendItem "networks")
    ((itemsFor (volumeMappings info) s.1).foldl (appendItem "volumes")
      ((itemsFor (l4Mappings info l4BindHost) s.1).foldl (appendItem "ports") s.2)))

theorem itemsAt_furnished_volumes (info : GreffonInfo) (l4BindHost : String) (s : String × Entries) :
    itemsAt (furnished info l4BindHost s).2 "volumes" =
      itemsAt s.2 "volumes" ++ itemsFor (volumeMappings info) s.1 := by
  rw [furnished, itemsAt_foldl_ne (by decide), itemsAt_foldl_self, itemsAt_foldl_ne (by decide)]

theorem itemsAt_furnished_networks (info : GreffonInfo) (l4BindHost : String)
    (s : String × Entries) :
    itemsAt (furnished info l4BindHost s).2 "networks" =
      itemsAt s.2 "networks" ++ itemsFor (networkMemberships info) s.1 := by
  rw [furnished, itemsAt_foldl_self, itemsAt_foldl_ne (by decide), itemsAt_foldl_ne (by decide)]

/-- Services that keep their names are renamed to themselves. -/
theorem renameServices_self {names : List (String × String)} {services renamed : List (String × Entries)}
    (h : ∀ s ∈ services, names.lookup s.1 = some s.1)
    (hnodup : ((renamed ++ services).map Prod.fst).Nodup) :
    renameServices names services renamed = .ok (renamed ++ services) := by
  induction services generalizing renamed with
  | nil => rw [renameServices, List.append_nil]
  | cons s rest ih =>
    obtain ⟨name, service⟩ := s
    have hfresh : (renamed.any fun e => e.1 == name) = false := by
      rw [List.any_eq_false]
      intro e he heq
      rw [List.map_append, List.nodup_append] at hnodup
      exact hnodup.2.2 _ (List.mem_map_of_mem he) name (by simp) (eq_of_beq heq)
    have hset : upsert renamed name service = renamed ++ [(name, service)] := by
      rw [upsert, if_neg (Bool.eq_false_iff.mp hfresh)]
    rw [renameServices, h (name, service) List.mem_cons_self]
    simp only
    rw [hset, ih (fun s hs => h s (List.mem_cons_of_mem _ hs))]
    · rw [List.append_assoc, List.singleton_append]
    · rwa [List.append_assoc, List.singleton_append]

end Greffer.Compose

import Greffer.Compose.Normalized

/-! # What the collection holds

On an accepted compose the only failures left to `collectInfo` are those of its top level
(`Collectable`): a `volumes` section that cannot be iterated, an element of `volumes` or
of `networks` that cannot be a key, a streaming label too large to print.  Past them, the
volumes and the networks of the info are those of the top level, with every declared mount
and membership added in turn (`Collected`).

Both dictionaries are described key by key: what `get?` gives at a text before and after
a step, and that keys that are no texts have no containers.
-/
namespace Greffer.Compose

/-! ## The mounts, in one sequence -/

/-- Every mount that a compose declares, with its service. -/
def declaredAll (services : List (String × Entries)) : List (String × VolumeMount) :=
  services.flatMap fun s => (declaredMounts s.2).map fun m => (s.1, m)

/-- One mount of a service, in the volumes. -/
def addMount (id : String) (volumes : Dict VolumeInfo) (mount : String × VolumeMount) :
    Dict VolumeInfo :=
  addMounts id mount.1 [mount.2] volumes

theorem addMounts_eq_foldl (id name : String) (mounts : List VolumeMount) (volumes : Dict VolumeInfo) :
    addMounts id name mounts volumes =
      (mounts.map fun m => (name, m)).foldl (addMount id) volumes := by
  induction mounts generalizing volumes with
  | nil => rfl
  | cons m rest ih =>
    rw [List.map_cons, List.foldl_cons, ← ih]
    rfl

/-- An entry past a mount of it. -/
def VolumeInfo.mounted (v : VolumeInfo) (name : String) (m : VolumeMount) : VolumeInfo :=
  { v with containers := upsert v.containers name ⟨m.target, m.mode⟩ }

/-- The entry of a source that a service mounts for the first time. -/
def unmounted (id source : String) : VolumeInfo := namespaced id (.str source) source []

theorem addMount_eq (id : String) (volumes : Dict VolumeInfo) (mount : String × VolumeMount) :
    addMount id volumes mount = Dict.set volumes (.str mount.2.source)
      (((Dict.get? volumes mount.2.source).getD (unmounted id mount.2.source)).mounted
        mount.1 mount.2) := by
  unfold addMount
  simp only [addMounts]
  cases Dict.get? volumes mount.2.source <;> rfl

/-- **One mount**, key by key. -/
theorem get?_addMount (id : String) (volumes : Dict VolumeInfo) (mount : String × VolumeMount)
    (s : String) :
    Dict.get? (addMount id volumes mount) s =
      if mount.2.source = s then
        some (((Dict.get? volumes s).getD (unmounted id s)).mounted mount.1 mount.2)
      else Dict.get? volumes s := by
  rw [addMount_eq]
  split
  · rename_i hs
    rw [hs, Dict.get?_set_self]
  · rename_i hs
    exact Dict.get?_set_ne fun h => hs (Yaml.str.inj h)

/-- The docker volume of a source, among the volumes so far. -/
def valueOf (id : String) (volumes : Dict VolumeInfo) (source : String) : String :=
  ((Dict.get? volumes source).getD (unmounted id source)).value

theorem valueOf_addMount (id : String) (volumes : Dict VolumeInfo) (mount : String × VolumeMount)
    (source : String) : valueOf id (addMount id volumes mount) source = valueOf id volumes source := by
  unfold valueOf
  rw [get?_addMount]
  split <;> rfl

/-- **The mounts keep the value of an entry**, or name it after its source. -/
theorem value_addAll {id : String} {mounts : List (String × VolumeMount)}
    {volumes : Dict VolumeInfo} {s : String} {v : VolumeInfo}
    (h : Dict.get? (mounts.foldl (addMount id) volumes) s = some v) :
    v.value = valueOf id volumes s := by
  induction mounts generalizing volumes with
  | nil =>
    rw [List.foldl_nil] at h
    rw [valueOf, h]
    rfl
  | cons mount rest ih => rw [ih h, valueOf_addMount]

/-- A container of an entry was there, or is a service that mounts the source. -/
theorem mem_containers_addAll {id : String} {mounts : List (String × VolumeMount)}
    {volumes : Dict VolumeInfo} {s : String} {v : VolumeInfo} {c : String × MountPoint}
    (h : Dict.get? (mounts.foldl (addMount id) volumes) s = some v) (hc : c ∈ v.containers) :
    (∃ v', Dict.get? volumes s = some v' ∧ c ∈ v'.containers) ∨
      ∃ mount ∈ mounts, mount.2.source = s ∧ c = (mount.1, ⟨mount.2.target, mount.2.mode⟩) := by
  induction mounts generalizing volumes with
  | nil => exact .inl ⟨v, h, hc⟩
  | cons mount rest ih =>
    rcases ih h with ⟨v', hv', hc'⟩ | ⟨mount', hmem, hrest⟩
    · rw [get?_addMount] at hv'
      split at hv'
      · rename_i hs
        cases hv'
        rcases mem_upsert hc' with rfl | hold
        · exact .inr ⟨mount, List.mem_cons_self, hs, rfl⟩
        · cases hget : Dict.get? volumes s with
          | none =>
            rw [hget] at hold
            cases hold
          | some v'' =>
            rw [hget] at hold
            exact .inl ⟨v'', rfl, hold⟩
      · exact .inl ⟨v', hv', hc'⟩
    · exact .inr ⟨mount', List.mem_cons_of_mem _ hmem, hrest⟩

/-- A source that no service mounts keeps its entry. -/
theorem get?_addAll_of_not_mounted {id : String} {mounts : List (String × VolumeMount)}
    (volumes : Dict VolumeInfo) {s : String} (h : ∀ mount ∈ mounts, mount.2.source ≠ s) :
    Dict.get? (mounts.foldl (addMount id) volumes) s = Dict.get? volumes s := by
  induction mounts generalizing volumes with
  | nil => rfl
  | cons mount rest ih =>
    rw [List.foldl_cons, ih _ fun m hm => h m (List.mem_cons_of_mem _ hm), get?_addMount,
      if_neg (h mount List.mem_cons_self)]

/-- **A container stays** through the mounts. -/
theorem container_addAll {id : String} {mounts : List (String × VolumeMount)}
    {volumes : Dict VolumeInfo} {s name : String}
    (h : ∃ v, Dict.get? volumes s = some v ∧ name ∈ v.containers.map Prod.fst) :
    ∃ v, Dict.get? (mounts.foldl (addMount id) volumes) s = some v ∧
      name ∈ v.containers.map Prod.fst := by
  induction mounts generalizing volumes with
  | nil => exact h
  | cons mount rest ih =>
    refine ih ?_
    obtain ⟨v, hv, hmem⟩ := h
    rw [get?_addMount]
    split
    · rw [hv]
      exact ⟨_, rfl, mem_keys_upsert.mpr (.inr hmem)⟩
    · exact ⟨v, hv, hmem⟩

/-- **Every mount has its container.** -/
theorem mounted_addAll {id : String} {mounts : List (String × VolumeMount)}
    {volumes : Dict VolumeInfo} {mount : String × VolumeMount} (h : mount ∈ mounts) :
    ∃ v, Dict.get? (mounts.foldl (addMount id) volumes) mount.2.source = some v ∧
      mount.1 ∈ v.containers.map Prod.fst := by
  induction mounts generalizing volumes with
  | nil => cases h
  | cons m rest ih =>
    rcases List.mem_cons.mp h with rfl | h
    · rw [List.foldl_cons]
      refine container_addAll ?_
      rw [get?_addMount, if_pos rfl]
      exact ⟨_, rfl, mem_keys_upsert.mpr (.inl rfl)⟩
    · exact ih h

/-! ## The top level -/

/-- What is set under a name, and under the names after it, is set under each of them. -/
theorem get?_set_listed {β : Type} {d : Dict β} {name : Yaml} {rest : List Yaml} {s : String}
    {value listed : β} (h : name = .str s → value = listed) :
    (if Yaml.str s ∈ rest then some listed else Dict.get? (Dict.set d name value) s) =
      if Yaml.str s ∈ name :: rest then some listed else Dict.get? d s := by
  by_cases hrest : Yaml.str s ∈ rest
  · rw [if_pos hrest, if_pos (List.mem_cons_of_mem _ hrest)]
  · rw [if_neg hrest]
    by_cases hname : name = .str s
    · rw [h hname, hname, Dict.get?_set_self, if_pos List.mem_cons_self]
    · have hmem : Yaml.str s ∉ name :: rest := fun hmem =>
        (List.mem_cons.mp hmem).elim (fun heq => hname heq.symm) hrest
      rw [Dict.get?_set_ne hname, if_neg hmem]

/-- **The declared volumes**, key by key: each stands under its own name, without a
container, and takes the place of what was there. -/
theorem get?_addDeclaredVolumes {id : String} {declared : List Yaml}
    {volumes volumes' : Dict VolumeInfo}
    (h : addDeclaredVolumes id declared volumes = .ok volumes') (s : String) :
    Dict.get? volumes' s =
      if .str s ∈ declared then some (unmounted id s) else Dict.get? volumes s := by
  induction declared generalizing volumes with
  | nil =>
    cases h
    rw [if_neg List.not_mem_nil]
  | cons name rest ih =>
    obtain ⟨t, ht, h⟩ := bind_ok_iff.mp h
    split at h
    · rw [ih h]
      refine get?_set_listed fun hname => ?_
      subst hname
      cases ht
      rfl
    · cases h

/-- The volumes of an instance are distinct, all of them named after it, and only a source
that is a text has containers. -/
structure VolumesOf (id : String) (volumes : Dict VolumeInfo) : Prop where
  distinct : Yaml.Distinct volumes
  plain : ∀ e ∈ volumes, (∀ s, e.1 ≠ .str s) → e.2.containers = []
  prefixed : ∀ e ∈ volumes, ∃ t, e.2.value = id ++ "_" ++ t

theorem VolumesOf.nginx (greffonPath : String) (greffon : Greffon) :
    VolumesOf greffon.id [(.str nginxService, nginxVolume greffonPath greffon)] where
  distinct := List.pairwise_singleton _ _
  plain e he hne := by
    rw [List.mem_singleton.mp he] at hne
    exact absurd rfl (hne nginxService)
  prefixed e he := by
    rw [List.mem_singleton.mp he]
    exact ⟨"nginx_volume", by rw [String.append_assoc]; rfl⟩

theorem VolumesOf.declared {id : String} {declared : List Yaml} {volumes volumes' : Dict VolumeInfo}
    (hv : VolumesOf id volumes) (h : addDeclaredVolumes id declared volumes = .ok volumes') :
    VolumesOf id volumes' := by
  induction declared generalizing volumes with
  | nil =>
    cases h
    exact hv
  | cons name rest ih =>
    obtain ⟨t, ht, h⟩ := bind_ok_iff.mp h
    split at h
    · refine ih ⟨hv.distinct.set _ _, fun e he hne => ?_, fun e he => ?_⟩ h
      · rcases Dict.mem_set he with hold | ⟨hnew, -⟩
        · exact hv.plain e hold hne
        · rw [hnew]
          rfl
      · rcases Dict.mem_set he with hold | ⟨hnew, -⟩
        · exact hv.prefixed e hold
        · exact ⟨t, by rw [hnew]; rfl⟩
    · cases h

theorem VolumesOf.mounts {id : String} {volumes : Dict VolumeInfo} (hv : VolumesOf id volumes)
    (mounts : List (String × VolumeMount)) : VolumesOf id (mounts.foldl (addMount id) volumes) := by
  induction mounts generalizing volumes with
  | nil => exact hv
  | cons mount rest ih =>
    refine ih ?_
    rw [addMount_eq]
    refine ⟨hv.distinct.set _ _, fun e he hne => ?_, fun e he => ?_⟩
    · rcases Dict.mem_set he with hold | ⟨-, hkey | hkey⟩
      · exact hv.plain e hold hne
      · exact absurd hkey (hne _)
      · exact absurd ((Yaml.sameKey_str _ _).mp hkey) (hne _)
    · rcases Dict.mem_set he with hold | ⟨hnew, -⟩
      · exact hv.prefixed e hold
      · rw [hnew]
        cases hget : Dict.get? volumes mount.2.source with
        | none => exact ⟨mount.2.source, rfl⟩
        | some v => exact hv.prefixed _ (Dict.mem_of_get? hget)

/-! ## The networks -/

/-- Every membership that a compose declares: a service, and a network it joins. -/
def memberships (services : List (String × Entries)) : List (String × String) :=
  services.flatMap fun s => (networksOf s.2).map fun n => (s.1, n)

/-- The loop over all of them. -/
def joinAll : List (String × String) → Dict NetworkInfo → Except Exn (Dict NetworkInfo)
  | [], networks => .ok networks
  | (name, network) :: rest, networks => do
    let networks ← addNetworks name [network] networks
    joinAll rest networks

theorem addNetworks_cons (name network : String) (rest : List String) (networks : Dict NetworkInfo) :
    addNetworks name (network :: rest) networks =
      addNetworks name [network] networks >>= addNetworks name rest := by
  simp only [addNetworks]
  split
  · rfl
  · cases Dict.get? networks network <;> rfl

theorem joinAll_append (a b : List (String × String)) (networks : Dict NetworkInfo) :
    joinAll (a ++ b) networks = joinAll a networks >>= joinAll b := by
  induction a generalizing networks with
  | nil => rfl
  | cons p rest ih =>
    rw [List.cons_append, joinAll, joinAll]
    cases addNetworks p.1 [p.2] networks with
    | error e => rfl
    | ok networks' => exact ih networks'

theorem addNetworks_eq_joinAll (name : String) (names : List String) (networks : Dict NetworkInfo) :
    addNetworks name names networks = joinAll (names.map fun n => (name, n)) networks := by
  induction names generalizing networks with
  | nil => rfl
  | cons network rest ih =>
    rw [addNetworks_cons, List.map_cons, joinAll]
    exact congrArg _ (funext fun networks' => ih networks')

/-- The services that join a network, in order. -/
def joining (pairs : List (String × String)) (network : String) : List String :=
  (pairs.filter fun p => p.2 == network && p.2 != "default").map Prod.fst

/-- **The memberships**, key by key. -/
theorem get?_joinAll {pairs : List (String × String)} {networks networks' : Dict NetworkInfo}
    (h : joinAll pairs networks = .ok networks') (s : String) :
    Dict.get? networks' s = (Dict.get? networks s).map fun n =>
      { n with containers := n.containers ++ joining pairs s } := by
  induction pairs generalizing networks with
  | nil =>
    cases h
    cases Dict.get? networks' s <;> simp [joining]
  | cons p rest ih =>
    obtain ⟨name, network⟩ := p
    simp only [joinAll, addNetworks] at h
    by_cases hd : network = "default"
    · rw [if_pos hd] at h
      rw [ih h, show joining ((name, network) :: rest) s = joining rest s by simp [joining, hd]]
    · rw [if_neg hd] at h
      cases hn : Dict.get? networks network with
      | none =>
        rw [hn] at h
        cases h
      | some n =>
        rw [hn] at h
        rw [ih h]
        by_cases hs : network = s
        · subst hs
          rw [Dict.get?_set_self, hn]
          simp [joining, hd]
        · rw [Dict.get?_set_ne fun heq => hs (Yaml.str.inj heq)]
          have hne : (network == s) = false := beq_eq_false_iff_ne.mpr hs
          simp [joining, hne]

theorem joinAll_ok {pairs : List (String × String)} {networks : Dict NetworkInfo}
    (h : ∀ p ∈ pairs, p.2 = "default" ∨ (Dict.get? networks p.2).isSome) :
    ∃ networks', joinAll pairs networks = .ok networks' := by
  induction pairs generalizing networks with
  | nil => exact ⟨networks, rfl⟩
  | cons p rest ih =>
    obtain ⟨name, network⟩ := p
    simp only [joinAll, addNetworks]
    have hrest : ∀ p ∈ rest, p.2 = "default" ∨ (Dict.get? networks p.2).isSome :=
      fun p hp => h p (List.mem_cons_of_mem _ hp)
    by_cases hd : network = "default"
    · rw [if_pos hd]
      exact ih hrest
    · rw [if_neg hd]
      obtain ⟨n, hn⟩ := Option.isSome_iff_exists.mp ((h _ List.mem_cons_self).resolve_left hd)
      rw [hn]
      exact ih fun p hp => (hrest p hp).imp_right Dict.get?_isSome_set

/-- **The declared networks**, key by key. -/
theorem get?_addDeclaredNetworks {declared : List Yaml} {networks networks' : Dict NetworkInfo}
    (h : addDeclaredNetworks declared networks = .ok networks') (s : String) :
    Dict.get? networks' s =
      if .str s ∈ declared then some ⟨.str s, .str s, []⟩ else Dict.get? networks s := by
  induction declared generalizing networks with
  | nil =>
    cases h
    rw [if_neg List.not_mem_nil]
  | cons name rest ih =>
    rw [addDeclaredNetworks] at h
    split at h
    · rw [ih h]
      refine get?_set_listed fun hname => ?_
      subst hname
      rfl
    · cases h

/-- The networks are distinct, the value of each is its key, and only services of the
compose join. -/
structure NetworksOf (names : List String) (networks : Dict NetworkInfo) : Prop where
  distinct : Yaml.Distinct networks
  keyed : ∀ e ∈ networks, ∀ s, e.2.value = .str s ↔ e.1 = .str s
  known : ∀ e ∈ networks, ∀ c ∈ e.2.containers, c ∈ names

theorem NetworksOf.internal (names : List String) :
    NetworksOf names [(.str internalNetworkId, internalNetwork names)] where
  distinct := List.pairwise_singleton _ _
  keyed e he s := by
    rw [List.mem_singleton.mp he]
    rfl
  known e he c hc := by
    rw [List.mem_singleton.mp he] at hc
    exact hc

theorem NetworksOf.set {names : List String} {networks : Dict NetworkInfo}
    (hn : NetworksOf names networks) (key : Yaml) (n : NetworkInfo)
    (h : ∀ s, n.value = .str s ↔ key = .str s) (hknown : ∀ c ∈ n.containers, c ∈ names) :
    NetworksOf names (Dict.set networks key n) := by
  refine ⟨hn.distinct.set _ _, fun e he s => ?_, fun e he => ?_⟩
  swap
  · rcases Dict.mem_set he with hold | ⟨hnew, -⟩
    · exact hn.known e hold
    · rw [hnew]
      exact hknown
  rcases Dict.mem_set he with hold | ⟨hnew, hkey | hkey⟩
  · exact hn.keyed e hold s
  · rw [hnew, hkey]
    exact h s
  · rw [hnew, h s]
    constructor
    · intro hs
      rw [hs] at hkey
      exact (Yaml.sameKey_str _ _).mp hkey
    · intro hs
      rw [hs] at hkey
      exact Yaml.sameKey_of_str _ _ hkey

theorem NetworksOf.declared {names : List String} {declared : List Yaml}
    {networks networks' : Dict NetworkInfo} (hn : NetworksOf names networks)
    (h : addDeclaredNetworks declared networks = .ok networks') : NetworksOf names networks' := by
  induction declared generalizing networks with
  | nil =>
    cases h
    exact hn
  | cons name rest ih =>
    rw [addDeclaredNetworks] at h
    split at h
    · exact ih (hn.set name ⟨name, name, []⟩ (fun _ => Iff.rfl) fun _ hc => (by cases hc)) h
    · cases h

theorem NetworksOf.join {names : List String} {pairs : List (String × String)}
    {networks networks' : Dict NetworkInfo} (hn : NetworksOf names networks)
    (hpairs : ∀ p ∈ pairs, p.1 ∈ names) (h : joinAll pairs networks = .ok networks') :
    NetworksOf names networks' := by
  induction pairs generalizing networks with
  | nil =>
    cases h
    exact hn
  | cons p rest ih =>
    obtain ⟨name, network⟩ := p
    simp only [joinAll, addNetworks] at h
    have hrest : ∀ p ∈ rest, p.1 ∈ names := fun p hp => hpairs p (List.mem_cons_of_mem _ hp)
    split at h
    · exact ih hn hrest h
    · cases hget : Dict.get? networks network with
      | none =>
        rw [hget] at h
        cases h
      | some n =>
        rw [hget] at h
        have hmem := Dict.mem_of_get? hget
        refine ih (hn.set (.str network) { n with containers := n.containers ++ [name] }
          (fun s => hn.keyed _ hmem s) fun c hc => ?_) hrest h
        rcases List.mem_append.mp hc with hc | hc
        · exact hn.known _ hmem c hc
        · rw [List.mem_singleton.mp hc]
          exact hpairs _ List.mem_cons_self

/-! ## The services -/

/-- A service's streaming label, if it is asked for, can be printed. -/
def Streams (service : Entries) : Prop :=
  hasPorts service = true → ∃ b, serviceStreaming service = .ok b

theorem Normalizes.streaming {declared : List String} {raw service : Entries}
    (h : Normalizes declared raw service) : serviceStreaming service = serviceStreaming raw := by
  have hlabel : streamingLabel service = streamingLabel raw := by
    rw [streamingLabel, streamingLabel, h.others "labels" (by decide)]
  rw [serviceStreaming, serviceStreaming, hlabel]

/-- Whether the service streams, as far as the ports ask for it. -/
def portsStreaming (ports : List Port) (service : Entries) : Except Exn Bool :=
  if ports.isEmpty then .ok false else serviceStreaming service

theorem addServices_cons (greffon : Greffon) (name : String) (service : Entries)
    (rest : List (String × Entries)) (info : GreffonInfo) :
    addServices greffon ((name, service) :: rest) info =
      (servicePorts service >>= fun ports => portsStreaming ports service >>= fun streaming =>
        serviceMounts service >>= fun mounts => serviceNetworks service >>= fun names =>
        addNetworks name names info.networks >>= fun networks =>
        addServices greffon rest { info with
          ports := info.ports ++ ports.map (portInfo greffon name streaming)
          volumes := addMounts greffon.id name mounts info.volumes
          networks := networks }) := by
  rw [addServices]
  refine congrArg _ (funext fun ports => ?_)
  unfold portsStreaming
  split <;> rfl

/-- What the loop over the services makes of the info. -/
structure Added (greffon : Greffon) (raws : List (String × Entries)) (info info' : GreffonInfo) :
    Prop where
  streams : ∀ raw ∈ raws, Streams raw.2
  networks : joinAll (memberships raws) info.networks = .ok info'.networks
  ports : ∀ p ∈ info'.ports, p ∈ info.ports ∨ p.containerName ∈ raws.map Prod.fst
  same : info' = { info with
    ports := info'.ports
    volumes := (declaredAll raws).foldl (addMount greffon.id) info.volumes
    networks := info'.networks }

theorem addServices_ok {declared : List String} {raws services : List (String × Entries)}
    (h : List.Forall₂ (fun raw s => raw.1 = s.1 ∧ Normalizes declared raw.2 s.2) raws services)
    {greffon : Greffon} {info info' : GreffonInfo}
    (hok : addServices greffon services info = .ok info') : Added greffon raws info info' := by
  induction h generalizing info with
  | nil =>
    cases hok
    exact ⟨fun _ h => (by cases h), rfl, fun _ h => .inl h, rfl⟩
  | @cons raw s raws services hs _ ih =>
    obtain ⟨name, service⟩ := s
    obtain ⟨hname, hnorm⟩ := hs
    obtain ⟨ps, hps, hempty⟩ := hnorm.ports
    rw [addServices_cons, hps, ok_bind] at hok
    obtain ⟨streaming, hstreaming, hok⟩ := bind_ok_iff.mp hok
    rw [hnorm.mounts, ok_bind, hnorm.networks, ok_bind] at hok
    rw [portsStreaming, hnorm.streaming] at hstreaming
    obtain ⟨networks, hnetworks, hok⟩ := bind_ok_iff.mp hok
    have hadded := ih hok
    refine ⟨?_, ?_, ?_, ?_⟩
    · intro r hr
      rcases List.mem_cons.mp hr with rfl | hr
      · intro hports
        rw [hempty, hports] at hstreaming
        exact ⟨streaming, hstreaming⟩
      · exact hadded.streams r hr
    · rw [memberships, List.flatMap_cons, joinAll_append, hname, ← addNetworks_eq_joinAll, hnetworks]
      exact hadded.networks
    · intro p hp
      rcases hadded.ports p hp with hp | hp
      · rcases List.mem_append.mp hp with hp | hp
        · exact .inl hp
        · obtain ⟨port, -, rfl⟩ := List.mem_map.mp hp
          exact .inr (List.mem_cons.mpr (.inl hname.symm))
      · exact .inr (List.mem_cons_of_mem _ hp)
    · have hmounts : (declaredAll (raw :: raws)).foldl (addMount greffon.id) info.volumes =
          (declaredAll raws).foldl (addMount greffon.id)
            (addMounts greffon.id name (declaredMounts raw.2) info.volumes) := by
        rw [declaredAll, List.flatMap_cons, List.foldl_append, hname, ← addMounts_eq_foldl]
        rfl
      rw [hmounts]
      exact hadded.same

theorem addServices_total {declared : List String} {raws services : List (String × Entries)}
    (h : List.Forall₂ (fun raw s => raw.1 = s.1 ∧ Normalizes declared raw.2 s.2) raws services)
    {greffon : Greffon} {info : GreffonInfo} (hstreams : ∀ raw ∈ raws, Streams raw.2)
    (hknown : ∀ n ∈ declared, (Dict.get? info.networks n).isSome) :
    ∃ info', addServices greffon services info = .ok info' := by
  induction h generalizing info with
  | nil => exact ⟨info, rfl⟩
  | @cons raw s raws services hs _ ih =>
    obtain ⟨name, service⟩ := s
    obtain ⟨hname, hnorm⟩ := hs
    obtain ⟨ps, hps, hempty⟩ := hnorm.ports
    have hstreaming : ∃ b, portsStreaming ps service = .ok b := by
      unfold portsStreaming
      rw [hnorm.streaming]
      cases hports : hasPorts raw.2 with
      | true =>
        rw [hempty, hports]
        exact hstreams raw List.mem_cons_self hports
      | false =>
        rw [hempty, hports]
        exact ⟨false, rfl⟩
    obtain ⟨streaming, hstreaming⟩ := hstreaming
    have hjoins : ∀ p ∈ (networksOf raw.2).map fun n => (name, n),
        p.2 = "default" ∨ (Dict.get? info.networks p.2).isSome := by
      intro p hp
      obtain ⟨n, hn, rfl⟩ := List.mem_map.mp hp
      exact (hnorm.known n hn).symm.imp_right (hknown n)
    obtain ⟨networks, hnetworks⟩ := joinAll_ok hjoins
    have hget := get?_joinAll hnetworks
    rw [← addNetworks_eq_joinAll] at hnetworks
    rw [addServices_cons, hps, ok_bind, hstreaming, ok_bind, hnorm.mounts, ok_bind, hnorm.networks,
      ok_bind, hnetworks, ok_bind]
    refine ih (fun r hr => hstreams r (List.mem_cons_of_mem _ hr)) fun n hn => ?_
    rw [hget, Option.isSome_map]
    exact hknown n hn

/-! ## The whole collection -/

/-- **What the start asks of a compose beyond the normalization**: a `volumes` section that
can be iterated, elements of `volumes` and of `networks` that can be keys, and labels of
the services with ports that can be printed. -/
structure Collectable (entries : Entries) : Prop where
  volumes : ∃ declared, declaredVolumes entries = .ok declared ∧
    ∀ name ∈ declared, name.hashable = true ∧ ∃ t, name.text = .ok t
  networks : ∃ top, topNetworkNames entries = .ok top ∧ ∀ name ∈ top, name.hashable = true
  streams : ∀ s ∈ authored entries, Streams s.2

/-- What a collected info is. -/
structure Collected (greffonPath : String) (greffon : Greffon) (entries : Entries)
    (info : GreffonInfo) : Prop where
  volumes : ∃ declared volumes, declaredVolumes entries = .ok declared ∧
    addDeclaredVolumes greffon.id declared
      [(.str nginxService, nginxVolume greffonPath greffon)] = .ok volumes ∧
    info.volumes = (declaredAll (authored entries)).foldl (addMount greffon.id) volumes
  networks : ∃ top networks, topNetworkNames entries = .ok top ∧
    addDeclaredNetworks top [(.str internalNetworkId,
      internalNetwork ((authored entries).map Prod.fst))] = .ok networks ∧
    joinAll (memberships (authored entries)) networks = .ok info.networks
  ports : ∀ p ∈ info.ports, p.containerName ∈ (authored entries).map Prod.fst
  services : info.services =
    upsert ((authored entries).map fun s => (s.1, s.1)) nginxService nginxService
  internal : info.internalNetwork = internalNetworkId
  id : info.id = greffon.id

theorem addDeclaredVolumes_ok_iff {id : String} {declared : List Yaml} {volumes : Dict VolumeInfo} :
    (∃ volumes', addDeclaredVolumes id declared volumes = .ok volumes') ↔
      ∀ name ∈ declared, name.hashable = true ∧ ∃ t, name.text = .ok t := by
  induction declared generalizing volumes with
  | nil => exact ⟨fun _ _ h => (by cases h), fun _ => ⟨_, rfl⟩⟩
  | cons name rest ih =>
    rw [List.forall_mem_cons]
    constructor
    · rintro ⟨volumes', h⟩
      obtain ⟨t, ht, h⟩ := bind_ok_iff.mp h
      split at h
      · rename_i hhash
        exact ⟨⟨hhash, t, ht⟩, ih.mp ⟨_, h⟩⟩
      · cases h
    · rintro ⟨⟨hhash, t, ht⟩, hrest⟩
      rw [addDeclaredVolumes, ht, ok_bind, if_pos hhash]
      exact ih.mpr hrest

theorem addDeclaredNetworks_ok_iff {declared : List Yaml} {networks : Dict NetworkInfo} :
    (∃ networks', addDeclaredNetworks declared networks = .ok networks') ↔
      ∀ name ∈ declared, name.hashable = true := by
  induction declared generalizing networks with
  | nil => exact ⟨fun _ _ h => (by cases h), fun _ => ⟨_, rfl⟩⟩
  | cons name rest ih =>
    rw [List.forall_mem_cons, addDeclaredNetworks]
    constructor
    · rintro ⟨networks', h⟩
      split at h
      · rename_i hhash
        exact ⟨hhash, ih.mp ⟨_, h⟩⟩
      · cases h
    · rintro ⟨hhash, hrest⟩
      rw [if_pos hhash]
      exact ih.mpr hrest

/-- The networks that a service can name are declared at top level. -/
theorem declaredNetworks_top {entries : Entries} {declared : List String} {top : List Yaml}
    (h : declaredNetworks entries = .ok declared) (htop : topNetworkNames entries = .ok top) :
    ∀ n ∈ declared, .str n ∈ top := by
  unfold declaredNetworks at h
  unfold topNetworkNames at htop
  split at h
  · cases h
    exact fun _ hn => (by cases hn)
  · rename_i v hget
    rw [hget] at htop
    split at h
    · rename_i htruthy
      simp only [htruthy, if_true] at htop
      split at h
      -- a mapping and a list are read alike: the texts among the keys, or among the items
      iterate 2
        · cases h
          cases htop
          intro n hn
          obtain ⟨v, hv, hsome⟩ := List.mem_filterMap.mp hn
          split at hsome
          · cases hsome
            exact hv
          · cases hsome
      · exact absurd h (bad_ne_ok _ _ _ _ _)
    · cases h
      exact fun _ hn => (by cases hn)

theorem get?_normalized (entries : Entries) (services : Yaml) {key : String} (h : key ≠ "services") :
    Dict.get? (Dict.set entries (.str "services") services) key = Dict.get? entries key :=
  Dict.get?_set_ne fun heq => h (Yaml.str.inj heq).symm

theorem Accepted.names_eq {entries : Entries} {services : List (String × Entries)}
    (h : Accepted entries services) : services.map Prod.fst = (authored entries).map Prod.fst := by
  obtain ⟨declared, -, heach⟩ := h.top
  generalize authored entries = raws at heach ⊢
  clear h
  induction heach with
  | nil => rfl
  | cons hs _ ih => rw [List.map_cons, List.map_cons, ih, hs.1]

/-- The collection reads the top level and the services of an accepted compose. -/
theorem collectInfo_eq {greffonPath : String} {greffon : Greffon} {entries : Entries}
    {services : List (String × Entries)} (h : Accepted entries services) :
    collectInfo greffonPath (Dict.set entries (.str "services") (servicesYaml services)) greffon =
      (declaredVolumes entries >>= fun declared =>
        addDeclaredVolumes greffon.id declared
          [(.str nginxService, nginxVolume greffonPath greffon)] >>= fun volumes =>
        topNetworkNames entries >>= fun top =>
        addDeclaredNetworks top [(.str internalNetworkId,
          internalNetwork ((authored entries).map Prod.fst))] >>= fun networks =>
        addServices greffon services
          { ports := []
            volumes := volumes
            networks := networks
            id := greffon.id
            internalNetwork := internalNetworkId
            services := upsert ((authored entries).map fun s => (s.1, s.1)) nginxService nginxService
            configurations := greffon.configurations
            integrations := greffon.integrations }) := by
  have hvolumes := get?_normalized entries (servicesYaml services) (show "volumes" ≠ "services" by decide)
  have hnetworks := get?_normalized entries (servicesYaml services) (show "networks" ≠ "services" by decide)
  have hpairs : ((authored entries).map fun s => (s.1, s.1)) =
      ((authored entries).map Prod.fst).map fun n => (n, n) := by
    rw [List.map_map]
    rfl
  unfold collectInfo
  rw [servicesOf_set, hpairs]
  simp only [ok_bind, declaredVolumes, topNetworkNames, hvolumes, hnetworks, h.names_eq]

theorem collectInfo_ok {greffonPath : String} {greffon : Greffon} {entries : Entries}
    {services : List (String × Entries)} (h : Accepted entries services) {info : GreffonInfo}
    (hok : collectInfo greffonPath
      (Dict.set entries (.str "services") (servicesYaml services)) greffon = .ok info) :
    Collected greffonPath greffon entries info ∧ Collectable entries := by
  rw [collectInfo_eq h] at hok
  obtain ⟨declared, hdeclared, hok⟩ := bind_ok_iff.mp hok
  obtain ⟨volumes, hvolumes, hok⟩ := bind_ok_iff.mp hok
  obtain ⟨top, htop, hok⟩ := bind_ok_iff.mp hok
  obtain ⟨networks, hnetworks, hok⟩ := bind_ok_iff.mp hok
  obtain ⟨_, -, heach⟩ := h.top
  obtain ⟨hstreams, hjoin, hports, hsame⟩ := addServices_ok heach hok
  refine ⟨⟨⟨declared, volumes, hdeclared, hvolumes, ?_⟩, ⟨top, networks, htop, hnetworks, hjoin⟩,
    fun p hp => (hports p hp).resolve_left fun h => (by cases h), ?_, ?_, ?_⟩,
    ⟨declared, hdeclared, addDeclaredVolumes_ok_iff.mp ⟨_, hvolumes⟩⟩,
    ⟨top, htop, addDeclaredNetworks_ok_iff.mp ⟨_, hnetworks⟩⟩, hstreams⟩
  all_goals rw [hsame]

/-- **An accepted compose is collected** if and only if it is collectable. -/
theorem collectInfo_ok_iff {greffonPath : String} {greffon : Greffon} {entries : Entries}
    {services : List (String × Entries)} (h : Accepted entries services) :
    (∃ info, collectInfo greffonPath
      (Dict.set entries (.str "services") (servicesYaml services)) greffon = .ok info) ↔
      Collectable entries := by
  constructor
  · rintro ⟨info, hok⟩
    exact (collectInfo_ok h hok).2
  · rintro ⟨⟨declared, hdeclared, hnames⟩, ⟨top, htop, hhash⟩, hstreams⟩
    obtain ⟨volumes, hvolumes⟩ := addDeclaredVolumes_ok_iff.mpr hnames
    obtain ⟨networks, hnetworks⟩ := addDeclaredNetworks_ok_iff.mpr hhash
    obtain ⟨texts, htexts, heach⟩ := h.top
    have hknown : ∀ n ∈ texts, (Dict.get? networks n).isSome := by
      intro n hn
      rw [get?_addDeclaredNetworks hnetworks, if_pos (declaredNetworks_top htexts htop n hn)]
      rfl
    rw [collectInfo_eq h, hdeclared, ok_bind, hvolumes, ok_bind, htop, ok_bind, hnetworks, ok_bind]
    exact addServices_total heach hstreams hknown

/-- **What the normalization accepts is collected** if and only if it is collectable. -/
theorem createGreffonInfo_ok_iff {greffonPath : String} {greffon : Greffon} {compose out : Yaml}
    {strict : Bool} {extraKeys : Option String}
    (h : normalizeCompose compose strict extraKeys = .ok out) :
    (∃ info normalized, createGreffonInfo greffonPath compose greffon strict extraKeys =
      .ok (info, normalized)) ↔ Collectable compose.entries := by
  obtain ⟨entries, services, rfl, rfl, haccepted⟩ := normalizeCompose_ok h
  rw [Yaml.entries, ← @collectInfo_ok_iff greffonPath greffon _ _ haccepted]
  rw [createGreffonInfo, h, ok_bind]
  simp only
  constructor
  · rintro ⟨info, normalized, hok⟩
    obtain ⟨info', hinfo, -⟩ := bind_ok_iff.mp hok
    exact ⟨info', builtin_ok_iff.mp hinfo⟩
  · rintro ⟨info, hinfo⟩
    rw [hinfo]
    exact ⟨info, _, rfl⟩

/-! ## Invariants of the volumes -/

/-- What the collection keeps of its volumes: an entry is set that has no files yet, or one
that was there, with the files it had. -/
structure KeptByCollection (P : Dict VolumeInfo → Prop) : Prop where
  fresh : ∀ {volumes : Dict VolumeInfo} {k : Yaml} {v : VolumeInfo}, P volumes → v.files = [] →
    P (Dict.set volumes k v)
  mounted : ∀ {volumes : Dict VolumeInfo} {source : String} {v v' : VolumeInfo}, P volumes →
    Dict.get? volumes source = some v → v'.files = v.files →
    P (Dict.set volumes (.str source) v')

namespace KeptByCollection
variable {P : Dict VolumeInfo → Prop}

theorem declared (h : KeptByCollection P) {id : String} {names : List Yaml}
    {volumes volumes' : Dict VolumeInfo} (hv : P volumes)
    (hok : addDeclaredVolumes id names volumes = .ok volumes') : P volumes' := by
  induction names generalizing volumes with
  | nil =>
    cases hok
    exact hv
  | cons name rest ih =>
    obtain ⟨text, -, hok⟩ := bind_ok_iff.mp hok
    split at hok
    · exact ih (h.fresh hv rfl) hok
    · cases hok

theorem mounts (h : KeptByCollection P) {id name : String} (mounts : List VolumeMount)
    {volumes : Dict VolumeInfo} (hv : P volumes) : P (addMounts id name mounts volumes) := by
  induction mounts generalizing volumes with
  | nil => exact hv
  | cons m rest ih =>
    refine ih ?_
    cases hget : Dict.get? volumes m.source with
    | none => exact h.fresh hv rfl
    | some v => exact h.mounted hv hget rfl

theorem services (h : KeptByCollection P) {greffon : Greffon} {services : List (String × Entries)}
    {info info' : GreffonInfo} (hv : P info.volumes)
    (hok : addServices greffon services info = .ok info') :
    P info'.volumes ∧ info'.id = info.id := by
  induction services generalizing info with
  | nil =>
    cases hok
    exact ⟨hv, rfl⟩
  | cons s rest ih =>
    obtain ⟨name, service⟩ := s
    obtain ⟨ports, -, hok⟩ := bind_ok_iff.mp hok
    have hrest : ∀ streaming, (do
        let mounts ← serviceMounts service
        let names ← serviceNetworks service
        let networks ← addNetworks name names info.networks
        addServices greffon rest { info with
          ports := info.ports ++ ports.map (portInfo greffon name streaming)
          volumes := addMounts greffon.id name mounts info.volumes
          networks := networks }) = .ok info' → P info'.volumes ∧ info'.id = info.id := by
      intro streaming hok
      obtain ⟨mounts, -, hok⟩ := bind_ok_iff.mp hok
      obtain ⟨names, -, hok⟩ := bind_ok_iff.mp hok
      obtain ⟨networks, -, hok⟩ := bind_ok_iff.mp hok
      have hrest := ih (h.mounts mounts hv) hok
      exact hrest
    simp only at hok
    split at hok
    · exact hrest false hok
    · obtain ⟨streaming, -, hok⟩ := bind_ok_iff.mp hok
      exact hrest streaming hok

/-- **An invariant of the collection** that holds of nginx's volume alone holds of every
info, which is the instance's. -/
theorem created (h : KeptByCollection P) {greffonPath : String} {compose : Yaml}
    {greffon : Greffon} {strict : Bool} {extraKeys : Option String} {info : GreffonInfo}
    {normalized : Entries} (hnginx : P [(.str nginxService, nginxVolume greffonPath greffon)])
    (hok : createGreffonInfo greffonPath compose greffon strict extraKeys =
      .ok (info, normalized)) : P info.volumes ∧ info.id = greffon.id := by
  obtain ⟨out, -, hok⟩ := bind_ok_iff.mp hok
  cases out with
  | dict entries =>
    obtain ⟨collected, hcollected, hok⟩ := bind_ok_iff.mp hok
    cases hok
    have hcollected := builtin_ok_iff.mp hcollected
    obtain ⟨services, -, hok⟩ := bind_ok_iff.mp hcollected
    obtain ⟨declared, -, hok⟩ := bind_ok_iff.mp hok
    obtain ⟨volumes, hvolumes, hok⟩ := bind_ok_iff.mp hok
    obtain ⟨top, -, hok⟩ := bind_ok_iff.mp hok
    obtain ⟨networks, -, hok⟩ := bind_ok_iff.mp hok
    exact h.services (h.declared hnginx hvolumes) hok
  | _ => cases hok

end KeptByCollection

end Greffer.Compose

import Mathlib.Data.List.Perm.Basic
import Greffer.Compose.Reserved

/-! # The ports of a compose

The full list of ports is filtered by tier in three places: `getNginxService` publishes the
proxied ports on the sidecar, `l4Mappings` those of the fourth layer on their own services,
and `createNginxConf` serves the proxied ones.  The template names the host port by the
index in the full list, nginx by `service_port`.  This module has the three views, and what tells
the ports apart in each; that they agree is in `PortLaw`.

A name `service_port` is read back from its end: a container port is made of digits, so
that its last underscore is the one that was put in, whatever the service is called.
-/
namespace Greffer.Compose

/-! ## What nginx serves -/

/-- An `upstream` block. -/
structure Upstream where
  name : String
  server : String
  deriving DecidableEq

/-- A `server` block, as far as it depends on its port. -/
structure Server where
  listen : String
  serverName : String
  proxyPass : String
  /-- Whether the block turns the buffering off. -/
  unbuffered : Bool
  deriving DecidableEq

/-- `nginx.conf`, without the directives that are the same for every instance. -/
structure NginxConf where
  upstreams : List Upstream
  servers : List Server

/-- `{{port.container_name}}_{{port.port_container}}`. -/
def PortInfo.upstreamName (p : PortInfo) : String := p.containerName ++ "_" ++ p.portContainer

/-- The template's `upstream` block. -/
def PortInfo.upstream (p : PortInfo) : Upstream where
  name := p.upstreamName
  server := p.containerName ++ ":" ++ p.portContainer

/-- The template's `server` block. -/
def PortInfo.server (p : PortInfo) : Server where
  listen := p.portContainer
  serverName := p.containerName ++ "." ++ p.portContainer
  proxyPass := "http://" ++ p.upstreamName ++ "/"
  unbuffered := p.streaming

/-- `create_nginx_conf`: the template iterates `http_ports`, not `ports`. -/
def createNginxConf (info : GreffonInfo) : NginxConf :=
  let httpPorts := info.ports.filter PortInfo.proxied
  { upstreams := httpPorts.map PortInfo.upstream
    servers := httpPorts.map PortInfo.server }

/-! ## What a compose declares -/

/-- The container port that a `ports` entry declares: the short form's last part, or the
long form's target. -/
def declaredTarget (entry : Yaml) : Option String :=
  match entry with
  | .int n => (Yaml.strOfInt n).toOption
  | .str raw => some (rsplitOnce ':' ((rsplitOnce '/' raw).1.getD raw)).2
  | .dict d =>
    match Dict.get? d "target" with
    | some (.str t) => some t
    | some (.int n) => (Yaml.strOfInt n).toOption
    | _ => none
  | _ => none

/-- The container ports that a service declares. -/
def declaredTargets (service : Entries) : List String :=
  match Dict.get? service "ports" with
  | some (.list items) => items.filterMap declaredTarget
  | _ => []

/-- The ports of a compose, each with its service. -/
def declaredPorts (entries : Entries) : List (String × String) :=
  (authored entries).flatMap fun s => (declaredTargets s.2).map fun t => (s.1, t)

/-- The tier that the manager sends for a port. -/
def sentTier (greffon : Greffon) (d : String × String) : Yaml :=
  let manager := (greffon.ports.lookup (d.1 ++ "_" ++ d.2)).getD []
  (Dict.get? manager "exposure_tier").getD (.str "http")

/-! ## One entry -/

theorem portTarget_ok (entry : Yaml) {target service t : String}
    (h : portTarget entry (.str target) service = .ok t) : t = target ∧ isDigit t = true := by
  simp only [portTarget, ok_bind] at h
  split at h
  · rename_i hdigits
    obtain ⟨n, -, h⟩ := bind_ok_iff.mp h
    split at h
    · cases h
      exact ⟨rfl, hdigits⟩
    · exact absurd h (badService_ne_ok _ _ _ _ _)
  · exact absurd h (badService_ne_ok _ _ _ _ _)

/-- A container port that is a number is taken as its digits. -/
theorem portTarget_int {entry : Yaml} {n : Int} {service t : String}
    (h : portTarget entry (.int n) service = .ok t) :
    Yaml.strOfInt n = .ok t ∧ isDigit t = true := by
  obtain ⟨v, hv, h⟩ := bind_ok_iff.mp h
  obtain ⟨text, htext, rfl⟩ := map_ok_iff.mp hv
  obtain ⟨rfl, hdigits⟩ := portTarget_ok entry h
  exact ⟨builtin_ok_iff.mp htext, hdigits⟩

/-- **An accepted port is the one that its entry declares**, and is made of digits. -/
theorem normalizePort_declared {entry : Yaml} {service : String} {p : Port}
    (h : normalizePort entry service = .ok p) :
    declaredTarget entry = some p.target ∧ isDigit p.target = true := by
  obtain ⟨⟨target, protocol⟩, hfields, h⟩ := bind_ok_iff.mp h
  obtain ⟨t, htarget, h⟩ := bind_ok_iff.mp h
  obtain ⟨proto, -, h⟩ := bind_ok_iff.mp h
  cases h
  cases entry with
  | int n =>
    obtain ⟨text, htext, heq⟩ := map_ok_iff.mp hfields
    cases heq
    obtain ⟨rfl, hdigits⟩ := portTarget_ok _ htarget
    refine ⟨?_, hdigits⟩
    rw [declaredTarget, builtin_ok_iff.mp htext]
    rfl
  | str raw =>
    rw [declaredTarget]
    simp only [portFields] at hfields
    split at hfields
    · rename_i hsplit
      cases hfields
      obtain ⟨rfl, hdigits⟩ := portTarget_ok _ htarget
      rw [hsplit]
      exact ⟨rfl, hdigits⟩
    · rename_i hsplit
      cases hfields
      obtain ⟨rfl, hdigits⟩ := portTarget_ok _ htarget
      refine ⟨?_, hdigits⟩
      -- without a protocol the split gives the whole text back
      rw [hsplit]
      unfold rsplitOnce at hsplit
      dsimp only at hsplit
      split at hsplit
      · cases hsplit
        rfl
      · cases hsplit
  | dict d =>
    simp only [portFields] at hfields
    split at hfields
    · exact absurd hfields (badService_ne_ok _ _ _ _ _)
    rename_i hget
    cases hfields
    simp only [declaredTarget, hget]
    cases target with
    | str text =>
      obtain ⟨rfl, hdigits⟩ := portTarget_ok _ htarget
      exact ⟨rfl, hdigits⟩
    | int n =>
      obtain ⟨htext, hdigits⟩ := portTarget_int htarget
      refine ⟨?_, hdigits⟩
      dsimp only
      rw [htext]
      rfl
    | _ => exact absurd htarget (badService_ne_ok _ _ _ _ _)
  | _ => exact absurd hfields (badService_ne_ok _ _ _ _ _)

/-! ## One service -/

/-- No container port is declared twice. -/
theorem checkPorts_ok {name : String} {ports : List Port} {seen : List String}
    (h : checkPorts name ports seen = .ok ()) :
    (ports.map Port.target).Nodup ∧ ∀ p ∈ ports, p.target ∉ seen := by
  induction ports generalizing seen with
  | nil => exact ⟨List.nodup_nil, fun _ h => (by cases h)⟩
  | cons p rest ih =>
    rw [checkPorts] at h
    by_cases hseen : seen.contains p.target = true
    · rw [if_pos hseen] at h
      exact absurd h (badService_ne_ok _ _ _ _ _)
    · rw [if_neg hseen] at h
      obtain ⟨hnodup, hfresh⟩ := ih h
      constructor
      · rw [List.map_cons, List.nodup_cons]
        refine ⟨fun hmem => ?_, hnodup⟩
        obtain ⟨q, hq, heq⟩ := List.mem_map.mp hmem
        exact hfresh q hq (heq ▸ List.mem_cons_self)
      · intro q hq
        rcases List.mem_cons.mp hq with rfl | hq
        · simpa using hseen
        · exact fun hmem => hfresh q hq (List.mem_cons_of_mem _ hmem)

/-- What a service publishes past the pass is what it declared, each port once. -/
structure PortsKept (raw service : Entries) : Prop where
  read : ∃ ps, servicePorts service = .ok ps ∧ ps.map Port.target = declaredTargets raw
  nodup : (declaredTargets raw).Nodup
  digits : ∀ t ∈ declaredTargets raw, isDigit t = true

theorem normalizeEntries_targets {d : Entries} {name : String} {r : Option (List Port)}
    (h : normalizeEntries d name "ports" normalizePort = .ok r) :
    (r.getD []).map Port.target = declaredTargets d ∧
      ∀ t ∈ declaredTargets d, isDigit t = true := by
  unfold declaredTargets
  rcases normalizeEntries_ok h with ⟨rfl, hd | hd⟩ | ⟨items, bs, rfl, hd, hall⟩
  · rw [hd]
    exact ⟨rfl, fun _ h => (by cases h)⟩
  · rw [hd]
    exact ⟨rfl, fun _ h => (by cases h)⟩
  · rw [hd]
    obtain ⟨heq, hdigits⟩ := declared_of_normalized (f := Port.target)
      (P := fun t => isDigit t = true) normalizePort_declared hall
    exact ⟨heq.symm, fun t ht => hdigits t (heq ▸ ht)⟩

theorem normalizeService_ports {declared : List String} {name : String} {d out : Entries}
    (h : normalizeService declared name (.dict d) = .ok out) : PortsKept d out := by
  unfold normalizeService at h
  split at h
  swap
  · exact absurd h (bad_ne_ok _ _ _ _ _)
  obtain ⟨ports, hports, h⟩ := bind_ok_iff.mp h
  obtain ⟨volumes, -, h⟩ := bind_ok_iff.mp h
  obtain ⟨_, hcheck, h⟩ := bind_ok_iff.mp h
  obtain ⟨-, -, hframe⟩ := setNetworks_ok h
  obtain ⟨htargets, hdigits⟩ := normalizeEntries_targets hports
  refine ⟨⟨ports.getD [], ?_, htargets⟩, htargets ▸ (checkPorts_ok hcheck).1, hdigits⟩
  refine read_setEntries Port.toYaml readPort readPort_toYaml hports out ?_
  rw [hframe _ (by decide), get?_setEntries_ne _ _ _ (by decide)]

/-! ## The info's ports -/

/-- What the info says of a port that the compose and the manager decide. -/
def PortInfo.declared (p : PortInfo) : (String × String) × Yaml :=
  ((p.containerName, p.portContainer), p.exposureTier)

theorem addServices_ports {raws services : List (String × Entries)}
    (h : List.Forall₂ (fun raw s => raw.1 = s.1 ∧ PortsKept raw.2 s.2) raws services)
    {greffon : Greffon} {info info' : GreffonInfo}
    (hok : addServices greffon services info = .ok info') :
    info'.ports.map PortInfo.declared = info.ports.map PortInfo.declared ++
      (raws.flatMap fun s => (declaredTargets s.2).map fun t => (s.1, t)).map
        fun d => (d, sentTier greffon d) := by
  induction h generalizing info with
  | nil =>
    cases hok
    rw [List.flatMap_nil, List.map_nil, List.append_nil]
  | @cons raw s raws services hs _ ih =>
    obtain ⟨name, service⟩ := s
    obtain ⟨hname, hkept⟩ := hs
    obtain ⟨ps, hps, htargets⟩ := hkept.read
    rw [addServices_cons, hps, ok_bind] at hok
    obtain ⟨streaming, -, hok⟩ := bind_ok_iff.mp hok
    obtain ⟨mounts, -, hok⟩ := bind_ok_iff.mp hok
    obtain ⟨names, -, hok⟩ := bind_ok_iff.mp hok
    obtain ⟨networks, -, hok⟩ := bind_ok_iff.mp hok
    rw [ih hok, List.map_append, List.append_assoc, List.flatMap_cons, List.map_append, hname,
      ← htargets, List.map_map, List.map_map, List.map_map]
    rfl

/-- **The ports of an info** are those that its compose declares, in their order, each with
the tier that the manager sends for it. -/
theorem collectInfo_ports {greffonPath : String} {greffon : Greffon} {entries : Entries}
    {services : List (String × Entries)} (haccepted : Accepted entries services)
    (hkept : List.Forall₂ (fun raw s => raw.1 = s.1 ∧ PortsKept raw.2 s.2) (authored entries)
      services) {info : GreffonInfo} (h : collectInfo greffonPath
      (Dict.set entries (.str "services") (servicesYaml services)) greffon = .ok info) :
    info.ports.map PortInfo.declared =
        (declaredPorts entries).map (fun d => (d, sentTier greffon d)) ∧
      ∀ s ∈ authored entries, (declaredTargets s.2).Nodup ∧
        ∀ t ∈ declaredTargets s.2, isDigit t = true := by
  rw [collectInfo_eq haccepted] at h
  obtain ⟨_, -, h⟩ := bind_ok_iff.mp h
  obtain ⟨volumes, -, h⟩ := bind_ok_iff.mp h
  obtain ⟨_, -, h⟩ := bind_ok_iff.mp h
  obtain ⟨networks, -, h⟩ := bind_ok_iff.mp h
  refine ⟨addServices_ports hkept h, fun raw hraw => ?_⟩
  obtain ⟨s, -, -, hs⟩ := exists_right_of_forall₂ hkept hraw
  exact ⟨hs.nodup, hs.digits⟩

theorem createGreffonInfo_ports {greffonPath : String} {compose : Yaml} {greffon : Greffon}
    {strict : Bool} {extraKeys : Option String} {info : GreffonInfo} {normalized : Entries}
    (h : createGreffonInfo greffonPath compose greffon strict extraKeys = .ok (info, normalized)) :
    info.ports.map PortInfo.declared =
        (declaredPorts compose.entries).map (fun d => (d, sentTier greffon d)) ∧
      ∀ s ∈ authored compose.entries, (declaredTargets s.2).Nodup ∧
        ∀ t ∈ declaredTargets s.2, isDigit t = true := by
  obtain ⟨out, hout, h⟩ := bind_ok_iff.mp h
  obtain ⟨entries, services, declared, rfl, rfl, hdeclared, heach, hnames⟩ :=
    normalizeCompose_each hout
  obtain ⟨info', hinfo, h⟩ := bind_ok_iff.mp h
  cases h
  exact collectInfo_ports (Accepted.of_each hdeclared heach hnames)
    (heach.imp fun raw s hs => ⟨hs.1, normalizeService_ports hs.2⟩) (builtin_ok_iff.mp hinfo)

/-! ## Names that are read back from their end -/

/-- A text is cut in one way at a character that the first part does not have. -/
theorem append_cons_inj {c : Char} {a a' b b' : List Char} (ha : c ∉ a) (ha' : c ∉ a')
    (h : a ++ c :: b = a' ++ c :: b') : a = a' ∧ b = b' := by
  have hfirst := congrArg (splitOn c) h
  rw [splitOn_append ha, splitOn_append ha'] at hfirst
  have heq := (List.cons.inj hfirst).1
  subst heq
  exact ⟨rfl, (List.cons.inj (List.append_cancel_left h)).2⟩

/-- And at one that the last part does not have. -/
theorem append_sep_inj {sep : Char} {a a' b b' : String} (hb : sep ∉ b.toList)
    (hb' : sep ∉ b'.toList)
    (h : a ++ String.singleton sep ++ b = a' ++ String.singleton sep ++ b') :
    a = a' ∧ b = b' := by
  have hlist := congrArg (fun s => s.toList.reverse) h
  simp only [String.toList_append, String.toList_singleton, List.append_assoc,
    List.singleton_append, List.reverse_append, List.reverse_cons] at hlist
  have hrev : sep ∉ b.toList.reverse := by rwa [List.mem_reverse]
  have hrev' : sep ∉ b'.toList.reverse := by rwa [List.mem_reverse]
  obtain ⟨hlast, hfirst⟩ := append_cons_inj hrev hrev' hlist
  exact ⟨String.toList_injective (List.reverse_injective hfirst),
    String.toList_injective (List.reverse_injective hlast)⟩

/-- A container port has no character that is no digit. -/
theorem not_mem_of_isDigit {c : Char} (hc : isDigitChar c = false) {t : String}
    (h : isDigit t = true) : c ∉ t.toList := by
  intro hmem
  rw [isDigit, Bool.and_eq_true, List.all_eq_true] at h
  rw [h.2 c hmem] at hc
  cases hc

/-- **The template's expression for a host port holds its index.** -/
theorem portHostExpression_inj {i j : Nat} {s t : String}
    (h : portHostExpression i ++ s = portHostExpression j ++ t) : i = j := by
  have htext : ∀ n : Nat, (toString n).toList = Nat.toDigits 10 n := fun n => Nat.toList_repr
  have hdigits : ∀ n : Nat, ']' ∉ (toString n).toList := by
    intro n hmem
    rw [htext] at hmem
    exact absurd (Nat.isDigit_of_mem_toDigits (by decide) (by decide) hmem) (by decide)
  have hlist := congrArg String.toList h
  simp only [portHostExpression, String.toList_append, List.append_assoc] at hlist
  have hcut := List.append_cancel_left hlist
  obtain ⟨heq, -⟩ := append_cons_inj (hdigits i) (hdigits j) hcut
  rw [htext, htext] at heq
  have hvalue := congrArg (fun ds => Nat.ofDigitChars 10 ds 0) heq
  simpa only [Nat.ofDigitChars_ten_toDigits] using hvalue

/-! ## What the services publish -/

/-- The host mappings of a compose's services, each with its service. -/
def publications (services : List (String × Entries)) : List (String × Yaml) :=
  services.flatMap fun s => (itemsAt s.2 "ports").map fun item => (s.1, item)

/-- The one publication of a port: the sidecar's mapping, or the one on its own service;
the host port is that of the port's index. -/
def publication (l4BindHost : String) (p : PortInfo × Nat) : String × Yaml :=
  if p.1.proxied then
    (nginxService, .str (portHostExpression p.2 ++ ":" ++ p.1.portContainer))
  else (p.1.containerName, .str (l4BindHost ++ ":" ++ portHostExpression p.2 ++ ":" ++
    containerSide l4BindHost p.1 p.2 ++ if p.1.protocol = .str "udp" then "/udp" else ""))

theorem itemsAt_furnished_ports (info : GreffonInfo) (l4BindHost : String)
    (s : String × Entries) :
    itemsAt (furnished info l4BindHost s).2 "ports" =
      itemsAt s.2 "ports" ++ itemsFor (l4Mappings info l4BindHost) s.1 := by
  rw [furnished, itemsAt_foldl_ne (by decide), itemsAt_foldl_ne (by decide), itemsAt_foldl_self]

/-- A tenant's service publishes what the fourth layer has for it, the sidecar what nginx
serves. -/
theorem publications_furnished {info : GreffonInfo} {l4BindHost : String}
    {bare : List (String × Entries)} (hnginx : nginxService ∉ bare.map Prod.fst)
    (hnone : itemsFor (l4Mappings info l4BindHost) nginxService = []) :
    publications ((bareServices bare info).map (furnished info l4BindHost)) =
      ((bare.map Prod.fst).flatMap fun n =>
        (itemsFor (l4Mappings info l4BindHost) n).map fun item => (n, item)) ++
      (info.ports.zipIdx.filter fun p => p.1.proxied).map (publication l4BindHost) := by
  have hreset : (bare.map fun s => (s.1, resetService s.2)).map Prod.fst = bare.map Prod.fst := by
    rw [List.map_map]
    rfl
  rw [bareServices, upsert_of_not_mem _ (by rwa [hreset]), List.map_append, publications,
    List.flatMap_append]
  congr 1
  · rw [List.map_map, List.flatMap_map, List.flatMap_map]
    refine List.flatMap_congr fun s _ => ?_
    rw [Function.comp_apply, itemsAt_furnished_ports, itemsAt_resetService (by decide)]
    rfl
  · rw [List.map_singleton, List.flatMap_singleton, itemsAt_furnished_ports, hnone,
      List.append_nil]
    have hsidecar : itemsAt (getNginxService info) "ports" =
        (info.ports.zipIdx.filter fun p => p.1.proxied).map fun p =>
          .str (portHostExpression p.2 ++ ":" ++ p.1.portContainer) := rfl
    dsimp only
    rw [hsidecar, List.map_map]
    refine List.map_congr_left fun p hp => ?_
    rw [publication, if_pos (List.mem_filter.mp hp).2]
    rfl

theorem l4Mappings_eq (info : GreffonInfo) (l4BindHost : String) :
    l4Mappings info l4BindHost =
      (info.ports.zipIdx.filter fun p => !p.1.proxied).map (publication l4BindHost) := by
  refine List.map_congr_left fun p hp => ?_
  have hproxied : ¬ p.1.proxied = true := by simpa using (List.mem_filter.mp hp).2
  rw [publication, if_neg hproxied]

/-- A list of pairs is, up to the order, what it has for each name. -/
theorem flatMap_named {γ : Type} {names : List String} {pairs : List (String × γ)}
    (hnodup : names.Nodup) (h : ∀ p ∈ pairs, p.1 ∈ names) :
    (names.flatMap fun n =>
      ((pairs.filter fun p => p.1 == n).map Prod.snd).map fun item => (n, item)).Perm pairs := by
  induction names generalizing pairs with
  | nil =>
    cases pairs with
    | nil => exact List.Perm.refl _
    | cons p rest => exact absurd (h p List.mem_cons_self) List.not_mem_nil
  | cons n rest ih =>
    rw [List.nodup_cons] at hnodup
    rw [List.flatMap_cons]
    have hself : ((pairs.filter fun p => p.1 == n).map Prod.snd).map (fun item => (n, item)) =
        pairs.filter fun p => p.1 == n := by
      rw [List.map_map]
      refine (List.map_congr_left fun p hp => ?_).trans (List.map_id _)
      have hn := eq_of_beq (List.mem_filter.mp hp).2
      rw [Function.comp_apply, ← hn]
      rfl
    have hothers : (rest.flatMap fun m =>
          ((pairs.filter fun p => p.1 == m).map Prod.snd).map fun item => (m, item)) =
        rest.flatMap fun m => (((pairs.filter fun p => !(p.1 == n)).filter
          fun p => p.1 == m).map Prod.snd).map fun item => (m, item) := by
      refine List.flatMap_congr fun m hm => ?_
      have hne : m ≠ n := fun heq => hnodup.1 (heq ▸ hm)
      rw [List.filter_filter]
      refine congrArg _ (congrArg _ (List.filter_congr fun p _ => ?_))
      by_cases hp : p.1 = m
      · simp [hp, hne]
      · simp [hp]
    rw [hself, hothers]
    refine ((ih hnodup.2 fun p hp => ?_).append_left _).trans (List.filter_append_perm _ _)
    obtain ⟨hmem, hne⟩ := List.mem_filter.mp hp
    exact (List.mem_cons.mp (h p hmem)).resolve_left fun heq => by simp [heq] at hne

/-- **The publications of a rebuilt compose** are, in some order, one for each port. -/
theorem publications_perm {info : GreffonInfo} {l4BindHost : String}
    {bare : List (String × Entries)} (hnodup : (bare.map Prod.fst).Nodup)
    (hnginx : nginxService ∉ bare.map Prod.fst)
    (hports : ∀ p ∈ info.ports, p.containerName ∈ bare.map Prod.fst) :
    (publications ((bareServices bare info).map (furnished info l4BindHost))).Perm
      (info.ports.zipIdx.map (publication l4BindHost)) := by
  have hnames : ∀ m ∈ l4Mappings info l4BindHost, m.1 ∈ bare.map Prod.fst := by
    intro m hm
    obtain ⟨p, hp, rfl⟩ := List.mem_map.mp hm
    exact hports _ (List.fst_mem_of_mem_zipIdx (List.mem_filter.mp hp).1)
  have hnone : itemsFor (l4Mappings info l4BindHost) nginxService = [] := by
    rw [List.eq_nil_iff_forall_not_mem]
    exact fun item hitem => hnginx (hnames _ (mem_itemsFor.mp hitem))
  rw [publications_furnished hnginx hnone]
  refine ((flatMap_named hnodup hnames).append_right _).trans ?_
  rw [l4Mappings_eq, ← List.map_append]
  refine List.Perm.map _ (List.perm_append_comm.trans ?_)
  exact List.filter_append_perm (fun p : PortInfo × Nat => p.1.proxied) info.ports.zipIdx

/-- **The index tells the publications apart.** -/
theorem publication_inj {l4BindHost : String} {p q : PortInfo × Nat}
    (hp : p.1.containerName ≠ nginxService) (hq : q.1.containerName ≠ nginxService)
    (h : publication l4BindHost p = publication l4BindHost q) : p.2 = q.2 := by
  unfold publication at h
  by_cases hproxied : p.1.proxied = true
  · rw [if_pos hproxied] at h
    by_cases hother : q.1.proxied = true
    · rw [if_pos hother, Prod.mk.injEq, Yaml.str.injEq, String.append_assoc,
        String.append_assoc] at h
      exact portHostExpression_inj h.2
    · rw [if_neg hother, Prod.mk.injEq] at h
      exact absurd h.1.symm hq
  · rw [if_neg hproxied] at h
    by_cases hother : q.1.proxied = true
    · rw [if_pos hother, Prod.mk.injEq] at h
      exact absurd h.1 hp
    · rw [if_neg hother, Prod.mk.injEq, Yaml.str.injEq] at h
      have htext := h.2
      simp only [String.append_assoc] at htext
      have hhost := String.append_right_inj _ |>.mp htext
      exact portHostExpression_inj (String.append_right_inj _ |>.mp hhost)

theorem nodup_publications {info : GreffonInfo} {l4BindHost : String}
    (hports : ∀ p ∈ info.ports, p.containerName ≠ nginxService) :
    (info.ports.zipIdx.map (publication l4BindHost)).Nodup := by
  have hindices : (info.ports.zipIdx.map Prod.snd).Nodup := by
    rw [List.zipIdx_map_snd]
    exact List.nodup_range'
  refine List.Nodup.map_on ?_ hindices.of_map
  intro p hp q hq h
  have hname := fun r (hr : r ∈ info.ports.zipIdx) => hports _ (List.fst_mem_of_mem_zipIdx hr)
  have hindex := publication_inj (hname p hp) (hname q hq) h
  have hport : some p.1 = some q.1 := by
    rw [← List.mem_zipIdx_iff_getElem?.mp hp, ← List.mem_zipIdx_iff_getElem?.mp hq, hindex]
  exact Prod.ext (Option.some.inj hport) hindex

/-! ## What nginx has for a port -/

/-- An element is the only one of a list with its key, if the keys are distinct. -/
theorem filter_key {α β : Type} [DecidableEq β] {f : α → β} {l : List α} (h : (l.map f).Nodup)
    {a : α} (ha : a ∈ l) : (l.filter fun b => f b = f a) = [a] := by
  induction l with
  | nil => cases ha
  | cons b rest ih =>
    rw [List.map_cons, List.nodup_cons] at h
    by_cases hab : a = b
    · subst hab
      rw [List.filter_cons_of_pos (by simp)]
      congr 1
      rw [List.filter_eq_nil_iff]
      intro c hc heq
      exact h.1 (of_decide_eq_true heq ▸ List.mem_map_of_mem hc)
    · have hrest := (List.mem_cons.mp ha).resolve_left hab
      have hne : f b ≠ f a := fun heq => h.1 (heq ▸ List.mem_map_of_mem hrest)
      rw [List.filter_cons_of_neg (by simpa using hne), ih h.2 hrest]

/-- The service and the container port of a port. -/
def PortInfo.pair (p : PortInfo) : String × String := (p.containerName, p.portContainer)

theorem upstreamName_inj {p q : PortInfo} (hp : isDigit p.portContainer = true)
    (hq : isDigit q.portContainer = true) (h : p.upstreamName = q.upstreamName) :
    p.pair = q.pair := by
  have hsep : isDigitChar '_' = false := by decide
  obtain ⟨hname, hport⟩ := append_sep_inj (not_mem_of_isDigit hsep hp)
    (not_mem_of_isDigit hsep hq) h
  rw [PortInfo.pair, PortInfo.pair, hname, hport]

/-- The names of the ports are as distinct as the ports. -/
theorem nodup_upstreamNames {ports : List PortInfo} (h : (ports.map PortInfo.pair).Nodup)
    (hdigits : ∀ p ∈ ports, isDigit p.portContainer = true) :
    (ports.map PortInfo.upstreamName).Nodup := by
  induction ports with
  | nil => exact List.nodup_nil
  | cons p rest ih =>
    rw [List.map_cons, List.nodup_cons] at h ⊢
    obtain ⟨hp, hrest⟩ := List.forall_mem_cons.mp hdigits
    refine ⟨fun hmem => ?_, ih h.2 hrest⟩
    obtain ⟨q, hq, heq⟩ := List.mem_map.mp hmem
    exact h.1 (List.mem_map.mpr ⟨q, hq, upstreamName_inj (hrest q hq) hp heq⟩)

/-- **A filtered and rendered list has one element for a key that is kept**, and none for
another. -/
theorem filter_rendered {α β γ : Type} [DecidableEq β] {f : α → β} {l : List α}
    (h : (l.map f).Nodup) {a : α} (ha : a ∈ l) (keep : α → Bool) (render : α → γ) {key : γ → β}
    (hkey : ∀ b, key (render b) = f b) :
    (((l.filter keep).map render).filter fun c => key c = f a) =
      if keep a then [render a] else [] := by
  have hone : ((l.filter keep).filter fun b => f b = f a) = [a].filter keep := by
    rw [← filter_key h ha, List.filter_filter, List.filter_filter]
    exact List.filter_congr fun b _ => Bool.and_comm _ _
  have hcomp : ((fun c => decide (key c = f a)) ∘ render) = fun b => decide (f b = f a) := by
    funext b
    rw [Function.comp_apply, hkey]
  rw [List.filter_map, hcomp, hone]
  by_cases hkeep : keep a = true
  · rw [if_pos hkeep, List.filter_cons_of_pos hkeep, List.filter_nil, List.map_singleton]
  · rw [if_neg hkeep, List.filter_cons_of_neg hkeep, List.filter_nil, List.map_nil]

/-- A compose whose services end in the digits that their ports begin with. -/
def composePublishing : Yaml :=
  .dict [(.str "services", .dict
    [(.str "app", .dict [(.str "image", .str "x"),
      (.str "ports", .list [.str "8080:80/tcp", .int 443])]),
    (.str "app_8", .dict [(.str "image", .str "x"), (.str "ports", .list [.int 80])])])]

theorem composePublishing_wellFormed : composePublishing.WellFormed := by
  simp [composePublishing, Yaml.WellFormed, Yaml.WellFormedAll, Yaml.WellFormedValues,
    Yaml.Distinct, Yaml.sameKey, Yaml.number?]

end Greffer.Compose

import Greffer.Compose.PortPartition
import Greffer.Compose.Total
import Greffer.Instance.Start

/-! # The mappings of L4 ports

A port of the fourth layer is published on its own service, as `ip:host:container`.  The
template holds expressions: the host port of the port itself, and, for a `same_port` port,
either that again or `instance_l4_port`, the port that the application is told to advertise.
The latter is computed from the first L4 port, or handed over by the manager.

**A mapping is usable** if its two ports are there, and if a `same_port` port listens where it is
advertised.  `l4_mappings_usable_iff` says when: behind a tunnel the manager must have handed
over the endpoint, and elsewhere a `same_port` port must have the first L4 port's host port.
-/
namespace Greffer.Instance
open Compose (Yaml Entries Greffon GreffonInfo PortInfo portHostExpression l4Mappings containerSide
  isDigit createGreffonInfo createGreffonInfo_ports not_mem_of_isDigit append_sep_inj
  isDigit_toString)

/-! ## The advertised endpoint -/

/-- What the request hands over: `instance_l4_host`, `instance_l4_port` and
`instance_l4_proto`. -/
structure L4Handoff where
  host : Option String := none
  port : Option Int := none
  proto : Option String := none

/-- `GREFFER_PUBLIC_HOST` and `GREFFER_ADDRESS`. -/
structure PublicAddress where
  publicHost : Option String := none
  grefferAddress : Option String := none

/-- The `instance_l4_*` variables. -/
structure L4Endpoint where
  host : String
  port : String
  endpoint : String
  proto : Yaml

/-- The hand-off of `start_greffon`: behind a tunnel, of a host and a port. -/
def handedOver (l4BindHost : String) (given : L4Handoff) : Option L4Endpoint :=
  match nonEmpty given.host, given.port.filter (· != 0) with
  | some host, some port =>
    if l4BindHost = "127.0.0.1" then
      some ⟨host, toString port, host ++ ":" ++ toString port,
        .str ((nonEmpty given.proto).getD "tcp")⟩
    else none
  | _, _ => none

/-- `str(port.get('port_host') or '')`. -/
def advertisedPort (p : PortInfo) : String :=
  match p.portHost.filter (· != 0) with
  | some n => toString n
  | none => ""

/-- The L4 part of `_compute_instance_context`. -/
def computeL4Context (address : PublicAddress) (info : GreffonInfo) (l4BindHost : String) :
    L4Endpoint :=
  match info.ports.find? fun p => !p.proxied with
  | some first =>
    if l4BindHost ≠ "127.0.0.1" then
      let host := ((nonEmpty address.publicHost).or (nonEmpty address.grefferAddress)).getD
        "host.docker.internal"
      let port := advertisedPort first
      ⟨host, port, if port ≠ "" then host ++ ":" ++ port else host, first.protocol⟩
    else ⟨"", "", "", .str ""⟩
  | none => ⟨"", "", "", .str ""⟩

/-- The variables of a start: what was handed over stays. -/
def instanceL4 (address : PublicAddress) (info : GreffonInfo) (l4BindHost : String)
    (given : L4Handoff) : L4Endpoint :=
  (handedOver l4BindHost given).getD (computeL4Context address info l4BindHost)

/-! ## Rendered mappings -/

/-- A piece of a template. -/
inductive Piece where
  | text (s : String)
  | portHost (i : Nat)
  | instanceL4Port

/-- `{{ instance_l4_port }}`. -/
def instanceL4PortExpression : String := "\x7b\x7b instance_l4_port \x7d\x7d"

/-- A piece, as the template has it. -/
def Piece.source : Piece → String
  | .text s => s
  | .portHost i => portHostExpression i
  | .instanceL4Port => instanceL4PortExpression

/-- `str` of a host port. -/
def hostText (p : PortInfo) : String :=
  match p.portHost with
  | some n => toString n
  | none => "None"

/-- What a piece is rendered to. -/
def Piece.value (ports : List PortInfo) (l4Port : String) : Piece → String
  | .text s => s
  | .portHost i => ((ports[i]?).map hostText).getD ""
  | .instanceL4Port => l4Port

/-- A text that the engine leaves alone. -/
def Literal (s : String) : Prop := '{' ∉ s.toList ∧ '\n' ∉ s.toList

/-- A piece that the deployment can render. -/
def Piece.Fits (ports : List PortInfo) : Piece → Prop
  | .text s => Literal s
  | .portHost i => i < ports.length
  | .instanceL4Port => True

/-- **The template engine**, as far as mappings need it: plain text stays, and each
expression gives way to the value of its variable. -/
def Renders (render : String → Option String) (ports : List PortInfo) (l4Port : String) : Prop :=
  ∀ pieces : List Piece, (∀ p ∈ pieces, p.Fits ports) →
    render (String.join (pieces.map Piece.source)) =
      some (String.join (pieces.map (Piece.value ports l4Port)))

/-- The mapping of a port, as the template has it. -/
def l4Mapping (l4BindHost : String) (p : PortInfo) (i : Nat) : String :=
  l4BindHost ++ ":" ++ portHostExpression i ++ ":" ++ containerSide l4BindHost p i ++
    if p.protocol = .str "udp" then "/udp" else ""

theorem l4Mappings_eq (info : GreffonInfo) (l4BindHost : String) :
    l4Mappings info l4BindHost = (info.ports.zipIdx.filter fun p => !p.1.proxied).map fun p =>
      (p.1.containerName, .str (l4Mapping l4BindHost p.1 p.2)) :=
  rfl

/-- A port in a mapping. -/
def IsPortText (s : String) : Prop := s ≠ "" ∧ ':' ∉ s.toList ∧ '/' ∉ s.toList

/-- **A usable mapping**: `ip:host:container`, with an optional `/udp`; a `same_port` port
listens where it is advertised. -/
def Usable (l4BindHost advertised : String) (p : PortInfo) (mapping : String) : Prop :=
  ∃ host container suffix, mapping = l4BindHost ++ ":" ++ host ++ ":" ++ container ++ suffix ∧
    IsPortText host ∧ IsPortText container ∧ (suffix = "" ∨ suffix = "/udp") ∧
    (p.samePort = true → container = advertised)

/-- What the allocation of the ports leaves of an info: the ports have their host ports. -/
structure Allocated (before after : GreffonInfo) : Prop where
  ports : after.ports.map (fun p => { p with portHost := none }) = before.ports
  hosts : ∀ p ∈ after.ports, p.portHost.isSome = true

/-- The pieces of a mapping. -/
def mappingPieces (l4BindHost : String) (p : PortInfo) (i : Nat) : List Piece :=
  [.text (l4BindHost ++ ":"), .portHost i, .text ":",
    if p.samePort then if l4BindHost = "127.0.0.1" then .instanceL4Port else .portHost i
    else .text p.portContainer,
    .text (if p.protocol = .str "udp" then "/udp" else "")]

theorem source_mappingPieces (l4BindHost : String) (p : PortInfo) (i : Nat) :
    String.join ((mappingPieces l4BindHost p i).map Piece.source) = l4Mapping l4BindHost p i := by
  unfold mappingPieces l4Mapping containerSide
  split
  · split <;> simp [String.join, Piece.source, instanceL4PortExpression, String.append_assoc]
  · simp [String.join, Piece.source, String.append_assoc]

/-- The container's side, rendered. -/
def renderedContainer (l4BindHost advertised : String) (p : PortInfo) : String :=
  if p.samePort then if l4BindHost = "127.0.0.1" then advertised else hostText p
  else p.portContainer

theorem value_mappingPieces {ports : List PortInfo} {p : PortInfo} {i : Nat}
    (h : ports[i]? = some p) (l4BindHost advertised : String) :
    String.join ((mappingPieces l4BindHost p i).map (Piece.value ports advertised)) =
      l4BindHost ++ ":" ++ hostText p ++ ":" ++ renderedContainer l4BindHost advertised p ++
        if p.protocol = .str "udp" then "/udp" else "" := by
  unfold mappingPieces renderedContainer
  split
  · split <;> simp [String.join, Piece.value, h, String.append_assoc]
  · simp [String.join, Piece.value, h, String.append_assoc]

/-! ## Numbers in a mapping -/

theorem isPortText_of_isDigit {s : String} (h : isDigit s = true) : IsPortText s := by
  refine ⟨?_, not_mem_of_isDigit (by decide) h, not_mem_of_isDigit (by decide) h⟩
  rintro rfl
  cases h

theorem literal_of_isDigit {s : String} (h : isDigit s = true) : Literal s :=
  ⟨not_mem_of_isDigit (by decide) h, not_mem_of_isDigit (by decide) h⟩

theorem isPortText_nat (n : Nat) : IsPortText (toString n) :=
  isPortText_of_isDigit (isDigit_toString n)

theorem isPortText_int (n : Int) : IsPortText (toString n) := by
  cases n with
  | ofNat n => exact isPortText_nat n
  | negSucc n =>
    obtain ⟨-, hcolon, hslash⟩ := isPortText_nat (n + 1)
    have htext : toString (Int.negSucc n) = "-" ++ toString (n + 1) := rfl
    rw [htext]
    refine ⟨fun h => ?_, ?_, ?_⟩
    · have hlist := congrArg String.toList h
      rw [String.toList_append] at hlist
      cases hlist
    · rw [String.toList_append, List.mem_append]
      exact not_or.mpr ⟨by decide, hcolon⟩
    · rw [String.toList_append, List.mem_append]
      exact not_or.mpr ⟨by decide, hslash⟩

theorem toString_nat_inj {m n : Nat} (h : toString m = toString n) : m = n := by
  have htext : ∀ n : Nat, (toString n).toList = Nat.toDigits 10 n := fun n => Nat.toList_repr
  have hlist := congrArg String.toList h
  rw [htext, htext] at hlist
  have hvalue := congrArg (fun ds => Nat.ofDigitChars 10 ds 0) hlist
  simpa only [Nat.ofDigitChars_ten_toDigits] using hvalue

theorem suffix_inj {a a' s s' : String} (ha : '/' ∉ a.toList) (ha' : '/' ∉ a'.toList)
    (hs : s = "" ∨ s = "/udp") (hs' : s' = "" ∨ s' = "/udp") (h : a ++ s = a' ++ s') : a = a' := by
  have hlist := congrArg (fun t => t.toList.takeWhile (· != '/')) h
  have hcut : ∀ b t : String, '/' ∉ b.toList → t = "" ∨ t = "/udp" →
      (b ++ t).toList.takeWhile (· != '/') = b.toList := by
    intro b t hb ht
    rw [String.toList_append, List.takeWhile_append_of_pos fun c hc => ?_]
    · rcases ht with rfl | rfl
      · exact List.append_nil _
      · exact List.append_nil _
    · rw [bne_iff_ne]
      exact fun heq => hb (heq ▸ hc)
  simp only [hcut a s ha hs, hcut a' s' ha' hs'] at hlist
  exact String.toList_inj.mp hlist

/-- **When one mapping is usable**: a port that is not `same_port` always has a usable one. -/
theorem usable_iff {l4BindHost advertised : String} {p : PortInfo} {suffix : String}
    (hhost : p.portHost.isSome = true) (hcontainer : isDigit p.portContainer = true)
    (hadvertised : ':' ∉ advertised.toList ∧ '/' ∉ advertised.toList)
    (hsuffix : suffix = "" ∨ suffix = "/udp") :
    Usable l4BindHost advertised p (l4BindHost ++ ":" ++ hostText p ++ ":" ++
        renderedContainer l4BindHost advertised p ++ suffix) ↔
      (p.samePort = true → advertised ≠ "" ∧
        renderedContainer l4BindHost advertised p = advertised) := by
  obtain ⟨n, hn⟩ := Option.isSome_iff_exists.mp hhost
  have hhosttext : hostText p = toString n := by
    rw [hostText, hn]
  have hrendered : ':' ∉ (renderedContainer l4BindHost advertised p).toList ∧
      '/' ∉ (renderedContainer l4BindHost advertised p).toList := by
    unfold renderedContainer
    split
    · split
      · exact hadvertised
      · rw [hhosttext]
        exact (isPortText_nat n).2
    · exact (isPortText_of_isDigit hcontainer).2
  have hcolon : ∀ s : String, s = "" ∨ s = "/udp" → ':' ∉ s.toList := by
    rintro s (rfl | rfl) <;> decide
  constructor
  · rintro ⟨host, container, suffix', heq, -, hport, hsuffix', hsame⟩ hsamePort
    have hnone : ∀ a b : String, ':' ∉ a.toList → b = "" ∨ b = "/udp" →
        ':' ∉ (a ++ b).toList := by
      intro a b ha hb
      rw [String.toList_append, List.mem_append]
      exact not_or.mpr ⟨ha, hcolon b hb⟩
    have hparts : (l4BindHost ++ ":" ++ hostText p) ++ ":" ++
        (renderedContainer l4BindHost advertised p ++ suffix) =
        (l4BindHost ++ ":" ++ host) ++ ":" ++ (container ++ suffix') := by
      simpa only [String.append_assoc] using heq
    obtain ⟨-, htail⟩ := append_sep_inj (hnone _ _ hrendered.1 hsuffix)
      (hnone _ _ hport.2.1 hsuffix') hparts
    have hcontainer' := suffix_inj hrendered.2 hport.2.2 hsuffix hsuffix' htail
    rw [hcontainer', hsame hsamePort]
    exact ⟨hsame hsamePort ▸ hport.1, rfl⟩
  · intro hadvertises
    refine ⟨_, _, suffix, rfl, hhosttext ▸ isPortText_nat n, ⟨?_, hrendered⟩, hsuffix,
      fun hsame => (hadvertises hsame).2⟩
    by_cases hsame : p.samePort = true
    · rw [(hadvertises hsame).2]
      exact (hadvertises hsame).1
    · rw [renderedContainer, if_neg hsame]
      exact (isPortText_of_isDigit hcontainer).1

/-! ## The law -/

/-- The manager hands over an endpoint. -/
def L4Handoff.Given (given : L4Handoff) : Prop :=
  (∃ host, given.host = some host ∧ host ≠ "") ∧ ∃ port, given.port = some port ∧ port ≠ 0

/-- A `same_port` port has the host port that is advertised: the first L4 port's, which
is not zero. -/
def SharesFirst (info : GreffonInfo) (p : PortInfo) : Prop :=
  p.portHost ≠ some 0 ∧
    ∃ first, (info.ports.find? fun q => !q.proxied) = some first ∧ first.portHost = p.portHost

section
variable {address : PublicAddress} {info : GreffonInfo} {given : L4Handoff}

/-- Behind a tunnel the advertised port is the manager's, or empty. -/
theorem advertised_tunnel (address : PublicAddress) (info : GreffonInfo) (given : L4Handoff) :
    (given.Given ∧ ∃ n : Int, (instanceL4 address info "127.0.0.1" given).port = toString n) ∨
      (¬ given.Given ∧ (instanceL4 address info "127.0.0.1" given).port = "") := by
  have hcomputed : (computeL4Context address info "127.0.0.1").port = "" := by
    unfold computeL4Context
    split
    · rw [if_neg (not_not.mpr rfl)]
    · rfl
  obtain ⟨host, port, proto⟩ := given
  by_cases hhost : ∃ h, host = some h ∧ h ≠ ""
  · obtain ⟨h, rfl, hne⟩ := hhost
    by_cases hport : ∃ n, port = some n ∧ n ≠ 0
    · obtain ⟨n, rfl, hnz⟩ := hport
      refine .inl ⟨⟨⟨h, rfl, hne⟩, n, rfl, hnz⟩, n, ?_⟩
      have hsome : nonEmpty (some h) = some h := by simp [nonEmpty, Option.filter, hne]
      have hport : (some n).filter (· != 0) = some n := by simp [Option.filter, hnz]
      simp only [instanceL4, handedOver, hsome, hport]
      rfl
    · refine .inr ⟨fun hgiven => hport hgiven.2, ?_⟩
      have hnone : port.filter (· != 0) = none := by
        cases port with
        | none => rfl
        | some n =>
          have hzero : n = 0 := by
            by_contra hnz
            exact hport ⟨n, rfl, hnz⟩
          rw [hzero]
          rfl
      simp [instanceL4, handedOver, hnone, hcomputed]
  · refine .inr ⟨fun hgiven => hhost hgiven.1, ?_⟩
    have hnone : nonEmpty host = none := by
      cases host with
      | none => rfl
      | some h =>
        have hempty : h = "" := by
          by_contra hne
          exact hhost ⟨h, rfl, hne⟩
        rw [hempty]
        rfl
    simp [instanceL4, handedOver, hnone, hcomputed]

/-- Elsewhere it is the first L4 port's. -/
theorem advertised_proxy : (instanceL4 address info "0.0.0.0" given).port =
    ((info.ports.find? fun p => !p.proxied).map advertisedPort).getD "" := by
  have hnone : handedOver "0.0.0.0" given = none := by
    unfold handedOver
    split
    · rfl
    · rfl
  rw [instanceL4, hnone, Option.getD_none, computeL4Context]
  split
  · rename_i first hfirst
    rw [if_pos (by decide), hfirst]
    rfl
  · rename_i hfirst
    rw [hfirst]
    rfl

theorem advertisedPort_text (p : PortInfo) :
    ':' ∉ (advertisedPort p).toList ∧ '/' ∉ (advertisedPort p).toList := by
  unfold advertisedPort
  split
  · exact (isPortText_nat _).2
  · exact ⟨by decide, by decide⟩

theorem advertised_text (settings : StartSettings) :
    ':' ∉ (instanceL4 address info (l4BindHost settings) given).port.toList ∧
      '/' ∉ (instanceL4 address info (l4BindHost settings) given).port.toList := by
  unfold l4BindHost
  split
  · obtain ⟨-, n, hn⟩ | ⟨-, hempty⟩ := advertised_tunnel address info given
    · rw [hn]
      exact (isPortText_int n).2
    · rw [hempty]
      exact ⟨by decide, by decide⟩
  · rw [advertised_proxy]
    cases info.ports.find? fun p => !p.proxied with
    | none => exact ⟨by decide, by decide⟩
    | some first => exact advertisedPort_text first

/-- **Where a `same_port` port listens where it is advertised.** -/
theorem advertises_iff {settings : StartSettings} {p : PortInfo} (hp : p ∈ info.ports)
    (hproxied : p.proxied = false) (hhosts : ∀ q ∈ info.ports, q.portHost.isSome = true)
    (hsame : p.samePort = true) :
    ((instanceL4 address info (l4BindHost settings) given).port ≠ "" ∧
      renderedContainer (l4BindHost settings)
        (instanceL4 address info (l4BindHost settings) given).port p =
        (instanceL4 address info (l4BindHost settings) given).port) ↔
      if settings.tunnelMode then given.Given else SharesFirst info p := by
  unfold l4BindHost
  split
  · rw [renderedContainer, if_pos hsame, if_pos rfl, and_iff_left rfl]
    obtain ⟨hgiven, n, hn⟩ | ⟨hgiven, hempty⟩ := advertised_tunnel address info given
    · rw [hn]
      exact ⟨fun _ => hgiven, fun _ => (isPortText_int n).1⟩
    · exact ⟨fun h => absurd hempty h, fun h => absurd h hgiven⟩
  · rw [renderedContainer, if_pos hsame, if_neg (by decide), advertised_proxy]
    obtain ⟨n, hn⟩ := Option.isSome_iff_exists.mp (hhosts p hp)
    obtain ⟨first, hfirst⟩ : ∃ first, (info.ports.find? fun q => !q.proxied) = some first := by
      rw [← Option.isSome_iff_exists, List.find?_isSome]
      exact ⟨p, hp, by rw [hproxied]; rfl⟩
    obtain ⟨m, hm⟩ := Option.isSome_iff_exists.mp (hhosts first (List.mem_of_find?_eq_some hfirst))
    have hhost : hostText p = toString n := by rw [hostText, hn]
    rw [hfirst, Option.map_some, Option.getD_some, hhost, SharesFirst, hn, advertisedPort, hm]
    by_cases hzero : m = 0
    · subst hzero
      constructor
      · rintro ⟨hne, -⟩
        exact absurd rfl hne
      · rintro ⟨hnz, first', hfirst', heq⟩
        cases hfirst.symm.trans hfirst'
        rw [hm] at heq
        exact absurd heq.symm hnz
    · have hfilter : (some m).filter (· != 0) = some m := by simp [hzero]
      rw [hfilter]
      constructor
      · rintro ⟨-, heq⟩
        obtain rfl := toString_nat_inj heq
        exact ⟨fun h => hzero (Option.some.inj h), first, hfirst, hm⟩
      · rintro ⟨-, first', hfirst', heq⟩
        cases hfirst.symm.trans hfirst'
        rw [hm] at heq
        cases heq
        exact ⟨(isPortText_nat n).1, rfl⟩

end

/-- The ports of an allocated info have container ports of digits. -/
theorem containers_of_allocated {greffonPath : String} {compose : Yaml} {greffon : Greffon}
    {strict : Bool} {extraKeys : Option String} {before info : GreffonInfo} {normalized : Entries}
    (hinfo : createGreffonInfo greffonPath compose greffon strict extraKeys =
      .ok (before, normalized))
    (hallocated : Allocated before info) : ∀ p ∈ info.ports, isDigit p.portContainer = true := by
  obtain ⟨hdeclared, heach⟩ := createGreffonInfo_ports hinfo
  intro p hp
  have hbefore : { p with portHost := none } ∈ before.ports :=
    hallocated.ports ▸ List.mem_map_of_mem hp
  have hmem := List.mem_map_of_mem (f := PortInfo.declared) hbefore
  rw [hdeclared] at hmem
  obtain ⟨d, hd, heq⟩ := List.mem_map.mp hmem
  obtain ⟨s, hs, hd⟩ := List.mem_flatMap.mp hd
  obtain ⟨t, ht, rfl⟩ := List.mem_map.mp hd
  have hport : t = p.portContainer := (Prod.mk.inj (Prod.mk.inj heq).1).2
  exact hport ▸ (heach s hs).2 t ht

theorem mappingPieces_fit {ports : List PortInfo} {p : PortInfo} {i : Nat}
    (h : ports[i]? = some p) (hcontainer : isDigit p.portContainer = true)
    (settings : StartSettings) :
    ∀ piece ∈ mappingPieces (l4BindHost settings) p i, piece.Fits ports := by
  have hi : i < ports.length := (List.getElem?_eq_some_iff.mp h).1
  have hhost : Literal (l4BindHost settings ++ ":") := by
    unfold l4BindHost
    split
    · exact ⟨by decide, by decide⟩
    · exact ⟨by decide, by decide⟩
  intro piece hpiece
  simp only [mappingPieces, List.mem_cons, List.not_mem_nil, or_false] at hpiece
  obtain rfl | rfl | rfl | rfl | rfl := hpiece
  · exact hhost
  · exact hi
  · exact ⟨by decide, by decide⟩
  · split
    · split
      · trivial
      · exact hi
    · exact literal_of_isDigit hcontainer
  · split
    · exact ⟨by decide, by decide⟩
    · exact ⟨by decide, by decide⟩

/-- **When the mappings are usable.** -/
theorem l4_mappings_usable_iff {settings : StartSettings} {compose : Yaml} {greffon : Greffon}
    {strict : Bool} {extraKeys : Option String} {before info : GreffonInfo} {normalized : Entries}
    {address : PublicAddress} {given : L4Handoff} {render : String → Option String}
    (hinfo : createGreffonInfo settings.greffonPath compose greffon strict extraKeys =
      .ok (before, normalized))
    (hallocated : Allocated before info)
    (hrender : Renders render info.ports
      (instanceL4 address info (l4BindHost settings) given).port) :
    (∀ p ∈ info.ports.zipIdx, p.1.proxied = false →
      (p.1.containerName, .str (l4Mapping (l4BindHost settings) p.1 p.2)) ∈
        l4Mappings info (l4BindHost settings) ∧
      ∃ mapping, render (l4Mapping (l4BindHost settings) p.1 p.2) = some mapping ∧
        Usable (l4BindHost settings) (instanceL4 address info (l4BindHost settings) given).port
          p.1 mapping) ↔
    ∀ p ∈ info.ports, p.proxied = false → p.samePort = true →
      if settings.tunnelMode then given.Given else SharesFirst info p := by
  have hcontainers := containers_of_allocated hinfo hallocated
  -- A mapping by itself: it always renders, and what it renders to can fail the same port only.
  have hone : ∀ p i, info.ports[i]? = some p →
      ((∃ mapping, render (l4Mapping (l4BindHost settings) p i) = some mapping ∧
        Usable (l4BindHost settings) (instanceL4 address info (l4BindHost settings) given).port
          p mapping) ↔
      (p.samePort = true →
        (instanceL4 address info (l4BindHost settings) given).port ≠ "" ∧
        renderedContainer (l4BindHost settings)
          (instanceL4 address info (l4BindHost settings) given).port p =
          (instanceL4 address info (l4BindHost settings) given).port)) := by
    intro p i hi
    have hp := List.mem_of_getElem? hi
    have hfits := mappingPieces_fit hi (hcontainers p hp) settings
    have hsuffix : (if p.protocol = .str "udp" then "/udp" else "") = "" ∨
        (if p.protocol = .str "udp" then "/udp" else "") = "/udp" := by
      split
      · exact .inr rfl
      · exact .inl rfl
    have hmapping := hrender _ hfits
    rw [source_mappingPieces, value_mappingPieces hi] at hmapping
    rw [← usable_iff (hallocated.hosts p hp) (hcontainers p hp) (advertised_text settings) hsuffix,
      hmapping]
    simp
  constructor
  · intro hall p hp hproxied hsame
    obtain ⟨i, hi⟩ := List.getElem?_of_mem hp
    obtain ⟨-, husable⟩ := hall (p, i) (List.mem_zipIdx_iff_getElem?.mpr hi) hproxied
    exact (advertises_iff hp hproxied hallocated.hosts hsame).mp ((hone p i hi).mp husable hsame)
  · rintro hadvertises ⟨p, i⟩ hmem hproxied
    have hi := List.mem_zipIdx_iff_getElem?.mp hmem
    have hp := List.mem_of_getElem? hi
    refine ⟨?_, (hone p i hi).mpr fun hsame =>
      (advertises_iff hp hproxied hallocated.hosts hsame).mpr (hadvertises p hp hproxied hsame)⟩
    rw [l4Mappings_eq]
    refine List.mem_map.mpr ⟨(p, i), List.mem_filter.mpr ⟨hmem, ?_⟩, rfl⟩
    rw [hproxied]
    rfl

/-! ## A deployment of one port -/

/-- The first port's expression. -/
def firstHost : List Char := (portHostExpression 0).toList

/-- The expression of the advertised port. -/
def l4PortExpression : List Char := instanceL4PortExpression.toList

/-- The engine, in a deployment of one port: `skip` characters belong to the last
expression. -/
def expand (host port : List Char) : List Char → Nat → List Char
  | [], _ => []
  | _ :: rest, skip + 1 => expand host port rest skip
  | c :: rest, 0 =>
    if firstHost.isPrefixOf (c :: rest) then host ++ expand host port rest (firstHost.length - 1)
    else if l4PortExpression.isPrefixOf (c :: rest) then
      port ++ expand host port rest (l4PortExpression.length - 1)
    else c :: expand host port rest 0

/-- The engine on texts. -/
def expandText (p : PortInfo) (l4Port template : String) : Option String :=
  some (String.ofList (expand (hostText p).toList l4Port.toList template.toList 0))

section
variable {host port : List Char}

theorem expand_skip (taken text : List Char) :
    expand host port (taken ++ text) taken.length = expand host port text 0 := by
  induction taken with
  | nil => rfl
  | cons c rest ih => exact ih

theorem expand_literal {taken : List Char} (h : '{' ∉ taken) (text : List Char) :
    expand host port (taken ++ text) 0 = taken ++ expand host port text 0 := by
  induction taken with
  | nil => rfl
  | cons c rest ih =>
    have hc : c ≠ '{' := fun heq => h (heq ▸ List.mem_cons_self)
    have hbeq : ('{' == c) = false := beq_eq_false_iff_ne.mpr hc.symm
    have hone : firstHost.isPrefixOf (c :: (rest ++ text)) = false := by
      have hhead : firstHost = '{' :: firstHost.tail := by decide +kernel
      rw [hhead, List.isPrefixOf, hbeq, Bool.false_and]
    have htwo : l4PortExpression.isPrefixOf (c :: (rest ++ text)) = false := by
      have hhead : l4PortExpression = '{' :: l4PortExpression.tail := by decide +kernel
      rw [hhead, List.isPrefixOf, hbeq, Bool.false_and]
    rw [List.cons_append, expand, hone, htwo, if_neg (by decide), if_neg (by decide),
      ih fun hmem => h (List.mem_cons_of_mem _ hmem)]
    rfl

theorem isPrefixOf_self_append (l text : List Char) : l.isPrefixOf (l ++ text) = true :=
  List.isPrefixOf_iff_prefix.mpr (List.prefix_append l text)

theorem expand_firstHost (text : List Char) :
    expand host port (firstHost ++ text) 0 = host ++ expand host port text 0 := by
  obtain ⟨tail, htail⟩ : ∃ tail, firstHost = '{' :: tail := ⟨firstHost.tail, by decide +kernel⟩
  have hcons : firstHost ++ text = '{' :: (tail ++ text) := by rw [htail, List.cons_append]
  have hlength : firstHost.length - 1 = tail.length := by
    rw [htail, List.length_cons, Nat.add_sub_cancel]
  rw [hcons, expand, ← hcons, if_pos (isPrefixOf_self_append _ _), hlength, expand_skip]

theorem expand_l4Port (text : List Char) :
    expand host port (l4PortExpression ++ text) 0 = port ++ expand host port text 0 := by
  obtain ⟨tail, htail⟩ : ∃ tail, l4PortExpression = '{' :: '{' :: ' ' :: tail :=
    ⟨l4PortExpression.drop 3, by decide +kernel⟩
  obtain ⟨tail', htail'⟩ : ∃ tail, firstHost = '{' :: '{' :: 'p' :: tail :=
    ⟨firstHost.drop 3, by decide +kernel⟩
  have hcons : l4PortExpression ++ text = '{' :: ('{' :: ' ' :: tail ++ text) := by
    rw [htail, List.cons_append]
  have hlength : l4PortExpression.length - 1 = ('{' :: ' ' :: tail).length := by
    rw [htail, List.length_cons, Nat.add_sub_cancel]
  have hother : ¬ firstHost.isPrefixOf (l4PortExpression ++ text) = true := by
    rw [htail, htail']
    simp
  rw [hcons, expand, ← hcons, if_neg hother, if_pos (isPrefixOf_self_append _ _), hlength,
    expand_skip]

end

/-- **The engine does what a mapping relies on.** -/
theorem expandText_renders (p : PortInfo) (l4Port : String) :
    Renders (expandText p l4Port) [p] l4Port := by
  intro pieces hfits
  have hlist : expand (hostText p).toList l4Port.toList
      (String.join (pieces.map Piece.source)).toList 0 =
      (String.join (pieces.map (Piece.value [p] l4Port))).toList := by
    induction pieces with
    | nil => rfl
    | cons piece rest ih =>
      obtain ⟨hpiece, hrest⟩ := List.forall_mem_cons.mp hfits
      simp only [List.map_cons, String.join_cons, String.toList_append]
      rw [← ih hrest]
      cases piece with
      | text s => exact expand_literal hpiece.1 _
      | portHost i =>
        have hi : i = 0 := Nat.lt_one_iff.mp hpiece
        subst hi
        exact expand_firstHost _
      | instanceL4Port => exact expand_l4Port _
  rw [expandText, hlist, String.ofList_toList]

/-- A compose of one service with one port. -/
def vpnCompose : Yaml :=
  .dict [(.str "services", .dict [(.str "vpn", .dict
    [(.str "image", .str "vpn"), (.str "ports", .list [.str "51820:51820/udp"])])])]

/-- Its request: the port is on the fourth layer, and listens where it is advertised. -/
def vpnRequest : Greffon where
  id := "a"
  ports := [("vpn_51820", [(.str "exposure_tier", .str "l4"), (.str "same_port", .bool true)])]

/-- The port, once it has its host port. -/
def vpnPort : PortInfo where
  portContainer := "51820"
  containerName := "vpn"
  portName := "vpn_51820"
  url := .null
  protocol := .str "udp"
  exposureTier := .str "l4"
  samePort := true
  streaming := false
  portHost := some 20000

theorem vpn_collected : ∃ before normalized,
    createGreffonInfo "/data" vpnCompose vpnRequest false none = .ok (before, normalized) ∧
    before.ports = [{ vpnPort with portHost := none }] :=
  ⟨_, _, rfl, rfl⟩

theorem vpn_allocated {before : GreffonInfo}
    (h : before.ports = [{ vpnPort with portHost := none }]) :
    Allocated before { before with ports := [vpnPort] } where
  ports := h.symm
  hosts := by
    intro p hp
    rw [List.mem_singleton.mp hp]
    rfl

/-- Published on the public interface, the port is usable. -/
theorem l4_mappings_usable_vpn : ∃ before normalized,
    createGreffonInfo "/data" vpnCompose vpnRequest false none = .ok (before, normalized) ∧
    ∀ p ∈ [vpnPort].zipIdx, p.1.proxied = false →
      ∃ mapping, expandText vpnPort "20000" (l4Mapping "0.0.0.0" p.1 p.2) = some mapping ∧
        Usable "0.0.0.0" "20000" p.1 mapping := by
  obtain ⟨before, normalized, hinfo, hports⟩ := vpn_collected
  have hstart : createGreffonInfo ({} : StartSettings).greffonPath vpnCompose vpnRequest false
      none = .ok (before, normalized) := hinfo
  have hrender : Renders (expandText vpnPort "20000") [vpnPort]
      (instanceL4 {} { before with ports := [vpnPort] } (l4BindHost {}) {}).port :=
    expandText_renders vpnPort "20000"
  have hshares : ∀ p ∈ [vpnPort], p.proxied = false → p.samePort = true →
      SharesFirst { before with ports := [vpnPort] } p := by
    intro p hp _ _
    rw [List.mem_singleton.mp hp]
    exact ⟨by decide, vpnPort, rfl, rfl⟩
  have husable := (l4_mappings_usable_iff hstart (vpn_allocated hports) hrender).mpr hshares
  exact ⟨before, normalized, hinfo, fun p hp hproxied => (husable p hp hproxied).2⟩

/-- **Behind a tunnel, without a hand-off**, the container port of a `same_port` port is empty. -/
theorem tunnel_mapping_empty : ¬ ∀ (settings : StartSettings) (compose : Yaml) (greffon : Greffon)
    (strict : Bool) (extraKeys : Option String) (before info : GreffonInfo) (normalized : Entries)
    (address : PublicAddress) (given : L4Handoff) (render : String → Option String),
    createGreffonInfo settings.greffonPath compose greffon strict extraKeys =
      .ok (before, normalized) → Allocated before info →
    Renders render info.ports (instanceL4 address info (l4BindHost settings) given).port →
    ∀ p ∈ info.ports.zipIdx, p.1.proxied = false →
      ∃ mapping, render (l4Mapping (l4BindHost settings) p.1 p.2) = some mapping ∧
        Usable (l4BindHost settings) (instanceL4 address info (l4BindHost settings) given).port
          p.1 mapping := by
  intro hall
  obtain ⟨before, normalized, hinfo, hports⟩ := vpn_collected
  obtain ⟨mapping, -, hosts⟩ := hall { tunnelMode := true } vpnCompose vpnRequest false none before _
    normalized {} {} (expandText vpnPort "") hinfo (vpn_allocated hports)
    (expandText_renders vpnPort "") (vpnPort, 0) List.mem_cons_self (by decide)
  obtain ⟨host, container, suffix, -, -, hport, -, hsame⟩ := hosts
  exact hport.1 (hsame rfl)

end Greffer.Instance

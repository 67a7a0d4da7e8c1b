import Mathlib.Data.List.Induction
import Greffer.Compose.PortPartition

/-! # What an accepted compose promises downstream

The nginx template takes the container ports and the service names of a normalized
compose as they are, so the pass should leave nothing that two readers could take
differently.  `Postcondition` says so: every container port is the **canonical decimal**
of a number from 1 to 65535, the ports of one service differ as numbers, every network
that a service joins is declared or `default`, and a service's name is made of characters
that an nginx token may have.

The pass compares container ports by their texts and bounds them by their numbers, and
`isdigit` takes digits of any script and leading zeros.  So `80` and `080` pass as two
ports.  An accepted compose meets the postcondition **exactly when its ports are written
plainly** (`normalized_canonical_iff`); the networks and the names are never in the way.
-/
namespace Greffer.Compose

/-! ## Decimals -/

/-- A text of ASCII digits without a leading zero. -/
def isPlainDecimal (text : String) : Bool :=
  text.toList.all Char.isDigit && text.toList.head? != some '0'

theorem isDigit_bounds {c : Char} (h : c.isDigit = true) : 48 ≤ c.toNat ∧ c.toNat ≤ 57 := by
  rw [Char.isDigit, Bool.and_eq_true, decide_eq_true_eq, decide_eq_true_eq] at h
  exact ⟨UInt32.le_iff_toNat_le.mp h.1, UInt32.le_iff_toNat_le.mp h.2⟩

theorem decimalValue_of_isDigit {c : Char} (h : c.isDigit = true) :
    decimalValue c = some (c.toNat - '0'.toNat) := by
  obtain ⟨hlow, hhigh⟩ := isDigit_bounds h
  have hfirst : decimalZeros.find? (fun z => z ≤ c.toNat && c.toNat < z + 10) = some 48 := by
    refine List.find?_cons_of_pos ?_
    simp only [Bool.and_eq_true, decide_eq_true_eq]
    omega
  rw [decimalValue, hfirst]
  rfl

/-- **ASCII digits denote the number that they spell.** -/
theorem decimalNumber_ascii {digits : List Char} (h : ∀ c ∈ digits, c.isDigit = true) (acc : Nat) :
    decimalNumber digits acc = some (Nat.ofDigitChars 10 digits acc) := by
  induction digits generalizing acc with
  | nil => rfl
  | cons c rest ih =>
    rw [decimalNumber, decimalValue_of_isDigit (h c List.mem_cons_self), Option.bind_some,
      ih fun c hc => h c (List.mem_cons_of_mem _ hc), Nat.ofDigitChars_cons]

theorem digitChar_toNat {c : Char} (h : c.isDigit = true) :
    c.toNat - '0'.toNat < 10 ∧ (c.toNat - '0'.toNat).digitChar = c := by
  obtain ⟨hlow, hhigh⟩ := isDigit_bounds h
  have hzero : '0'.toNat = 48 := rfl
  have hten : c.toNat - '0'.toNat < 10 := by omega
  refine ⟨hten, Char.toNat_inj.mp ?_⟩
  have hdigit : ∀ d < 10, d.digitChar.toNat = d + 48 := by decide
  rw [hdigit _ hten]
  omega

/-- **A plain decimal is the decimal of its number.** -/
theorem toDigits_ofDigitChars {digits : List Char} (hne : digits ≠ [])
    (h : ∀ c ∈ digits, c.isDigit = true) (hzero : digits.head? ≠ some '0') :
    Nat.toDigits 10 (Nat.ofDigitChars 10 digits 0) = digits := by
  induction digits using List.reverseRecOn with
  | nil => exact absurd rfl hne
  | append_singleton front c ih =>
    obtain ⟨hten, hchar⟩ := digitChar_toNat (h c (by simp))
    have hlast : Nat.toDigits 10 (c.toNat - '0'.toNat) = [c] := by
      rw [Nat.toDigits_of_lt_base hten, hchar]
    rw [Nat.ofDigitChars_append, Nat.ofDigitChars_cons, Nat.ofDigitChars_nil]
    by_cases hfront : front = []
    · subst hfront
      rw [Nat.ofDigitChars_nil, Nat.mul_zero, Nat.zero_add, hlast, List.nil_append]
    · have hhead : front.head? ≠ some '0' := by
        rwa [List.head?_append_of_ne_nil _ hfront] at hzero
      have hdigits := ih hfront (fun c hc => h c (List.mem_append_left _ hc)) hhead
      -- the digits in front spell a number that is not zero
      have hpos : 0 < Nat.ofDigitChars 10 front 0 := by
        rw [Nat.pos_iff_ne_zero]
        intro hz
        rw [hz, Nat.toDigits_zero] at hdigits
        rw [← hdigits] at hhead
        exact hhead rfl
      rw [← Nat.toDigits_append_toDigits (by decide) hpos hten, hdigits, hlast]

/-- The decimal of a number that is not zero is plain. -/
theorem isPlainDecimal_toString {n : Nat} (hn : 0 < n) : isPlainDecimal (toString n) = true := by
  have hlist : (toString n).toList = Nat.toDigits 10 n := Nat.toList_repr
  rw [isPlainDecimal, hlist, Bool.and_eq_true, List.all_eq_true]
  refine ⟨fun c hc => Nat.isDigit_of_mem_toDigits (by decide) (by decide) hc, ?_⟩
  rw [bne_iff_ne]
  clear hlist
  induction n using Nat.strongRecOn with
  | ind n ih =>
    by_cases hlt : n < 10
    · rw [Nat.toDigits_of_lt_base hlt]
      have hdigit : ∀ d < 10, 0 < d → [d.digitChar].head? ≠ some '0' := by decide
      exact hdigit n hlt hn
    · rw [Nat.toDigits_of_base_le (by decide) (by omega),
        List.head?_append_of_ne_nil _ Nat.toDigits_ne_nil]
      exact ih (n / 10) (by omega) (by omega)

/-! ## Container ports -/

/-- The number that a container port denotes, in whatever digits it is written. -/
def portNumber (target : String) : Option Nat := (intOfDigits target).toOption

/-- The canonical decimal of a port's number. -/
def CanonicalPort (target : String) : Prop := ∃ n, 0 < n ∧ n < 65536 ∧ target = toString n

/-- What the pass checks of a container port: it denotes a number from 1 to 65535. -/
def DenotesPort (target : String) : Prop := ∃ n, intOfDigits target = .ok n ∧ 0 < n ∧ n < 65536

/-- A plain decimal that denotes a number is that number's. -/
theorem eq_toString_of_plain {target : String} {n : Nat} (hn : intOfDigits target = .ok n)
    (hpos : 0 < n) (hplain : isPlainDecimal target = true) : target = toString n := by
  rw [isPlainDecimal, Bool.and_eq_true, List.all_eq_true, bne_iff_ne] at hplain
  unfold intOfDigits at hn
  split at hn
  · cases hn
  rw [decimalNumber_ascii hplain.1] at hn
  cases hn
  refine String.toList_injective ?_
  have hlist : (toString (Nat.ofDigitChars 10 target.toList 0)).toList =
      Nat.toDigits 10 (Nat.ofDigitChars 10 target.toList 0) := Nat.toList_repr
  rw [hlist, toDigits_ofDigitChars ?_ hplain.1 hplain.2]
  intro hnil
  rw [hnil, Nat.ofDigitChars_nil] at hpos
  exact absurd hpos (Nat.lt_irrefl 0)

/-- **A checked port is canonical exactly when it is written plainly.** -/
theorem DenotesPort.canonical_iff {target : String} (h : DenotesPort target) :
    CanonicalPort target ↔ isPlainDecimal target = true := by
  constructor
  · rintro ⟨n, hpos, -, rfl⟩
    exact isPlainDecimal_toString hpos
  · intro hplain
    obtain ⟨n, hn, hpos, hbound⟩ := h
    exact ⟨n, hpos, hbound, eq_toString_of_plain hn hpos hplain⟩

/-- **Plain ports with one number are one text.** -/
theorem DenotesPort.eq_of_portNumber {s t : String} (hs : DenotesPort s) (ht : DenotesPort t)
    (hplain : isPlainDecimal s = true) (hplain' : isPlainDecimal t = true)
    (heq : portNumber s = portNumber t) : s = t := by
  obtain ⟨n, hn, hpos, -⟩ := hs
  obtain ⟨m, hm, hpos', -⟩ := ht
  rw [portNumber, portNumber, hn, hm] at heq
  cases heq
  rw [eq_toString_of_plain hn hpos hplain, eq_toString_of_plain hm hpos' hplain']

theorem portTarget_text_denotes {entry : Yaml} {target service t : String}
    (h : portTarget entry (.str target) service = .ok t) : DenotesPort t := by
  simp only [portTarget, ok_bind] at h
  split at h
  · obtain ⟨n, hn, h⟩ := bind_ok_iff.mp h
    split at h
    · rename_i hbound
      cases h
      exact ⟨n, builtin_ok_iff.mp hn, hbound⟩
    · exact absurd h (badService_ne_ok _ _ _ _ _)
  · exact absurd h (badService_ne_ok _ _ _ _ _)

theorem portTarget_denotes {entry target : Yaml} {service t : String}
    (h : portTarget entry target service = .ok t) : DenotesPort t := by
  cases target with
  | str target => exact portTarget_text_denotes h
  | int n =>
    obtain ⟨v, hv, h⟩ := bind_ok_iff.mp h
    obtain ⟨text, -, rfl⟩ := map_ok_iff.mp hv
    exact portTarget_text_denotes h
  | _ => exact absurd h (badService_ne_ok _ _ _ _ _)

theorem normalizePort_denotes {entry : Yaml} {service : String} {p : Port}
    (h : normalizePort entry service = .ok p) : DenotesPort p.target := by
  obtain ⟨⟨target, protocol⟩, -, h⟩ := bind_ok_iff.mp h
  obtain ⟨t, htarget, h⟩ := bind_ok_iff.mp h
  obtain ⟨proto, -, h⟩ := bind_ok_iff.mp h
  cases h
  exact portTarget_denotes htarget

/-- The container ports of an accepted service denote numbers from 1 to 65535. -/
theorem normalizeService_denotes {declared : List String} {name : String} {d out : Entries}
    (h : normalizeService declared name (.dict d) = .ok out) :
    ∀ t ∈ declaredTargets d, DenotesPort t := by
  unfold normalizeService at h
  split at h
  swap
  · exact absurd h (bad_ne_ok _ _ _ _ _)
  obtain ⟨ports, hports, -⟩ := bind_ok_iff.mp h
  rw [← (normalizeEntries_targets hports).1]
  intro t ht
  obtain ⟨p, hp, rfl⟩ := List.mem_map.mp ht
  rcases normalizeEntries_ok hports with ⟨rfl, -⟩ | ⟨items, bs, rfl, -, hall⟩
  · cases hp
  · rw [Option.getD_some] at hp
    clear * - hall hp
    induction hall with
    | nil => cases hp
    | cons hb _ ih =>
      rcases List.mem_cons.mp hp with rfl | hp
      · exact normalizePort_denotes hb
      · exact ih hp

/-! ## The postcondition -/

/-- A character that is safe in an nginx upstream token. -/
def isTokenChar (c : Char) : Bool := c.isAlphanum || c == '.' || c == '_' || c == '-'

/-- What one service of a normalized compose promises. -/
structure ServiceFit (top : List String) (name : String) (service : Entries) : Prop where
  ports : ∃ ps, servicePorts service = .ok ps ∧ (∀ p ∈ ps, CanonicalPort p.target) ∧
    ps.Pairwise fun p q => portNumber p.target ≠ portNumber q.target
  networks : ∃ names, serviceNetworks service = .ok names ∧ ∀ n ∈ names, n ∈ top ∨ n = "default"
  token : ∀ c ∈ name.toList, isTokenChar c = true

/-- What a normalized compose promises, read off the compose itself. -/
def Postcondition (out : Yaml) : Prop :=
  ∃ services top, servicesOf out.entries = .ok services ∧
    declaredNetworks out.entries = .ok top ∧ ∀ s ∈ services, ServiceFit top s.1 s.2

theorem isTokenChar_of_safe {name : String} (h : isNginxSafe name = true) :
    ∀ c ∈ name.toList, isTokenChar c = true := by
  rw [isNginxSafe, Bool.and_eq_true, List.all_eq_true] at h
  intro c hc
  have hsafe := h.2 c hc
  have hletter : c.isAlphanum = ((c.isUpper || c.isLower) || c.isDigit) := rfl
  have hupper : c.isUpper = decide (c.val ≥ 'A'.val ∧ c.val ≤ 'Z'.val) := rfl
  have hlower : c.isLower = (decide (c.val ≥ 'a'.val) && decide (c.val ≤ 'z'.val)) := rfl
  have hdigit : c.isDigit = (decide (c.val ≥ '0'.val) && decide (c.val ≤ '9'.val)) := rfl
  simp only [isTokenChar, hletter, hupper, hlower, hdigit, Bool.or_eq_true, Bool.and_eq_true,
    decide_eq_true_eq, beq_iff_eq] at hsafe ⊢
  rcases hsafe with (((((h | h) | h) | h) | h) | h)
  · exact .inl (.inl (.inl (.inl (.inr h))))
  · exact .inl (.inl (.inl (.inl (.inl h))))
  · exact .inl (.inl (.inl (.inr h)))
  · exact .inl (.inl (.inr h))
  · exact .inl (.inr h)
  · exact .inr h

/-- **One service** keeps its promise exactly when its ports are written plainly. -/
theorem serviceFit_iff {declared : List String} {name : String} {d out : Entries}
    (h : normalizeService declared name (.dict d) = .ok out) :
    ServiceFit declared name out ↔ ∀ t ∈ declaredTargets d, isPlainDecimal t = true := by
  have hdenotes := normalizeService_denotes h
  have hkept := normalizeService_ports h
  obtain ⟨ps, hread, htargets⟩ := hkept.read
  have hnodup := hkept.nodup
  rw [← htargets] at hdenotes hnodup ⊢
  rw [List.forall_mem_map] at hdenotes ⊢
  constructor
  · intro hfit p hp
    obtain ⟨ps', hread', hcanonical, -⟩ := hfit.ports
    cases hread.symm.trans hread'
    exact (hdenotes p hp).canonical_iff.mp (hcanonical p hp)
  · intro hplain
    obtain ⟨d', hd', hnormalizes⟩ := normalizeService_ok h
    cases hd'
    refine ⟨⟨ps, hread, fun p hp => (hdenotes p hp).canonical_iff.mpr (hplain p hp), ?_⟩,
      ⟨_, hnormalizes.networks, hnormalizes.known⟩, isTokenChar_of_safe ?_⟩
    · refine (List.pairwise_map.mp hnodup).imp_of_mem fun {p q} hp hq hne heq => hne ?_
      exact (hdenotes p hp).eq_of_portNumber (hdenotes q hq) (hplain p hp) (hplain q hq) heq
    · unfold normalizeService at h
      split at h
      · assumption
      · exact absurd h (bad_ne_ok _ _ _ _ _)

theorem servicesFit_iff {declared : List String} {raws services : List (String × Entries)}
    (h : List.Forall₂ (fun raw s => raw.1 = s.1 ∧
      normalizeService declared raw.1 (.dict raw.2) = .ok s.2) raws services) :
    (∀ s ∈ services, ServiceFit declared s.1 s.2) ↔
      ∀ raw ∈ raws, ∀ t ∈ declaredTargets raw.2, isPlainDecimal t = true := by
  induction h with
  | nil => simp
  | cons hs _ ih =>
    rw [List.forall_mem_cons, List.forall_mem_cons, ih, ← hs.1, serviceFit_iff hs.2]

/-- **An accepted compose meets the postcondition exactly when its container ports are
written in ASCII digits without leading zeros.** -/
theorem normalized_canonical_iff {compose out : Yaml} {strict : Bool} {extraKeys : Option String}
    (h : normalizeCompose compose strict extraKeys = .ok out) :
    Postcondition out ↔ ∀ d ∈ declaredPorts compose.entries, isPlainDecimal d.2 = true := by
  obtain ⟨entries, services, declared, rfl, rfl, hdeclared, heach, -⟩ := normalizeCompose_each h
  have htop : declaredNetworks (Dict.set entries (.str "services") (servicesYaml services)) =
      .ok declared := by
    rw [← hdeclared, declaredNetworks, declaredNetworks, Dict.get?_set_ne (by simp)]
  have hall : (∀ d ∈ declaredPorts entries, isPlainDecimal d.2 = true) ↔
      ∀ s ∈ services, ServiceFit declared s.1 s.2 := by
    rw [servicesFit_iff heach, declaredPorts]
    simp only [List.forall_mem_flatMap, List.forall_mem_map]
  refine Iff.trans ?_ hall.symm
  constructor
  · rintro ⟨services', top, hservices, hnetworks, hfit⟩
    cases (servicesOf_set entries services).symm.trans hservices
    cases htop.symm.trans hnetworks
    exact hfit
  · intro hfit
    exact ⟨services, declared, servicesOf_set entries services, htop, hfit⟩

theorem normalized_canonical_publishing : ∃ out,
    normalizeCompose composePublishing true none = .ok out ∧ Postcondition out := by
  obtain ⟨out, hout⟩ : ∃ out, normalizeCompose composePublishing true none = .ok out := ⟨_, rfl⟩
  exact ⟨out, hout, (normalized_canonical_iff hout).mpr (by decide)⟩

/-- A service that publishes one container port under two spellings. -/
def composeSpelledTwice : Yaml :=
  .dict [(.str "services", .dict
    [(.str "app", .dict [(.str "image", .str "x"),
      (.str "ports", .list [.str "8080:80", .str "8081:080"])])])]

/-- **The pass accepts what its postcondition forbids**: `80` and `080` are two texts and
one port. -/
theorem spelled_twice_accepted : ¬ ∀ (compose out : Yaml) (strict : Bool)
    (extraKeys : Option String), compose.WellFormed →
    normalizeCompose compose strict extraKeys = .ok out → Postcondition out := by
  intro hall
  obtain ⟨out, hout⟩ : ∃ out, normalizeCompose composeSpelledTwice true none = .ok out := ⟨_, rfl⟩
  have hloaded : composeSpelledTwice.WellFormed := by
    simp [composeSpelledTwice, Yaml.WellFormed, Yaml.WellFormedAll, Yaml.WellFormedValues,
      Yaml.Distinct, Yaml.sameKey, Yaml.number?]
  obtain ⟨services, top, hservices, -, hfit⟩ := hall _ _ _ _ hloaded hout
  cases hout
  cases hservices
  obtain ⟨ps, hread, -, hdistinct⟩ := (hfit _ List.mem_cons_self).ports
  cases hread
  revert hdistinct
  decide

end Greffer.Compose

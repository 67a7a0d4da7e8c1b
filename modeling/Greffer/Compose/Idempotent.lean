import Greffer.Compose.Reserved

/-! # The pass, run again

`normalize_compose` promises to be idempotent: its own shapes pass through unchanged.  Ports,
networks and names do, and the mounts keep their source and their target.  The mode of a mount is
the exception.  The short form takes any of the documented modes, the normal form is a long one, and
**the long form reads back only `ro` and `rw`** (`reread`).  So the pass is idempotent where the
author wrote no other mode (`normalize_again_iff`), and everywhere else a mode is lost.
-/
namespace Greffer.Compose

/-! ## Values that are set already -/

section Set
variable {β : Type} {d : Dict β} {k : Yaml} {key key' : String} {value : β}

/-- The key is there, and has the value. -/
structure Dict.Holds (d : Dict β) (key : String) (value : β) : Prop where
  has : Dict.has d (.str key) = true
  value : ∀ e ∈ d, e.1.sameKey (.str key) = true → e.2 = value

/-- **To set a value again** changes nothing. -/
theorem Dict.Holds.set_eq (h : Dict.Holds d key value) : Dict.set d (.str key) value = d := by
  unfold Dict.set
  rw [if_pos h.has]
  refine (List.map_congr_left fun e he => ?_).trans (List.map_id _)
  split
  case isTrue hkey => rw [← h.value e he hkey]; rfl
  case isFalse => rfl

theorem Dict.holds_set : Dict.Holds (Dict.set d (.str key) value) key value := by
  refine ⟨Dict.has_set, fun e he hkey => ?_⟩
  unfold Dict.set at he
  split at he
  · obtain ⟨e', -, rfl⟩ := List.mem_map.mp he
    split
    case isTrue => rfl
    case isFalse hne =>
      rw [if_neg hne] at hkey
      exact absurd hkey hne
  case isFalse hnone =>
    rcases List.mem_append.mp he with hold | hnew
    · exact absurd (List.any_eq_true.mpr ⟨e, hold, hkey⟩) hnone
    · rw [List.mem_singleton.mp hnew]

/-- What holds under a key is not touched under another. -/
theorem Dict.Holds.set_ne {value' : β} (h : Dict.Holds d key value) (hne : key' ≠ key) :
    Dict.Holds (Dict.set d (.str key') value') key value := by
  have hother : (Yaml.str key').sameKey (.str key) = false := by
    rw [Bool.eq_false_iff]
    exact fun hsame => hne (Yaml.str.inj ((Yaml.sameKey_str _ _).mp hsame))
  refine ⟨?_, fun e he hkey => ?_⟩
  · rw [← Bool.not_eq_false, ← Dict.get?_eq_none_iff,
      Dict.get?_set_ne fun heq => hne (Yaml.str.inj heq), Dict.get?_eq_none_iff, Bool.not_eq_false]
    exact h.has
  · rcases Dict.mem_set he with hold | ⟨-, hnew | hsame⟩
    · exact h.value e hold hkey
    · rw [hnew, hother] at hkey
      cases hkey
    · rw [(Yaml.sameKey_str _ _).mp hsame, hother] at hkey
      cases hkey

end Set

/-! ## One entry again -/

theorem portTarget_text_again {entry : Yaml} {text service t : String}
    (h : portTarget entry (.str text) service = .ok t) (entry' : Yaml) :
    portTarget entry' (.str t) service = .ok t := by
  simp only [portTarget, ok_bind] at h ⊢
  split at h
  case isTrue hdigits =>
    obtain ⟨n, hn, h⟩ := bind_ok_iff.mp h
    split at h
    case isTrue hrange =>
      cases h
      rw [if_pos hdigits, hn, ok_bind, if_pos hrange]
      rfl
    case isFalse => exact absurd h (badService_ne_ok _ _ _ _ _)
  case isFalse => exact absurd h (badService_ne_ok _ _ _ _ _)

theorem portTarget_again {entry target : Yaml} {service t : String}
    (h : portTarget entry target service = .ok t) (entry' : Yaml) :
    portTarget entry' (.str t) service = .ok t := by
  cases target with
  | str text => exact portTarget_text_again h entry'
  | int n =>
    obtain ⟨value, hvalue, h⟩ := bind_ok_iff.mp h
    obtain ⟨text, -, rfl⟩ := map_ok_iff.mp hvalue
    exact portTarget_text_again h entry'
  | _ => exact absurd h (badService_ne_ok _ _ _ _ _)

theorem portProtocol_again {entry protocol : Yaml} {service : String} {p : Option String}
    (h : portProtocol entry protocol service = .ok p) (entry' : Yaml) :
    portProtocol entry' ((p.map .str).getD .null) service = .ok p := by
  unfold portProtocol at h
  split at h
  case h_1 =>
    cases h
    rfl
  case h_2 =>
    split at h
    case isTrue hknown =>
      cases h
      exact if_pos hknown
    case isFalse => exact absurd h (badService_ne_ok _ _ _ _ _)
  case h_3 =>
    split at h
    · exact absurd h (badService_ne_ok _ _ _ _ _)
    · cases h

/-- **A normalized port** is normalized to itself. -/
theorem normalizePort_again {entry : Yaml} {service : String} {p : Port}
    (h : normalizePort entry service = .ok p) : normalizePort p.toYaml service = .ok p := by
  obtain ⟨⟨target, protocol⟩, -, h⟩ := bind_ok_iff.mp h
  obtain ⟨t, ht, h⟩ := bind_ok_iff.mp h
  obtain ⟨proto, hproto, h⟩ := bind_ok_iff.mp h
  cases h
  have hfields : portFields (Port.toYaml ⟨t, proto⟩) service =
      .ok (.str t, (proto.map .str).getD .null) := rfl
  rw [normalizePort, hfields, ok_bind]
  dsimp only
  rw [portTarget_again ht, ok_bind, portProtocol_again hproto]
  rfl

/-- The modes that the long form reads. -/
def readModes : List String := ["ro", "rw"]

/-- A mount as its normal form reads: without any other mode. -/
def reread (m : VolumeMount) : VolumeMount := { m with mode := m.mode.filter (· ∈ readModes) }

theorem reread_eq_iff {m : VolumeMount} :
    reread m = m ↔ ∀ mode, m.mode = some mode → mode ∈ readModes := by
  obtain ⟨source, target, _ | mode⟩ := m
  · exact ⟨fun _ mode h => (by cases h), fun _ => rfl⟩
  · by_cases hmode : mode ∈ readModes
    · refine ⟨fun _ _ h => Option.some.inj h ▸ hmode, fun _ => ?_⟩
      unfold reread
      rw [Option.filter_some, if_pos (by simpa using hmode)]
    · refine ⟨fun h => ?_, fun h => absurd (h mode rfl) hmode⟩
      have hlost := congrArg VolumeMount.mode h
      unfold reread at hlost
      dsimp only at hlost
      rw [Option.filter_some, if_neg (by simpa using hmode)] at hlost
      cases hlost

theorem longMode_toYaml (m : VolumeMount) :
    longMode [(.str "source", .str m.source), (.str "target", .str m.target),
      (.str "mode", (m.mode.map .str).getD .null)] = (reread m).mode := by
  obtain ⟨source, target, _ | mode⟩ := m
  · rfl
  · by_cases hro : mode = "ro"
    · rw [hro]
      rfl
    · by_cases hrw : mode = "rw"
      · rw [hrw]
        rfl
      · have hnone : (reread ⟨source, target, some mode⟩).mode = none :=
          if_neg (by simp [readModes, hro, hrw])
        have hget : Dict.get? [(Yaml.str "source", Yaml.str source), (.str "target", .str target),
            (.str "mode", ((some mode).map Yaml.str).getD .null)] "mode" = some (.str mode) := rfl
        rw [hnone]
        unfold longMode
        rw [hget]
        split
        case h_1 hbool => cases hbool
        case h_2 heq _ => exact absurd (Yaml.str.inj (Option.some.inj heq)) hro
        case h_3 heq _ => exact absurd (Yaml.str.inj (Option.some.inj heq)) hrw
        case h_4 => rfl

/-- What a mount declares in its normal form. -/
theorem declaredMount_toYaml (m : VolumeMount) : declaredMount m.toYaml = some (reread m) := by
  have hmode := longMode_toYaml m
  unfold VolumeMount.toYaml declaredMount
  dsimp only
  rw [show Dict.get? [(Yaml.str "source", Yaml.str m.source), (.str "target", .str m.target),
    (.str "mode", (m.mode.map Yaml.str).getD .null)] "source" = some (.str m.source) from rfl,
    show Dict.get? [(Yaml.str "source", Yaml.str m.source), (.str "target", .str m.target),
    (.str "mode", (m.mode.map Yaml.str).getD .null)] "target" = some (.str m.target) from rfl]
  dsimp only
  rw [hmode]
  rfl

/-- **A normalized mount** is normalized again, without the modes that are not read. -/
theorem normalizeVolume_again {entry : Yaml} {service : String} {m : VolumeMount}
    (h : normalizeVolume entry service = .ok m) :
    normalizeVolume m.toYaml service = .ok (reread m) := by
  obtain ⟨⟨source, target, mode⟩, -, h⟩ := bind_ok_iff.mp h
  dsimp only at h
  split at h
  case isFalse => exact absurd h (badService_ne_ok _ _ _ _ _)
  case isTrue htruthy =>
    obtain ⟨s, hs, hplain⟩ := bind_ok_iff.mp h
    obtain rfl := asText_ok hs
    split at hplain
    case isTrue => exact absurd hplain (badService_ne_ok _ _ _ _ _)
    case isFalse hbind =>
      obtain ⟨t, ht, hrooted⟩ := bind_ok_iff.mp hplain
      obtain rfl := asText_ok ht
      split at hrooted
      case isFalse => exact absurd hrooted (badService_ne_ok _ _ _ _ _)
      case isTrue habsolute =>
        cases hrooted
        rw [Bool.and_eq_true] at htruthy
        have hfields : mountFields (VolumeMount.toYaml ⟨s, t, mode⟩) service =
            .ok (.str s, .str t, (reread ⟨s, t, mode⟩).mode) := by
          rw [← longMode_toYaml]
          exact if_pos htruthy.1
        rw [normalizeVolume, hfields, ok_bind]
        dsimp only
        rw [if_pos (by rw [htruthy.1, htruthy.2]; rfl), asText, ok_bind, if_neg hbind, asText,
          ok_bind, if_pos habsolute]
        rfl

/-! ## One service again -/

section Service
variable {declared : List String} {name : String} {d out : Entries}

/-- **The entries under a key** are normalized again one by one. -/
theorem normalizeEntries_again {β : Type} {key : String}
    {normalizer : Yaml → String → Except ComposeError β} {r : Option (List β)}
    (toYaml : β → Yaml) (again : β → β)
    (hagain : ∀ e b, normalizer e name = .ok b → normalizer (toYaml b) name = .ok (again b))
    (h : normalizeEntries d name key normalizer = .ok r)
    (hout : Dict.get? out key = Dict.get? (setEntries d key toYaml r) key) :
    normalizeEntries out name key normalizer = .ok (r.map (List.map again)) := by
  unfold normalizeEntries
  rw [hout]
  rcases normalizeEntries_ok h with ⟨rfl, hd | hd⟩ | ⟨items, bs, rfl, -, hall⟩
  · rw [setEntries, hd]
    rfl
  · rw [setEntries, hd]
    rfl
  · rw [setEntries, Dict.get?_set_self]
    refine map_ok_iff.mpr ⟨bs.map again, mapM_ok_iff.mpr ?_, rfl⟩
    rw [List.forall₂_map_left_iff, List.forall₂_map_right_iff]
    clear h hout
    induction hall with
    | nil => exact .nil
    | cons hb _ ih => exact .cons (hagain _ _ hb) ih

/-- The entries are set already. -/
def EntriesHold {β : Type} (d : Entries) (key : String) (toYaml : β → Yaml)
    (entries : Option (List β)) : Prop :=
  ∀ items, entries = some items → Dict.Holds d key (.list (items.map toYaml))

theorem EntriesHold.eq {β : Type} {key : String} {toYaml : β → Yaml} {entries : Option (List β)}
    (h : EntriesHold d key toYaml entries) : setEntries d key toYaml entries = d := by
  cases entries with
  | none => rfl
  | some items => exact (h items rfl).set_eq

theorem entriesHold_set {β : Type} (d : Entries) (key : String) (toYaml : β → Yaml)
    (entries : Option (List β)) : EntriesHold (setEntries d key toYaml entries) key toYaml entries := by
  rintro items rfl
  exact Dict.holds_set

theorem EntriesHold.set_ne {β : Type} {key key' : String} {toYaml : β → Yaml}
    {entries : Option (List β)} (h : EntriesHold d key toYaml entries) (hne : key' ≠ key)
    (value : Yaml) : EntriesHold (Dict.set d (.str key') value) key toYaml entries :=
  fun items hitems => (h items hitems).set_ne hne

theorem EntriesHold.setEntries_ne {β γ : Type} {key key' : String} {toYaml : β → Yaml}
    {entries : Option (List β)} (h : EntriesHold d key toYaml entries) (hne : key' ≠ key)
    (toYaml' : γ → Yaml) (entries' : Option (List γ)) :
    EntriesHold (setEntries d key' toYaml' entries') key toYaml entries := by
  cases entries' with
  | none => exact h
  | some items => exact h.set_ne hne _

theorem EntriesHold.setNetworks {β : Type} {key : String} {toYaml : β → Yaml}
    {entries : Option (List β)} (h : EntriesHold d key toYaml entries) (hne : "networks" ≠ key)
    (hset : setNetworks declared name d = .ok out) : EntriesHold out key toYaml entries := by
  unfold Compose.setNetworks at hset
  split at hset
  · cases hset
    exact h
  · cases hset
    exact h
  · obtain ⟨names, -, rfl⟩ := map_ok_iff.mp hset
    exact h.set_ne hne _

theorem allTexts_map (names : List String) : allTexts (names.map .str) = some names := by
  induction names with
  | nil => rfl
  | cons n rest ih => rw [List.map_cons, allTexts, ih, Option.map_some]

/-- **The networks** are normalized to themselves. -/
theorem setNetworks_again (h : setNetworks declared name d = .ok out) :
    setNetworks declared name out = .ok out := by
  unfold setNetworks at h
  split at h
  case h_1 hd =>
    cases h
    rw [setNetworks, hd]
  case h_2 hd =>
    cases h
    rw [setNetworks, hd]
  case h_3 entry hd =>
    obtain ⟨names, hnames, rfl⟩ := map_ok_iff.mp h
    obtain ⟨names', hnormal, hcheck⟩ := bind_ok_iff.mp hnames
    dsimp only at hcheck
    split at hcheck
    case isFalse => exact absurd hcheck (badService_ne_ok _ _ _ _ _)
    case isTrue hknown =>
      cases hcheck
      have hlist : normalizeServiceNetworks (.list (names.map .str)) name = .ok names := by
        unfold normalizeServiceNetworks
        dsimp only
        rw [allTexts_map]
      have hagain : checkNetworks declared (.list (names.map .str)) name = .ok names := by
        rw [checkNetworks, hlist, ok_bind]
        exact if_pos hknown
      rw [setNetworks, Dict.get?_set_self]
      dsimp only
      rw [hagain]
      exact congrArg Except.ok Dict.holds_set.set_eq

/-- No mount of the service has a mode that is not read back. -/
def ReadsModes (service : Entries) : Prop :=
  ∀ m ∈ declaredMounts service, ∀ mode, m.mode = some mode → mode ∈ readModes

/-- **A normalized service** is normalized to itself, if the modes of its mounts are read back. -/
theorem normalizeService_again (h : normalizeService declared name (.dict d) = .ok out)
    (hmodes : ReadsModes d) : normalizeService declared name (.dict out) = .ok out := by
  unfold normalizeService at h ⊢
  split at h
  case isFalse => exact absurd h (bad_ne_ok _ _ _ _ _)
  case isTrue hsafe =>
    rw [if_pos hsafe]
    obtain ⟨ports, hports, h⟩ := bind_ok_iff.mp h
    obtain ⟨volumes, hvolumes, h⟩ := bind_ok_iff.mp h
    obtain ⟨_, hcheck, h⟩ := bind_ok_iff.mp h
    obtain ⟨-, -, hframe⟩ := setNetworks_ok h
    -- the ports are read back whatever they are, the mounts where their modes are
    have hsame : volumes.map (List.map reread) = volumes := by
      cases volumes with
      | none => rfl
      | some mounts =>
        unfold ReadsModes at hmodes
        rw [(normalizeEntries_declared hvolumes).1] at hmodes
        refine congrArg some ((List.map_congr_left fun m hm => ?_).trans (List.map_id _))
        exact reread_eq_iff.mpr (hmodes m hm)
    have hports' := @normalizeEntries_again name d out _ _ _ _ Port.toYaml id
      (fun _ _ hp => normalizePort_again hp) hports (by
        rw [hframe _ (by decide), get?_setEntries_ne _ _ _ (by decide)])
    have hvolumes' := @normalizeEntries_again name d out _ _ _ _ VolumeMount.toYaml reread
      (fun _ _ hm => normalizeVolume_again hm) hvolumes (by
        rw [hframe _ (by decide)]
        unfold setEntries
        cases volumes with
        | none => exact get?_setEntries_ne _ _ _ (by decide)
        | some mounts => rw [Dict.get?_set_self, Dict.get?_set_self])
    have hp : EntriesHold out "ports" Port.toYaml ports :=
      ((entriesHold_set d _ _ _).setEntries_ne (by decide) _ _).setNetworks (by decide) h
    have hv : EntriesHold out "volumes" VolumeMount.toYaml volumes :=
      (entriesHold_set _ _ _ _).setNetworks (by decide) h
    rw [List.map_id_fun, Option.map_id, id_eq] at hports'
    rw [hsame] at hvolumes'
    dsimp only
    rw [hports', ok_bind, hvolumes', ok_bind, hcheck, ok_bind, hp.eq, hv.eq]
    exact setNetworks_again h

/-- **The normal form** has no mode that is not read back. -/
theorem readsModes_normalized (h : normalizeService declared name (.dict d) = .ok out) :
    ReadsModes out := by
  unfold normalizeService at h
  split at h
  case isFalse => exact absurd h (bad_ne_ok _ _ _ _ _)
  case isTrue =>
    obtain ⟨ports, -, h⟩ := bind_ok_iff.mp h
    obtain ⟨volumes, hvolumes, h⟩ := bind_ok_iff.mp h
    obtain ⟨_, -, h⟩ := bind_ok_iff.mp h
    obtain ⟨-, -, hframe⟩ := setNetworks_ok h
    have hget := hframe "volumes" (by decide)
    unfold ReadsModes declaredMounts
    rw [hget]
    rcases normalizeEntries_ok hvolumes with ⟨rfl, hd⟩ | ⟨items, mounts, rfl, -, -⟩
    · have hnone : Dict.get? (setEntries d "ports" Port.toYaml ports) "volumes" =
          Dict.get? d "volumes" := get?_setEntries_ne _ _ _ (by decide)
      rw [setEntries, hnone]
      rcases hd with hd | hd
      · rw [hd]
        exact fun m hm => absurd hm List.not_mem_nil
      · rw [hd]
        exact fun m hm => absurd hm List.not_mem_nil
    · rw [setEntries, Dict.get?_set_self]
      intro m hm mode hmode
      obtain ⟨entry, hentry, hm⟩ := List.mem_filterMap.mp hm
      obtain ⟨m', -, rfl⟩ := List.mem_map.mp hentry
      rw [declaredMount_toYaml] at hm
      cases hm
      simpa using (Option.filter_eq_some_iff.mp hmode).2

theorem key_normalizeService (h : normalizeService declared name (.dict d) = .ok out) {e : Yaml × Yaml}
    (he : e ∈ out) : (∃ e' ∈ d, e'.1 = e.1) ∨ allows managedServiceKeys e.1 = true := by
  have hset {service : Entries} {key : String} {value : Yaml} {e : Yaml × Yaml}
      (hkey : allows managedServiceKeys (.str key) = true)
      (he : e ∈ Dict.set service (.str key) value) :
      (∃ e' ∈ service, e'.1 = e.1) ∨ allows managedServiceKeys e.1 = true := by
    rcases Dict.mem_set he with hold | ⟨-, hnew | hsame⟩
    · exact .inl ⟨e, hold, rfl⟩
    · exact .inr (hnew ▸ hkey)
    · exact .inr ((Yaml.sameKey_str _ _).mp hsame ▸ hkey)
  have hentries {β : Type} {service : Entries} {key : String} {toYaml : β → Yaml}
      {entries : Option (List β)} {e : Yaml × Yaml}
      (hkey : allows managedServiceKeys (.str key) = true)
      (he : e ∈ setEntries service key toYaml entries) :
      (∃ e' ∈ service, e'.1 = e.1) ∨ allows managedServiceKeys e.1 = true := by
    cases entries with
    | none => exact .inl ⟨e, he, rfl⟩
    | some items => exact hset hkey he
  unfold normalizeService at h
  split at h
  case isFalse => exact absurd h (bad_ne_ok _ _ _ _ _)
  case isTrue =>
    obtain ⟨ports, -, h⟩ := bind_ok_iff.mp h
    obtain ⟨volumes, -, h⟩ := bind_ok_iff.mp h
    obtain ⟨_, -, h⟩ := bind_ok_iff.mp h
    -- networks, volumes and ports are set one after the other
    have hmounted : (∃ e' ∈ setEntries (setEntries d "ports" Port.toYaml ports) "volumes"
        VolumeMount.toYaml volumes, e'.1 = e.1) ∨ allows managedServiceKeys e.1 = true := by
      unfold setNetworks at h
      split at h
      · cases h
        exact .inl ⟨e, he, rfl⟩
      · cases h
        exact .inl ⟨e, he, rfl⟩
      · obtain ⟨names, -, rfl⟩ := map_ok_iff.mp h
        exact hset (by decide) he
    rcases hmounted with ⟨e₁, he₁, hfst₁⟩ | hmanaged
    · rw [← hfst₁]
      rcases hentries (by decide) he₁ with ⟨e₂, he₂, hfst₂⟩ | hmanaged
      · rw [← hfst₂]
        exact hentries (by decide) he₂
      · exact .inr hmanaged
    · exact .inr hmanaged

end Service

/-! ## The keys again -/

section Keys
variable {strict : Bool} {allowed : List String} {name : Yaml}

theorem validateTop_ok_iff {d : Entries} :
    validateTop strict d = .ok () ↔ ∀ e ∈ d, allows topKeys e.1 = true := by
  induction d with
  | nil => exact ⟨fun _ e he => absurd he List.not_mem_nil, fun _ => rfl⟩
  | cons e rest ih =>
    rw [validateTop, List.forall_mem_cons]
    by_cases hkey : allows topKeys e.1 = true
    · rw [if_pos hkey, ih, and_iff_right hkey]
    · rw [if_neg hkey]
      exact ⟨fun h => absurd h (bad_ne_ok _ _ _ _ _), fun h => absurd h.1 hkey⟩

theorem validateService_ok_iff {d : Entries} :
    validateService strict allowed name d = .ok () ↔
      ∀ e ∈ d, allows allowed e.1 = true ∨ allows managedServiceKeys e.1 = true := by
  induction d with
  | nil => exact ⟨fun _ e he => absurd he List.not_mem_nil, fun _ => rfl⟩
  | cons e rest ih =>
    rw [validateService, List.forall_mem_cons, ← Bool.or_eq_true]
    by_cases hkey : (allows allowed e.1 || allows managedServiceKeys e.1) = true
    · rw [if_pos hkey, ih, and_iff_right hkey]
    · rw [if_neg hkey]
      exact ⟨fun h => absurd h (bad_ne_ok _ _ _ _ _), fun h => absurd h.1 hkey⟩

theorem validateServices_ok_iff {services : Entries} :
    validateServices strict allowed services = .ok () ↔
      ∀ e ∈ services, ∀ d, e.2 = .dict d → validateService strict allowed e.1 d = .ok () := by
  induction services with
  | nil => exact ⟨fun _ e he => absurd he List.not_mem_nil, fun _ => rfl⟩
  | cons e rest ih =>
    obtain ⟨key, body⟩ := e
    rw [List.forall_mem_cons]
    cases body with
    | dict d =>
      rw [validateServices, bind_ok_iff]
      constructor
      · rintro ⟨_, hd, hrest⟩
        exact ⟨fun d' hd' => Yaml.dict.inj hd' ▸ hd, ih.mp hrest⟩
      · exact fun h => ⟨(), h.1 d rfl, ih.mpr h.2⟩
    | _ =>
      refine Iff.trans (Iff.trans ?_ ih) (and_iff_right fun d hd => by cases hd).symm
      rw [validateServices]
      exact fun _ _ heq => by cases heq

end Keys

/-! ## The whole compose again -/

section Compose
variable {c c' : Yaml} {strict : Bool} {extraKeys : Option String}

theorem serviceNames_again {raw : Entries} {named : List (String × Yaml)}
    (h : serviceNames raw = .ok named) {services : List (String × Entries)}
    (hnames : List.Forall₂ (fun s t => s.1 = t.1) named services) :
    serviceNames (services.map fun s => (.str s.1, .dict s.2)) =
      .ok (services.map fun s => (s.1, .dict s.2)) := by
  induction raw generalizing named services with
  | nil =>
    cases h
    cases hnames
    rfl
  | cons e rest ih =>
    obtain ⟨key, body⟩ := e
    cases key with
    | str name =>
      rw [serviceNames] at h
      split at h
      case isTrue => exact absurd h (bad_ne_ok _ _ _ _ _)
      case isFalse hname =>
        obtain ⟨named', hrest, rfl⟩ := map_ok_iff.mp h
        obtain ⟨t, services', hfst, hrest', rfl⟩ := List.forall₂_cons_left_iff.mp hnames
        have hname' : t.1 ≠ "" := by
          rw [← hfst]
          exact hname
        rw [List.map_cons, serviceNames, if_neg hname', ih hrest hrest']
        rfl
    | _ =>
      simp only [serviceNames] at h
      exact absurd h (bad_ne_ok _ _ _ _ _)

theorem normalizeServices_again {declared : List String} {services : List (String × Entries)}
    (h : ∀ s ∈ services, normalizeService declared s.1 (.dict s.2) = .ok s.2) :
    normalizeServices declared (services.map fun s => (s.1, .dict s.2)) = .ok services := by
  induction services with
  | nil => rfl
  | cons s rest ih =>
    rw [List.forall_mem_cons] at h
    rw [List.map_cons, normalizeServices, h.1, ok_bind, ih h.2, ok_bind]
    rfl

/-- **The keys of a normalized compose** are accepted. -/
theorem validateKeys_again {entries : Entries} {declared : List String}
    {named : List (String × Yaml)} {services : List (String × Entries)}
    (h : validateKeys entries strict extraKeys = .ok ())
    (hget : Dict.get? entries "services" = some (.dict (named.map fun s => (.str s.1, s.2))))
    (heach : List.Forall₂ (fun s t => s.1 = t.1 ∧ normalizeService declared s.1 s.2 = .ok t.2)
      named services) :
    validateKeys (Dict.set entries (.str "services") (servicesYaml services)) strict extraKeys =
      .ok () := by
  obtain ⟨_, htop, hservices⟩ := bind_ok_iff.mp h
  rw [hget] at hservices
  dsimp only at hservices
  refine bind_ok_iff.mpr ⟨(), validateTop_ok_iff.mpr fun e he => ?_, ?_⟩
  · rcases Dict.mem_set he with hold | ⟨-, hnew | hsame⟩
    · exact validateTop_ok_iff.mp htop e hold
    · rw [hnew]
      decide
    · rw [(Yaml.sameKey_str _ _).mp hsame]
      decide
  · rw [Dict.get?_set_self, servicesYaml]
    dsimp only
    rw [validateServices_ok_iff] at hservices ⊢
    clear hget h htop
    induction heach with
    | nil => exact fun e he => absurd he List.not_mem_nil
    | @cons s t named services hs _ ih =>
      rw [List.map_cons, List.forall_mem_cons] at hservices ⊢
      refine ⟨fun d hd => ?_, ih hservices.2⟩
      obtain rfl := Yaml.dict.inj hd
      obtain ⟨raw, hraw, -⟩ := normalizeService_ok hs.2
      have hkeys := validateService_ok_iff.mp (hservices.1 raw hraw)
      rw [hraw] at hs
      refine validateService_ok_iff.mpr fun e he => ?_
      -- a key of the service that it was, or one that the greffer sets
      rcases key_normalizeService hs.2 he with ⟨e', he', hfst⟩ | hmanaged
      · rw [← hfst]
        exact hkeys e' he'
      · exact .inr hmanaged

theorem normalizeService_each {declared : List String} {named : List (String × Yaml)}
    {services : List (String × Entries)}
    (heach : List.Forall₂ (fun s t => s.1 = t.1 ∧ normalizeService declared s.1 s.2 = .ok t.2)
      named services)
    (hmodes : ∀ s ∈ named, ∀ d, s.2 = .dict d → ReadsModes d) :
    ∀ t ∈ services, normalizeService declared t.1 (.dict t.2) = .ok t.2 := by
  induction heach with
  | nil => exact fun t ht => absurd ht List.not_mem_nil
  | @cons s t named services hs _ ih =>
    rw [List.forall_mem_cons] at hmodes ⊢
    obtain ⟨d, hd, -⟩ := normalizeService_ok hs.2
    refine ⟨?_, ih hmodes.2⟩
    rw [hd, hs.1] at hs
    exact normalizeService_again hs.2 (hmodes.1 d hd)

/-- No mount of the compose has a mode that is not read back. -/
def ModesRead (c : Yaml) : Prop := ∀ s ∈ authored c.entries, ReadsModes s.2

/-- **A normalized compose passes unchanged**, if the modes of its mounts are read back. -/
theorem normalizeCompose_again (h : normalizeCompose c strict extraKeys = .ok c')
    (hmodes : ModesRead c) : normalizeCompose c' strict extraKeys = .ok c' := by
  unfold normalizeCompose at h
  cases c with
  | dict entries =>
    obtain ⟨_, hkeys, h⟩ := bind_ok_iff.mp h
    obtain ⟨raw, hraw, h⟩ := bind_ok_iff.mp h
    obtain ⟨named, hnamed, h⟩ := bind_ok_iff.mp h
    obtain ⟨declared, hdeclared, h⟩ := bind_ok_iff.mp h
    obtain ⟨services, hservices, h⟩ := bind_ok_iff.mp h
    cases h
    have heach := normalizeServices_ok hservices
    have hnames : List.Forall₂ (fun s t => s.1 = t.1) named services := heach.imp fun _ _ hs => hs.1
    obtain ⟨hget, hne⟩ := requireServices_get hraw
    obtain rfl := serviceNames_ok hnamed
    -- the services are fixed points, and the rest of the compose is not touched
    have hfixed := normalizeService_each heach fun s hs d hd => by
      refine hmodes (s.1, d) ?_
      rw [authored, Yaml.entries, hget]
      exact List.mem_filterMap.mpr ⟨(.str s.1, s.2), List.mem_map.mpr ⟨s, hs, rfl⟩, by rw [hd]⟩
    have hrequire : requireServices (Dict.set entries (.str "services") (servicesYaml services)) =
        .ok (services.map fun s => (.str s.1, .dict s.2)) := by
      rw [requireServices, Dict.get?_set_self, servicesYaml]
      cases hnames with
      | nil => exact absurd rfl hne
      | cons => rfl
    have hdeclared' : declaredNetworks (Dict.set entries (.str "services")
        (servicesYaml services)) = .ok declared := by
      rw [← hdeclared]
      unfold declaredNetworks
      rw [Dict.get?_set_ne (by decide)]
    unfold normalizeCompose
    dsimp only
    rw [validateKeys_again hkeys hget heach, ok_bind, hrequire, ok_bind,
      serviceNames_again hnamed hnames, ok_bind, hdeclared', ok_bind,
      normalizeServices_again hfixed, ok_bind]
    exact congrArg (fun e => Except.ok (Yaml.dict e)) Dict.holds_set.set_eq
  | _ => exact absurd h (bad_ne_ok _ _ _ _ _)

theorem authored_normalized (entries : Entries) (services : List (String × Entries)) :
    authored (Dict.set entries (.str "services") (servicesYaml services)) = services := by
  rw [authored, Dict.get?_set_self, servicesYaml]
  dsimp only
  rw [List.filterMap_map]
  exact List.filterMap_some

theorem servicesYaml_inj {services services' : List (String × Entries)}
    (h : servicesYaml services = servicesYaml services') : services = services' := by
  have hmap := Yaml.dict.inj h
  refine List.map_injective_iff.mpr (fun s t hst => ?_) hmap
  obtain ⟨hname, hbody⟩ := Prod.mk.inj hst
  exact Prod.ext (Yaml.str.inj hname) (Yaml.dict.inj hbody)

/-- **A compose that passes unchanged** was normalized from one without any other mode. -/
theorem modesRead_of_again (h : normalizeCompose c strict extraKeys = .ok c')
    (hagain : normalizeCompose c' strict extraKeys = .ok c') : ModesRead c := by
  obtain ⟨entries, services, declared, rfl, rfl, -, heach, -⟩ := normalizeCompose_each h
  obtain ⟨entries', services', declared', hin, hout, -, hfixed, -⟩ := normalizeCompose_each hagain
  obtain rfl := Yaml.dict.inj hin
  have hsame : services = services' := by
    have hget := congrArg (Dict.get? · "services") (Yaml.dict.inj hout)
    rw [Dict.get?_set_self, Dict.get?_set_self] at hget
    exact servicesYaml_inj (Option.some.inj hget)
  subst hsame
  rw [authored_normalized, List.forall₂_same] at hfixed
  unfold ModesRead
  rw [Yaml.entries]
  clear h hagain hin hout
  generalize authored entries = raws at heach
  induction heach with
  | nil => exact fun s hs => absurd hs List.not_mem_nil
  | @cons raw s raws services hs _ ih =>
    rw [List.forall_mem_cons] at hfixed ⊢
    refine ⟨?_, ih hfixed.2⟩
    have hagain := hfixed.1.2
    -- the service declares past the pass what it declared before
    obtain ⟨_, hraw, hfirst⟩ := normalizeService_ok hs.2
    obtain rfl := Yaml.dict.inj hraw
    obtain ⟨_, hself, hsecond⟩ := normalizeService_ok hagain
    obtain rfl := Yaml.dict.inj hself
    have hmounts : declaredMounts raw.2 = declaredMounts s.2 :=
      Except.ok.inj (hfirst.mounts.symm.trans hsecond.mounts)
    unfold ReadsModes
    rw [hmounts]
    exact readsModes_normalized hagain

/-- **When the pass is idempotent.** -/
theorem normalize_again_iff (h : normalizeCompose c strict extraKeys = .ok c') :
    normalizeCompose c' strict extraKeys = .ok c' ↔ ModesRead c :=
  ⟨modesRead_of_again h, normalizeCompose_again h⟩

/-- A service that mounts a volume to read it. -/
theorem normalize_again_readonly : ∃ c', normalizeCompose (appMounting ["data:/d:ro"]) true none =
    .ok c' ∧ (normalizeCompose c' true none = .ok c' ↔ ModesRead (appMounting ["data:/d:ro"])) :=
  ⟨_, rfl, normalize_again_iff rfl⟩

/-- **A private label is lost**: the mode `z` is accepted, and gone the next time. -/
theorem normalize_again_relabelled : ∃ c', normalizeCompose (appMounting ["data:/d:z"]) true none =
    .ok c' ∧ normalizeCompose c' true none ≠ .ok c' := by
  refine ⟨_, rfl, fun hagain => ?_⟩
  have hmodes := modesRead_of_again (c := appMounting ["data:/d:z"]) rfl hagain
  exact absurd (hmodes _ List.mem_cons_self _ List.mem_cons_self "z" rfl) (by decide)

end Compose

end Greffer.Compose

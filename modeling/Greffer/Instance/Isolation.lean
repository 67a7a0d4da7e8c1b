import Mathlib
import Greffer.Backup.HotManifest
import Greffer.Compose.Reserved
import Greffer.Instance.Teardown
import Greffer.Metrics.DiskUsage

/-! # Whose volume is it

The docker volumes of an instance are named `<id>_<name>`, and whoever looks for them takes
the names that begin with `<id>_`: the listing and the removal of a decommission, the mounts
of a backup, the disk accounting.  An id may itself contain `_`, so **the encoding is not
prefix-free**: it tells two instances apart exactly when neither id begins with the other's
prefix (`instances_isolated`).  The instance `a` takes the volumes of `a_b` for its own, and
the two may even share one (`decommission_reaches_neighbour`).
-/
namespace Greffer.Instance
open Effects
open Backup (startsWith dataVolumes backupMounts hotBackupMounts volumeMount withL4Ports)
open Compose
open Metrics (instanceDisk instanceDisk_returns)

/-! ## The derived names -/

/-- **A docker volume of the instance**: a start that accepts some compose creates it, or
mounts it, where a colon in the name cuts the mapping short. -/
def Derives (id v : String) : Prop :=
  ∃ (greffonPath : String) (compose : Yaml) (greffon : Greffon) (strict : Bool)
    (extraKeys : Option String) (info : GreffonInfo) (normalized : Entries),
    compose.WellFormed ∧ greffon.id = id ∧
      createGreffonInfo greffonPath compose greffon strict extraKeys = .ok (info, normalized) ∧
      ∃ e ∈ info.volumes, v = e.2.value ∨ v = sourceOf e.2.value

/-- **Nothing of the instance's selects the volume**, whatever the daemon answers. -/
structure LeavesAlone (id v : String) : Prop where
  /-- `list_instance_volumes` does not list it, -/
  listed : (listInstanceVolumes id).Returns fun r => ∀ names, r = .ok names → v ∉ names
  /-- `remove_instance_volumes` does not remove it, -/
  removed : (removeInstanceVolumes id).Uses (· ≠ .handler (.volumeRm v))
  /-- a cold backup does not mount it, -/
  cold : ∀ settings, (backupMounts settings id).Returns fun r =>
    ∀ mounts, r = .ok mounts → volumeMount v ∉ mounts
  /-- nor a hot one, -/
  hot : ∀ settings classes, (hotBackupMounts settings id classes).Returns fun r =>
    ∀ mounts, r = .ok mounts → volumeMount v ∉ mounts
  /-- and it is not accounted for. -/
  accounted : (instanceDisk id).Returns fun r =>
    ∀ body, r = .ok (some body) → v ∉ body.volumes.map (·.name)

/-- **Isolation**: no volume of the second instance is selected by the first, and the two
never derive one name. -/
structure Isolated (a b : String) : Prop where
  unselected : ∀ v, Derives b v → LeavesAlone a v
  distinct : ∀ v, Derives b v → ¬ Derives a v

/-- The second id begins with the volume prefix of the first. -/
def Nested (a b : String) : Prop := startsWith b (volumePrefix a) = true

instance (a b : String) : Decidable (Nested a b) := inferInstanceAs (Decidable (_ = true))

/-! ## The prefix -/

theorem startsWith_iff {s pre : String} : startsWith s pre = true ↔ pre.toList <+: s.toList := by
  unfold startsWith
  exact List.isPrefixOf_iff_prefix

theorem startsWith_append (pre t : String) : startsWith (pre ++ t) pre = true := by
  rw [startsWith_iff, String.toList_append]
  exact List.prefix_append _ _

/-- A name under two prefixes nests one id in the other. -/
theorem nested_of_shared {a b v : String} (ha : startsWith v (volumePrefix a) = true)
    (hb : startsWith v (volumePrefix b) = true) : a = b ∨ Nested a b ∨ Nested b a := by
  -- the id of the shorter prefix is the other's, or the shorter prefix fits within the other's id
  have hcut : ∀ {a b : String}, (volumePrefix a).toList <+: (volumePrefix b).toList →
      a = b ∨ Nested a b := by
    intro a b h
    rw [volumePrefix, volumePrefix, String.toList_append, String.toList_append,
      show "_".toList = ['_'] from rfl, List.prefix_concat_iff] at h
    rcases h with h | h
    · exact .inl (String.toList_inj.mp (List.append_cancel_right h))
    · refine .inr (startsWith_iff.mpr ?_)
      rw [volumePrefix, String.toList_append]
      exact h
  rw [startsWith_iff] at ha hb
  rcases List.prefix_or_prefix_of_prefix ha hb with h | h
  · exact (hcut h).imp_right .inl
  · exact (hcut h).imp Eq.symm .inr

/-- A text that does not begin with a blank begins with its stripped form. -/
theorem startsWith_strip {c : Char} {cs : List Char} (h : c.isWhitespace = false) :
    PyValue.strip (c :: cs) <+: c :: cs := by
  rw [PyValue.strip, List.dropWhile_cons_of_neg (by simp [h])]
  conv_rhs => rw [← List.reverse_reverse (c :: cs)]
  exact List.reverse_prefix.mpr (List.dropWhile_suffix _)

theorem acceptedId_head {id : String} (h : acceptedId id = true) :
    ∃ c cs, id.toList = c :: cs ∧ c.isWhitespace = false := by
  rw [acceptedId, Bool.and_eq_true, Bool.and_eq_true, List.all_eq_true] at h
  obtain ⟨⟨hne, -⟩, hall⟩ := h
  cases hid : id.toList with
  | nil =>
    rw [String.toList_eq_nil_iff.mp hid] at hne
    exact absurd hne (by decide)
  | cons c cs =>
    refine ⟨c, cs, rfl, ?_⟩
    have hc := hall c (hid ▸ List.mem_cons_self)
    refine Bool.eq_false_iff.mpr fun hblank => ?_
    simp only [Char.isWhitespace, Bool.or_eq_true, decide_eq_true_eq] at hblank
    rcases hblank with ((rfl | rfl) | rfl) | rfl <;> revert hc <;> decide

/-- What is listed under a prefix has it. -/
theorem startsWith_of_strip {a b t : String} (hb : acceptedId b = true)
    (h : startsWith (strip (volumePrefix b ++ t)) (volumePrefix a) = true) :
    startsWith (volumePrefix b ++ t) (volumePrefix a) = true := by
  obtain ⟨c, cs, hcs, hblank⟩ := acceptedId_head hb
  have hlist : (volumePrefix b ++ t).toList = c :: (cs ++ "_".toList ++ t.toList) := by
    rw [volumePrefix, String.toList_append, String.toList_append, hcs]
    rfl
  rw [startsWith_iff, strip, String.toList_ofList, hlist] at h
  rw [startsWith_iff, hlist]
  exact h.trans (startsWith_strip hblank)

/-! ## What is selected -/

theorem removeVolumes_uses {v : String} {names : List String} (h : v ∉ names) :
    (removeVolumes names).Uses (· ≠ .handler (.volumeRm v)) := by
  induction names with
  | nil => exact Action.uses_pure _
  | cons name rest ih =>
    rw [List.mem_cons, not_or] at h
    refine Action.Uses.bind (Action.uses_perform fun heq => h.1 ?_) fun _ => ih h.2
    cases heq
    rfl

theorem listInstanceVolumes_uses (id v : String) :
    (listInstanceVolumes id).Uses (· ≠ .handler (.volumeRm v)) := by
  unfold listInstanceVolumes
  refine Action.Uses.bind (Action.uses_perform fun heq => (by cases heq)) fun res => ?_
  dsimp only
  split
  · exact (Action.uses_raise _).bind fun _ => Action.uses_pure _
  · exact Action.uses_pure _

theorem dataVolumes_returns (id : String) : (dataVolumes id).Returns fun r =>
    ∀ vols, r = .ok vols → ∀ v ∈ vols, startsWith v (volumePrefix id) = true := by
  refine Action.Returns.thenAny (fun _ _ h => (by cases h)) fun vols names hnames v hv => ?_
  cases hnames
  rw [List.mem_insertionSort, List.mem_filter, Bool.and_eq_true] at hv
  exact hv.2.1

theorem withL4Ports_returns {settings : Backup.Settings} {id v : String}
    {mounts : List Backup.Mount} (h : volumeMount v ∉ mounts) :
    (withL4Ports settings id mounts).Returns fun r =>
      ∀ mounts', r = .ok mounts' → volumeMount v ∉ mounts' := by
  refine Action.Returns.thenAny (fun _ _ h => (by cases h)) fun found => ?_
  split
  · rintro mounts' hmounts hv
    cases hmounts
    rcases List.mem_append.mp hv with hv | hv
    · exact h hv
    · exact Backup.volumeMount_ne_l4Ports _ _ _ (List.mem_singleton.mp hv)
  · rintro mounts' hmounts
    cases hmounts
    exact h

theorem mem_volumeMounts {v : String} {vols : List String} (h : volumeMount v ∈ vols.map volumeMount) :
    v ∈ vols := by
  obtain ⟨u, hu, heq⟩ := List.mem_map.mp h
  obtain rfl : u = v := (Prod.mk.inj heq).1
  exact hu

/-- **A name without the instance's prefix is left alone.** -/
theorem leavesAlone {id v : String} (hlisted : startsWith (strip v) (volumePrefix id) ≠ true)
    (hpre : startsWith v (volumePrefix id) ≠ true) : LeavesAlone id v where
  listed := (listInstanceVolumes_returns id).mono fun _ h names hnames hv => hlisted (h names hnames v hv)
  removed := by
    refine (listInstanceVolumes_uses id v).then (listInstanceVolumes_returns id) fun names h => ?_
    refine Action.Uses.bind (removeVolumes_uses fun hv => hlisted (h v hv)) fun _ => ?_
    exact Action.uses_pure _
  cold settings := by
    refine Action.Returns.then (dataVolumes_returns id) (fun _ _ h => (by cases h)) fun vols h => ?_
    exact withL4Ports_returns fun hv => hpre (h v (mem_volumeMounts hv))
  hot settings classes := by
    refine Action.Returns.then (dataVolumes_returns id) (fun _ _ h => (by cases h)) fun vols h => ?_
    cases hms : Backup.hotMounts id classes vols with
    | error e => exact fun _ h => (by cases h)
    | ok ms =>
      have hfree : volumeMount v ∉ ms := by
        intro hv
        obtain ⟨u, hu, -, heq⟩ := ((Backup.hotMounts_ok hms).2 _).mp hv
        obtain rfl : v = u := (Prod.mk.inj heq).1
        exact hpre (h v hu)
      show Action.Returns _ (if ms.isEmpty then pure ms else withL4Ports settings id ms)
      split
      · rintro mounts hmounts
        cases hmounts
        exact hfree
      · exact withL4Ports_returns hfree
  accounted := by
    refine (instanceDisk_returns id).mono fun r h body hbody hv => hpre ?_
    obtain ⟨volume, hvolume, rfl⟩ := List.mem_map.mp hv
    exact startsWith_iff.mpr (String.startsWith_string_iff.mp (h body hbody volume hvolume))

/-! ## What is derived -/

theorem Derives.prefixed {id v : String} (hid : acceptedId id = true) (h : Derives id v) :
    ∃ t, v = volumePrefix id ++ t := by
  obtain ⟨path, compose, greffon, strict, extraKeys, info, normalized, hloaded, rfl, hinfo, e, he, hv⟩ := h
  obtain ⟨rebuilt, services, -, hrebuilt⟩ := createComposeTemplate_ok hloaded hinfo "0.0.0.0"
  obtain ⟨t, ht⟩ := hrebuilt.collected.volumesOf.prefixed e he
  rcases hv with rfl | rfl
  · exact ⟨t, ht⟩
  · exact ⟨sourceOf t, by rw [ht, sourceOf_prefixed hid]; rfl⟩

/-- A compose of one service that declares a volume. -/
def appDeclaring (name : String) : Yaml :=
  .dict [(.str "services", .dict [(.str "app", .dict [(.str "image", .str "x")])]),
    (.str "volumes", .dict [(.str name, .null)])]

theorem appDeclaring_wellFormed (name : String) : (appDeclaring name).WellFormed := by
  simp [appDeclaring, Yaml.WellFormed, Yaml.WellFormedValues, Yaml.Distinct, Yaml.sameKey,
    Yaml.number?]

theorem appDeclaring_accepted (id name : String) : ∃ info normalized,
    createGreffonInfo "/data" (appDeclaring name) (plainGreffon id) true none =
      .ok (info, normalized) := ⟨_, _, rfl⟩

/-- **Every name is derived** by some compose. -/
theorem derives_declared (id name : String) : Derives id (volumePrefix id ++ name) := by
  obtain ⟨info, normalized, hinfo⟩ := appDeclaring_accepted id name
  refine ⟨_, _, _, _, _, info, normalized, appDeclaring_wellFormed name, rfl, hinfo, ?_⟩
  obtain ⟨rebuilt, services, -, hrebuilt⟩ :=
    createComposeTemplate_ok (appDeclaring_wellFormed name) hinfo "0.0.0.0"
  obtain ⟨volumes, hinitial, hvolumes⟩ := hrebuilt.collected.initial
  have hget : Dict.get? info.volumes name = some (unmounted id name) := by
    rw [hvolumes, show declaredAll (authored (appDeclaring name).entries) = [] from rfl,
      List.foldl_nil, hinitial.get]
    exact if_pos List.mem_cons_self
  exact ⟨_, Dict.mem_of_get? hget, .inl rfl⟩

/-- The two ids of a nesting derive one name. -/
theorem Nested.shared {a b : String} (h : Nested a b) : ∃ v, Derives a v ∧ Derives b v := by
  obtain ⟨r, hr⟩ := startsWith_iff.mp h
  have hb : b = volumePrefix a ++ String.ofList r := by
    rw [← String.toList_inj, String.toList_append, String.toList_ofList, hr]
  refine ⟨volumePrefix b ++ "data", ?_, derives_declared b "data"⟩
  have hsplit : volumePrefix b ++ "data" = volumePrefix a ++ (String.ofList r ++ "_" ++ "data") := by
    rw [volumePrefix, hb, String.append_assoc, String.append_assoc, String.append_assoc]
  rw [hsplit]
  exact derives_declared a _

/-- **Two instances are isolated exactly when neither id begins with the volume prefix of
the other**: then nothing of the one selects a volume of the other and they share none, for
all composes and whatever the daemon answers; otherwise two composes give them one volume. -/
theorem instances_isolated {a b : String} (ha : acceptedId a = true) (hb : acceptedId b = true)
    (hne : a ≠ b) : Isolated a b ↔ ¬ Nested a b ∧ ¬ Nested b a := by
  constructor
  · intro h
    constructor
    · intro hnested
      obtain ⟨v, hva, hvb⟩ := hnested.shared
      exact h.distinct v hvb hva
    · intro hnested
      obtain ⟨v, hvb, hva⟩ := hnested.shared
      exact h.distinct v hvb hva
  · rintro ⟨hab, hba⟩
    have hapart : ∀ t, startsWith (volumePrefix b ++ t) (volumePrefix a) ≠ true := by
      intro t ht
      rcases nested_of_shared ht (startsWith_append _ t) with heq | hnested | hnested
      · exact hne heq
      · exact hab hnested
      · exact hba hnested
    constructor
    · intro v hv
      obtain ⟨t, rfl⟩ := hv.prefixed hb
      exact leavesAlone (fun h => hapart t (startsWith_of_strip hb h)) (hapart t)
    · intro v hvb hva
      obtain ⟨t, rfl⟩ := hvb.prefixed hb
      obtain ⟨t', ht'⟩ := hva.prefixed ha
      exact hapart t (ht' ▸ startsWith_append _ t')

/-- The ids of two ordinary instances. -/
theorem instances_isolated_plain : acceptedId "a" = true ∧ acceptedId "b" = true ∧
    Isolated "a" "b" :=
  ⟨by decide, by decide,
    (instances_isolated (by decide) (by decide) (by decide)).mpr ⟨by decide, by decide⟩⟩

/-- **The neighbour's volume**: `a` and `a_b` are both accepted, `a_b` derives `a_b_data`,
and the decommission of `a` lists it and removes it. -/
theorem decommission_reaches_neighbour : acceptedId "a" = true ∧ acceptedId "a_b" = true ∧
    Derives "a_b" "a_b_data" ∧ Derives "a" "a_b_data" ∧ ¬ LeavesAlone "a" "a_b_data" ∧
    ¬ Isolated "a" "a_b" := by
  have hneighbour : Derives "a_b" "a_b_data" := derives_declared "a_b" "data"
  have hown : Derives "a" "a_b_data" := derives_declared "a" "b_data"
  refine ⟨by decide, by decide, hneighbour, hown, ?_, fun h => h.distinct _ hneighbour hown⟩
  intro h
  exact h.listed (.ok ⟨0, ["a_b_data"], ""⟩) _ rfl List.mem_cons_self

end Greffer.Instance

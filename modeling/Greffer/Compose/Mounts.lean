import Mathlib.Data.List.Dedup
import Mathlib.Data.List.Perm.Basic
import Mathlib.Data.List.TakeWhile
import Greffer.Compose.InPlace
import Greffer.Compose.Reserved

/-! # Every mount is kept

A start takes the mounts off every service and puts back what its info holds, grouped by
source: one entry for each source, one mount point in it for each service, the last that it
declares.  A mapping that several names share gets what the info holds for all of them.  So
the mounts of the rebuilt compose are those that the author declares, each source with the
instance's name in front, if and only if (`MountsKept`)

* a service mounts one source in one way, as often as there are names that share its mapping:
  once, where no two services are one mapping;
* no source and no target has a colon, which the long form accepts and the rebuilt short
  form reads as a separator;
* no service mounts the sidecar's key, unless the compose declares it;
* the modes of a mapping that is normalized again are read back.

`points_addAll` says which mount points the collection leaves, and `Kept.got` what each mapping
of the rebuilt compose has of them.
-/
namespace Greffer.Compose

/-! ## The last of each kind -/

section Lasts
variable {α β : Type} [DecidableEq β] (kind : α → β) (items : List α)

/-- The last item of a kind. -/
def lastOf (b : β) : Option α := (items.filter fun x => kind x = b).getLast?

/-- The last item of each kind. -/
def lasts : List α := (items.map kind).dedup.filterMap (lastOf kind items)

variable {kind items}

theorem of_lastOf {b : β} {x : α} (h : lastOf kind items b = some x) : x ∈ items ∧ kind x = b := by
  obtain ⟨hmem, hkind⟩ := List.mem_filter.mp (List.mem_of_getLast? h)
  exact ⟨hmem, of_decide_eq_true hkind⟩

theorem mem_lasts {x : α} : x ∈ lasts kind items ↔ lastOf kind items (kind x) = some x := by
  rw [lasts, List.mem_filterMap]
  constructor
  · rintro ⟨b, -, h⟩
    rwa [(of_lastOf h).2]
  · intro h
    exact ⟨kind x, List.mem_dedup.mpr (List.mem_map_of_mem (of_lastOf h).1), h⟩

theorem nodup_lasts : (lasts kind items).Nodup := by
  refine List.Nodup.filterMap (fun b b' x h h' => ?_) (List.nodup_dedup _)
  rw [← (of_lastOf h).2, ← (of_lastOf h').2]

theorem lasts_inj {x y : α} (hx : x ∈ lasts kind items) (hy : y ∈ lasts kind items)
    (h : kind x = kind y) : x = y := by
  rw [mem_lasts] at hx hy
  rw [h, hy] at hx
  exact (Option.some.inj hx).symm

theorem exists_lastOf {x : α} (h : x ∈ items) : ∃ y, lastOf kind items (kind x) = some y := by
  have hne : items.filter (fun y => kind y = kind x) ≠ [] :=
    List.ne_nil_of_mem (List.mem_filter.mpr ⟨h, decide_eq_true rfl⟩)
  exact ⟨_, List.getLast?_eq_some_getLast hne⟩

theorem lastOf_cons (x : α) (b : β) :
    lastOf kind (x :: items) b = (lastOf kind items b).or (if kind x = b then some x else none) := by
  unfold lastOf
  by_cases h : kind x = b
  · rw [List.filter_cons_of_pos (by simpa using h), if_pos h, ← List.singleton_append,
      List.getLast?_append]
    rfl
  · rw [List.filter_cons_of_neg (by simpa using h), if_neg h, Option.or_none]

/-- **So many copies of the last of each kind** are the items if and only if the items of one kind
are so many copies of one. -/
theorem perm_copies_iff [DecidableEq α] {k : Nat} :
    items.Perm (List.replicate k (lasts kind items)).flatten ↔
      ∀ x ∈ items, (items.filter fun y => kind y = kind x) = List.replicate k x := by
  have hcount : ∀ x, (List.replicate k (lasts kind items)).flatten.count x =
      k * (lasts kind items).count x := by
    intro x
    rw [List.count_flatten, List.map_replicate, List.sum_replicate_nat]
  constructor
  · intro h x hx
    have hlast : ∀ y ∈ items, y ∈ lasts kind items := by
      intro y hy
      obtain ⟨l, hl, hmem⟩ := List.mem_flatten.mp (h.subset hy)
      rwa [List.eq_of_mem_replicate hl] at hmem
    have hsame : ∀ y ∈ items, kind y = kind x → y = x := fun y hy =>
      lasts_inj (hlast y hy) (hlast x hx)
    have hfilter : (items.filter fun y => kind y = kind x) = items.filter (· == x) := by
      refine List.filter_congr fun y hy => ?_
      by_cases hyx : y = x
      · simp [hyx]
      · have hkind : ¬ kind y = kind x := fun heq => hyx (hsame y hy heq)
        simp [hyx, hkind]
    rw [hfilter, List.filter_beq, h.count_eq, hcount,
      List.count_eq_one_of_mem nodup_lasts (hlast x hx), Nat.mul_one]
  · intro h
    refine List.perm_iff_count.mpr fun x => ?_
    rw [hcount]
    by_cases hx : x ∈ items
    · have hlast : x ∈ lasts kind items := by
        obtain ⟨y, hy⟩ : ∃ y, lastOf kind items (kind x) = some y := exists_lastOf hx
        have hmem := List.mem_of_getLast? hy
        rw [h x hx] at hmem
        rw [mem_lasts, hy, List.eq_of_mem_replicate hmem]
      have hall : items.count x = (items.filter fun y => kind y = kind x).count x := by
        rw [List.count_filter (by simp)]
      rw [hall, h x hx, List.count_replicate_self, List.count_eq_one_of_mem nodup_lasts hlast,
        Nat.mul_one]
    · have hlast : x ∉ lasts kind items := fun hmem => hx (of_lastOf (mem_lasts.mp hmem)).1
      rw [List.count_eq_zero_of_not_mem hx, List.count_eq_zero_of_not_mem hlast, Nat.mul_zero]

end Lasts

/-! ## The short form -/

/-- No part of the short form has a colon. -/
theorem declaredMount_str {t : String} {m : VolumeMount} (h : declaredMount (.str t) = some m) :
    ':' ∉ m.source.toList ∧ ':' ∉ m.target.toList := by
  have hpart : ∀ p ∈ split ':' t, ':' ∉ p.toList := by
    intro p hp
    obtain ⟨part, hpart, rfl⟩ := List.mem_map.mp hp
    rw [String.toList_ofList]
    exact not_mem_of_mem_splitOn hpart
  simp only [declaredMount] at h
  split at h
  · rename_i hsplit
    cases h
    rw [hsplit] at hpart
    exact ⟨hpart _ (by simp), hpart _ (by simp)⟩
  · rename_i hsplit
    cases h
    rw [hsplit] at hpart
    exact ⟨hpart _ (by simp), hpart _ (by simp)⟩
  · cases h

theorem head?_splitOn (sep : Char) (l : List Char) :
    (splitOn sep l).head? = some (l.takeWhile (· != sep)) := by
  induction l with
  | nil => rfl
  | cons c rest ih =>
    rw [splitOn, List.takeWhile_cons]
    by_cases hc : c = sep
    · simp [hc]
    · rw [if_neg hc, if_pos (bne_iff_ne.mpr hc)]
      split
      · rename_i hnil
        rw [hnil] at ih
        cases ih
      · rename_i hcons
        rw [hcons] at ih
        rw [List.head?_cons, ← Option.some.inj ih]

theorem sourceOf_of_plain {t : String} (h : ':' ∉ t.toList) : sourceOf t = t := by
  have hall : ∀ c ∈ t.toList, (c != ':') = true := fun c hc =>
    bne_iff_ne.mpr fun heq => h (heq ▸ hc)
  rw [sourceOf_eq, List.takeWhile_eq_self_iff.mpr hall, String.ofList_toList]

theorem declaredMount_source {t : String} {m : VolumeMount} (h : declaredMount (.str t) = some m) :
    m.source = sourceOf t := by
  have hhead : (split ':' t).head? = some (sourceOf t) := by
    rw [split, List.head?_map, head?_splitOn, sourceOf_eq]
    rfl
  simp only [declaredMount] at h
  split at h
  · rename_i hsplit
    cases h
    rw [hsplit] at hhead
    exact Option.some.inj hhead
  · rename_i hsplit
    cases h
    rw [hsplit] at hhead
    exact Option.some.inj hhead
  · cases h

/-- **A mapping without stray colons reads back.** -/
theorem declaredMount_mapping {value : String} {p : MountPoint} (hvalue : ':' ∉ value.toList)
    (hpath : ':' ∉ p.path.toList) (hmode : ∀ m, p.mode = some m → m ∈ mountModes) :
    declaredMount (.str (mapping value p)) = some ⟨value, p.path, p.mode⟩ := by
  obtain ⟨path, mode⟩ := p
  cases mode with
  | none =>
    have hsplit : split ':' (mapping value ⟨path, none⟩) = [value, path] := by
      rw [split, mapping, String.toList_append, String.toList_append, List.append_assoc,
        show ":".toList = [':'] from rfl, List.singleton_append, splitOn_append hvalue,
        splitOn_of_not_mem hpath]
      simp
    simp only [declaredMount, hsplit]
  | some mode =>
    have hknown := hmode mode rfl
    have hne : mode ≠ "" := by
      rintro rfl
      exact absurd hknown (by decide)
    have hcolon : ':' ∉ mode.toList := by
      have hall : ∀ m ∈ mountModes, ':' ∉ m.toList := by decide
      exact hall mode hknown
    have hsplit : split ':' (mapping value ⟨path, some mode⟩) = [value, path, mode] := by
      rw [split, mapping]
      simp only [if_neg hne]
      rw [String.toList_append, String.toList_append, String.toList_append, String.toList_append,
        List.append_assoc, List.append_assoc, List.append_assoc, show ":".toList = [':'] from rfl,
        List.singleton_append, splitOn_append hvalue, List.singleton_append, splitOn_append hpath,
        splitOn_of_not_mem hcolon]
      simp
    simp only [declaredMount, hsplit]

/-! ## Mount points -/

/-- What a mount is filed under. -/
def filing (mount : String × VolumeMount) : String × String := (mount.1, mount.2.source)

/-- Every mount point of the volumes: its source and its service, its docker volume, and where. -/
def points (volumes : Dict VolumeInfo) : List (Yaml × String × String × MountPoint) :=
  volumes.flatMap fun v => v.2.containers.map fun c => (v.1, c.1, v.2.value, c.2)

/-- Where a service mounts a source. -/
def mountedAt (volumes : Dict VolumeInfo) (name source : String) : Option MountPoint :=
  (Dict.get? volumes source).bind fun v => v.containers.lookup name

/-- The mount point of a mount. -/
def pointOf (id : String) (volumes : Dict VolumeInfo) (mount : String × VolumeMount) :
    Yaml × String × String × MountPoint :=
  (.str mount.2.source, mount.1, valueOf id volumes mount.2.source, ⟨mount.2.target, mount.2.mode⟩)

theorem mountedAt_addMount (id : String) (volumes : Dict VolumeInfo) (mount : String × VolumeMount)
    (name source : String) :
    mountedAt (addMount id volumes mount) name source =
      if filing mount = (name, source) then some ⟨mount.2.target, mount.2.mode⟩
      else mountedAt volumes name source := by
  unfold mountedAt
  rw [get?_addMount]
  by_cases hsource : mount.2.source = source
  · rw [if_pos hsource, Option.bind_some, VolumeInfo.mounted]
    by_cases hname : mount.1 = name
    · have hfiling : filing mount = (name, source) := Prod.ext hname hsource
      rw [if_pos hfiling, ← hname]
      exact lookup_upsert_self _ _ _
    · have hfiling : ¬ filing mount = (name, source) := fun h => hname (Prod.mk.inj h).1
      rw [if_neg hfiling]
      refine (lookup_upsert_ne _ _ (Ne.symm hname)).trans ?_
      cases Dict.get? volumes source <;> rfl
  · have hfiling : ¬ filing mount = (name, source) := fun h => hsource (Prod.mk.inj h).2
    rw [if_neg hsource, if_neg hfiling]

/-- **Of all mounts of a source by a service**, the last one's place is kept. -/
theorem mountedAt_addAll (id : String) (mounts : List (String × VolumeMount))
    (volumes : Dict VolumeInfo) (name source : String) :
    mountedAt (mounts.foldl (addMount id) volumes) name source =
      ((lastOf filing mounts (name, source)).map fun m => ⟨m.2.target, m.2.mode⟩).or
        (mountedAt volumes name source) := by
  induction mounts generalizing volumes with
  | nil => rfl
  | cons mount rest ih =>
    rw [List.foldl_cons, ih, mountedAt_addMount, lastOf_cons]
    cases lastOf filing rest (name, source) with
    | some m => rfl
    | none =>
      by_cases h : filing mount = (name, source)
      · simp [h]
      · simp [h]

/-- Volumes in which each service has one place for each source. -/
structure PlacedOf (id : String) (volumes : Dict VolumeInfo) : Prop extends VolumesOf id volumes where
  once : ∀ e ∈ volumes, (e.2.containers.map Prod.fst).Nodup

theorem PlacedOf.addMount {id : String} {volumes : Dict VolumeInfo} (h : PlacedOf id volumes)
    (mount : String × VolumeMount) : PlacedOf id (Compose.addMount id volumes mount) := by
  refine ⟨h.toVolumesOf.mounts [mount], fun e he => ?_⟩
  rw [addMount_eq] at he
  rcases Dict.mem_set he with hold | ⟨hnew, -⟩
  · exact h.once e hold
  · rw [hnew, VolumeInfo.mounted]
    apply nodup_upsert
    cases hget : Dict.get? volumes mount.2.source with
    | none => exact List.nodup_nil
    | some v => exact h.once _ (Dict.mem_of_get? hget)

theorem PlacedOf.addAll {id : String} (mounts : List (String × VolumeMount))
    {volumes : Dict VolumeInfo} (h : PlacedOf id volumes) :
    PlacedOf id (mounts.foldl (Compose.addMount id) volumes) := by
  induction mounts generalizing volumes with
  | nil => exact h
  | cons mount rest ih => exact ih (h.addMount mount)

theorem PlacedOf.mem_points {id : String} {volumes : Dict VolumeInfo} (h : PlacedOf id volumes)
    {p : Yaml × String × String × MountPoint} :
    p ∈ points volumes ↔ ∃ source, p.1 = .str source ∧ p.2.2.1 = valueOf id volumes source ∧
      mountedAt volumes p.2.1 source = some p.2.2.2 := by
  obtain ⟨key, name, value, point⟩ := p
  rw [points, List.mem_flatMap]
  constructor
  · rintro ⟨e, he, hp⟩
    obtain ⟨c, hc, heq⟩ := List.mem_map.mp hp
    cases heq
    obtain ⟨source, hsource⟩ : ∃ s, e.1 = .str s := by
      by_contra hnone
      rw [h.plain e he fun s hs => hnone ⟨s, hs⟩] at hc
      cases hc
    have hget : Dict.get? volumes source = some e.2 :=
      h.distinct.get?_of_mem (by rwa [← hsource])
    refine ⟨source, hsource, ?_, ?_⟩
    · rw [valueOf, hget]
      rfl
    · rw [mountedAt, hget, Option.bind_some]
      exact lookup_entry (h.once e he) hc
  · rintro ⟨source, rfl, rfl, hpoint⟩
    obtain ⟨v, hv, hlookup⟩ := Option.bind_eq_some_iff.mp hpoint
    refine ⟨(.str source, v), Dict.mem_of_get? hv, ?_⟩
    rw [valueOf, hv]
    exact List.mem_map_of_mem (mem_of_lookup hlookup)

theorem PlacedOf.nodup_points {id : String} {volumes : Dict VolumeInfo} (h : PlacedOf id volumes) :
    (points volumes).Nodup := by
  refine List.nodup_flatMap.mpr ⟨fun e he => ?_, ?_⟩
  · refine List.Nodup.of_map (fun p => p.2.1) ?_
    rw [List.map_map]
    exact h.once e he
  · refine h.distinct.imp_of_mem fun {a b} ha _ hab p hpa hpb => ?_
    obtain ⟨c, hc, rfl⟩ := List.mem_map.mp hpa
    obtain ⟨c', -, heq⟩ := List.mem_map.mp hpb
    have hkey : b.1 = a.1 := (Prod.mk.inj heq).1
    by_cases htext : ∃ s, a.1 = .str s
    · obtain ⟨s, hs⟩ := htext
      rw [hkey, hs, (Yaml.sameKey_str _ _).mpr rfl] at hab
      cases hab
    · rw [h.plain a ha fun s hs => htext ⟨s, hs⟩] at hc
      cases hc

/-- **What the collection leaves**: the mount points that were there, and that of the last mount of
each source by each service. -/
theorem PlacedOf.points_addAll {id : String} {volumes : Dict VolumeInfo} (h : PlacedOf id volumes)
    {mounts : List (String × VolumeMount)}
    (hnew : ∀ mount ∈ mounts, mountedAt volumes mount.1 mount.2.source = none) :
    (points (mounts.foldl (Compose.addMount id) volumes)).Perm
      (points volumes ++ (lasts filing mounts).map (pointOf id volumes)) := by
  have hvalue : ∀ source, valueOf id (mounts.foldl (Compose.addMount id) volumes) source =
      valueOf id volumes source := by
    intro source
    clear hnew h
    induction mounts generalizing volumes with
    | nil => rfl
    | cons mount rest ih => rw [List.foldl_cons, ih, valueOf_addMount]
  refine (List.perm_ext_iff_of_nodup (h.addAll mounts).nodup_points ?_).mpr fun p => ?_
  · refine List.Nodup.append h.nodup_points ?_ fun p hp hnewp => ?_
    · refine List.Nodup.map_on (fun a ha b hb heq => ?_) nodup_lasts
      obtain ⟨hsource, hrest⟩ := Prod.mk.inj heq
      exact lasts_inj ha hb (Prod.ext (Prod.mk.inj hrest).1 (Yaml.str.inj hsource))
    · obtain ⟨mount, hmount, rfl⟩ := List.mem_map.mp hnewp
      obtain ⟨source, hsource, -, hpoint⟩ := h.mem_points.mp hp
      cases hsource
      have hnone := hnew mount (of_lastOf (mem_lasts.mp hmount)).1
      rw [pointOf, hnone] at hpoint
      cases hpoint
  · rw [(h.addAll mounts).mem_points, List.mem_append, h.mem_points]
    constructor
    · rintro ⟨source, hkey, hval, hpoint⟩
      rw [hvalue] at hval
      rw [mountedAt_addAll] at hpoint
      cases hlast : lastOf filing mounts (p.2.1, source) with
      | none =>
        rw [hlast] at hpoint
        exact .inl ⟨source, hkey, hval, hpoint⟩
      | some mount =>
        rw [hlast] at hpoint
        obtain ⟨-, hfiling⟩ := of_lastOf hlast
        obtain ⟨hname, hsource⟩ := Prod.mk.inj hfiling
        refine .inr (List.mem_map.mpr ⟨mount, mem_lasts.mpr (hfiling ▸ hlast), ?_⟩)
        have hplace : (⟨mount.2.target, mount.2.mode⟩ : MountPoint) = p.2.2.2 :=
          Option.some.inj hpoint
        rw [pointOf, hname, hsource, ← hkey, ← hval, hplace]
    · rintro (⟨source, hkey, hval, hpoint⟩ | hmem)
      · refine ⟨source, hkey, hval.trans (hvalue source).symm, ?_⟩
        have hnone : lastOf filing mounts (p.2.1, source) = none := by
          cases hlast : lastOf filing mounts (p.2.1, source) with
          | none => rfl
          | some mount =>
            obtain ⟨hmem, hfiling⟩ := of_lastOf hlast
            obtain ⟨hname, hsource⟩ := Prod.mk.inj hfiling
            have hnone := hnew mount hmem
            rw [hname, hsource, hpoint] at hnone
            cases hnone
        rw [mountedAt_addAll, hnone]
        exact hpoint
      · obtain ⟨mount, hmount, rfl⟩ := List.mem_map.mp hmem
        refine ⟨mount.2.source, rfl, (hvalue _).symm, ?_⟩
        rw [mountedAt_addAll]
        dsimp only [pointOf]
        rw [show (mount.1, mount.2.source) = filing mount from rfl, mem_lasts.mp hmount]
        rfl

/-! ## The mounts of all services -/

/-- What a list of pairs has for some of the names. -/
theorem map_snd_filter_pairs {γ : Type} (services : List (String × Entries)) (q : String → Bool)
    (f : String × Entries → List γ) :
    ((services.flatMap fun s => (f s).map fun x => (s.1, x)).filter fun p => q p.1).map Prod.snd =
      (services.filter fun s => q s.1).flatMap f := by
  induction services with
  | nil => rfl
  | cons s rest ih =>
    rw [List.flatMap_cons, List.filter_append, List.map_append, ih, List.filter_map, List.map_map]
    by_cases hs : q s.1 = true
    · have hall : ((f s).filter ((fun p : String × γ => q p.1) ∘ fun x => (s.1, x))) = f s :=
        List.filter_eq_self.mpr fun _ _ => hs
      rw [List.filter_cons_of_pos (by simpa using hs), List.flatMap_cons, hall]
      exact congrArg (· ++ _) (List.map_id _)
    · have hnone : ((f s).filter ((fun p : String × γ => q p.1) ∘ fun x => (s.1, x))) = [] :=
        List.filter_eq_nil_iff.mpr fun _ _ => hs
      rw [List.filter_cons_of_neg (by simpa using hs), hnone]
      rfl

section Services
variable {γ : Type} {services : List (String × Entries)} (hnodup : (services.map Prod.fst).Nodup)
include hnodup

theorem filter_flatMap_pairs (f : String × Entries → List γ) {s : String × Entries}
    (hs : s ∈ services) :
    (services.flatMap fun t => (f t).map fun x => (t.1, x)).filter (fun p => p.1 = s.1) =
      (f s).map fun x => (s.1, x) := by
  have hself : ∀ t : String × Entries, t.1 = s.1 →
      ((f t).map fun x => (t.1, x)).filter (fun p => p.1 = s.1) = (f t).map fun x => (t.1, x) := by
    intro t ht
    refine List.filter_eq_self.mpr fun p hp => ?_
    obtain ⟨x, -, rfl⟩ := List.mem_map.mp hp
    simpa using ht
  have hother : ∀ t : String × Entries, t.1 ≠ s.1 →
      ((f t).map fun x => (t.1, x)).filter (fun p => p.1 = s.1) = [] := by
    intro t ht
    refine List.filter_eq_nil_iff.mpr fun p hp => ?_
    obtain ⟨x, -, rfl⟩ := List.mem_map.mp hp
    simpa using ht
  induction services with
  | nil => cases hs
  | cons t rest ih =>
    obtain ⟨hfresh, hrest⟩ := List.nodup_cons.mp hnodup
    rw [List.flatMap_cons, List.filter_append]
    rcases List.mem_cons.mp hs with rfl | hs
    · have hnone : (rest.flatMap fun u => ((f u).map fun x => (u.1, x)).filter
          (fun p => p.1 = s.1)) = [] :=
        List.flatMap_eq_nil_iff.mpr fun u hu =>
          hother u fun heq => hfresh (heq ▸ List.mem_map_of_mem hu)
      rw [hself s rfl, List.filter_flatMap, hnone, List.append_nil]
    · rw [hother t fun heq => hfresh (heq ▸ List.mem_map_of_mem hs), List.nil_append]
      exact ih hrest hs

/-- Two lists of pairs are the same, up to the order, if they are so for each name. -/
theorem flatMap_pairs_perm_iff (f g : String × Entries → List γ) :
    (services.flatMap fun s => (f s).map fun x => (s.1, x)).Perm
        (services.flatMap fun s => (g s).map fun x => (s.1, x)) ↔
      ∀ s ∈ services, (f s).Perm (g s) := by
  constructor
  · intro h s hs
    have hfilter := h.filter fun p => p.1 = s.1
    rw [filter_flatMap_pairs hnodup f hs, filter_flatMap_pairs hnodup g hs] at hfilter
    exact (List.map_perm_map_iff fun _ _ heq => (Prod.mk.inj heq).2).mp hfilter
  · intro h
    exact List.Perm.flatMap_left _ fun s hs => (h s hs).map _

theorem lastOf_declaredAll {s : String × Entries} (hs : s ∈ services) (source : String) :
    lastOf filing (declaredAll services) (s.1, source) =
      (lastOf VolumeMount.source (declaredMounts s.2) source).map fun m => (s.1, m) := by
  have hfilter : (declaredAll services).filter (fun p => filing p = (s.1, source)) =
      ((declaredAll services).filter fun p => p.1 = s.1).filter fun p => p.2.source = source := by
    rw [List.filter_filter]
    refine List.filter_congr fun p _ => ?_
    rw [Bool.eq_iff_iff, decide_eq_true_iff, Bool.and_eq_true, decide_eq_true_iff,
      decide_eq_true_iff, filing, Prod.mk.injEq, and_comm]
  unfold lastOf
  rw [hfilter, declaredAll, filter_flatMap_pairs hnodup (fun t => declaredMounts t.2) hs,
    List.filter_map, List.getLast?_map]
  rfl

theorem lasts_declaredAll :
    (lasts filing (declaredAll services)).Perm (services.flatMap fun s =>
      (lasts VolumeMount.source (declaredMounts s.2)).map fun m => (s.1, m)) := by
  refine (List.perm_ext_iff_of_nodup nodup_lasts ?_).mpr fun mount => ?_
  · refine List.nodup_flatMap.mpr ⟨fun s _ => ?_, ?_⟩
    · exact nodup_lasts.map fun _ _ heq => (Prod.mk.inj heq).2
    · refine (List.pairwise_map.mp hnodup).imp fun {s t} hne p hps hpt => ?_
      obtain ⟨m, -, rfl⟩ := List.mem_map.mp hps
      obtain ⟨m', -, heq⟩ := List.mem_map.mp hpt
      exact hne (Prod.mk.inj heq).1.symm
  · rw [mem_lasts, List.mem_flatMap]
    constructor
    · intro h
      obtain ⟨s, hs, hname, -⟩ := mem_declaredAll.mp (of_lastOf h).1
      rw [filing, ← hname, lastOf_declaredAll hnodup hs] at h
      obtain ⟨m, hm, rfl⟩ := Option.map_eq_some_iff.mp h
      exact ⟨s, hs, List.mem_map_of_mem (mem_lasts.mpr hm)⟩
    · rintro ⟨s, hs, hmount⟩
      obtain ⟨m, hm, rfl⟩ := List.mem_map.mp hmount
      rw [filing, lastOf_declaredAll hnodup hs, mem_lasts.mp hm]
      rfl

end Services

/-! ## What the mounts are kept by -/

/-- A mount as the instance has it. -/
def instanceMount (id : String) (mount : String × VolumeMount) : String × VolumeMount :=
  (mount.1, { mount.2 with source := id ++ "_" ++ mount.2.source })

/-- The greffer's own mount, unless the compose takes its key. -/
def ownMounts (id : String) (entries : Entries) : List (String × VolumeMount) :=
  if Yaml.str nginxService ∈ topVolumes entries then []
  else [(nginxService, ⟨certificateVolume id, "/etc/nginx/", none⟩)]

/-- The names of one mapping of the rebuilt compose. -/
def Objects.rebuiltNames (objects : Objects) (names : List String) (name : String) : List String :=
  names.filter (objects.oneRebuilt name)

/-- **When every mount is kept.** -/
structure MountsKept (objects : Objects) (entries : Entries) : Prop where
  alike : ∀ s ∈ authored entries, ∀ m ∈ declaredMounts s.2,
    ((declaredMounts s.2).filter fun m' => m'.source = m.source) =
      List.replicate (objects.rebuiltNames (serviceNamesOf entries) s.1).length m
  plain : ∀ mount ∈ declaredAll (authored entries),
    ':' ∉ mount.2.source.toList ∧ ':' ∉ mount.2.target.toList
  own : Yaml.str nginxService ∈ topVolumes entries ∨
    ∀ mount ∈ declaredAll (authored entries), mount.2.source ≠ nginxService
  read : ∀ s ∈ authored entries, (objects.names (serviceNamesOf entries) s.1).length ≠ 1 →
    ReadsModes s.2

/-! ## The mount points of the info -/

/-- What a mount point says once it is a mapping. -/
def readPoint (p : Yaml × String × String × MountPoint) : Option VolumeMount :=
  declaredMount (.str (mapping p.2.2.1 p.2.2.2))

theorem volumeMappings_eq (info : GreffonInfo) :
    volumeMappings info = (points info.volumes).map fun p =>
      (p.2.1, .str (mapping p.2.2.1 p.2.2.2)) := by
  rw [volumeMappings, points, List.map_flatMap]
  refine List.flatMap_congr fun v _ => ?_
  rw [List.map_map]
  rfl

theorem declaredMounts_eq (service : Entries) :
    declaredMounts service = (itemsAt service "volumes").filterMap declaredMount := by
  unfold declaredMounts itemsAt
  cases Dict.get? service "volumes" with
  | none => rfl
  | some v => cases v <;> rfl

section
variable {greffonPath : String} {greffon : Greffon} {entries : Entries}

/-- The greffer's own mount point. -/
def ownPoints (id : String) (entries : Entries) : List (Yaml × String × String × MountPoint) :=
  if Yaml.str nginxService ∈ topVolumes entries then []
  else [(.str nginxService, nginxService, certificateVolume id, ⟨"/etc/nginx/", none⟩)]

theorem Initial.placedOf {volumes : Dict VolumeInfo}
    (h : Initial greffonPath greffon entries volumes) : PlacedOf greffon.id volumes := by
  refine ⟨h.volumesOf, fun e he => ?_⟩
  by_cases htext : ∃ s, e.1 = .str s
  · obtain ⟨s, hs⟩ := htext
    have hget := h.volumesOf.distinct.get?_of_mem
      (show (Yaml.str s, e.2) ∈ volumes by rwa [← hs])
    rw [h.get] at hget
    split at hget
    · rw [← Option.some.inj hget]
      exact List.nodup_nil
    · split at hget
      · rw [← Option.some.inj hget]
        exact List.nodup_singleton _
      · cases hget
  · rw [h.volumesOf.plain e he fun s hs => htext ⟨s, hs⟩]
    exact List.nodup_nil

theorem Initial.mountedAt {volumes : Dict VolumeInfo}
    (h : Initial greffonPath greffon entries volumes) (name source : String) :
    Compose.mountedAt volumes name source =
      if Yaml.str nginxService ∉ topVolumes entries ∧ source = nginxService ∧ name = nginxService
      then some ⟨"/etc/nginx/", none⟩ else none := by
  rw [Compose.mountedAt, h.get]
  by_cases hsource : source = nginxService
  · subst hsource
    by_cases htop : Yaml.str nginxService ∈ topVolumes entries
    · rw [if_pos htop, if_neg fun hand => hand.1 htop]
      rfl
    · rw [if_neg htop, if_pos rfl, Option.bind_some, nginxVolume, List.lookup_cons]
      by_cases hname : name = nginxService
      · simp [hname, htop]
      · rw [beq_eq_false_iff_ne.mpr hname, if_neg fun hand => hname hand.2.2]
        rfl
  · have hnot : ¬ (Yaml.str nginxService ∉ topVolumes entries ∧ source = nginxService ∧
        name = nginxService) := fun hand => hsource hand.2.1
    rw [if_neg hnot, if_neg hsource]
    split
    · rfl
    · rfl

/-- Before the mounts, the greffer's own mount point is the only one. -/
theorem Initial.points {volumes : Dict VolumeInfo}
    (h : Initial greffonPath greffon entries volumes) :
    (Compose.points volumes).Perm (ownPoints greffon.id entries) := by
  have hnodup : (ownPoints greffon.id entries).Nodup := by
    unfold ownPoints
    split
    · exact List.nodup_nil
    · exact List.nodup_singleton _
  refine (List.perm_ext_iff_of_nodup h.placedOf.nodup_points hnodup).mpr fun p => ?_
  obtain ⟨key, name, value, point⟩ := p
  rw [h.placedOf.mem_points]
  dsimp only
  constructor
  · rintro ⟨source, rfl, rfl, hpoint⟩
    rw [h.mountedAt] at hpoint
    split at hpoint
    · rename_i hand
      obtain ⟨htop, rfl, rfl⟩ := hand
      cases hpoint
      rw [ownPoints, if_neg htop, h.valueOf, volumeName, if_pos ⟨rfl, htop⟩]
      exact List.mem_singleton.mpr rfl
    · cases hpoint
  · intro hmem
    unfold ownPoints at hmem
    split at hmem
    · cases hmem
    · rename_i htop
      cases List.mem_singleton.mp hmem
      refine ⟨nginxService, rfl, ?_, ?_⟩
      · rw [h.valueOf, volumeName, if_pos ⟨rfl, htop⟩]
        rfl
      · rw [h.mountedAt, if_pos ⟨htop, rfl, rfl⟩]

/-- The modes of an accepted compose are known. -/
theorem Accepted.modes {entries : Entries} {services : List (String × Entries)}
    (h : Accepted entries services) : ∀ mount ∈ Compose.declaredAll (authored entries),
      ∀ mode, mount.2.mode = some mode → mode ∈ mountModes := by
  obtain ⟨declared, -, heach⟩ := h.top
  intro mount hm
  obtain ⟨raw, hraw, -, hm⟩ := mem_declaredAll.mp hm
  generalize authored entries = raws at heach hraw
  clear h
  induction heach with
  | nil => cases hraw
  | cons hs _ ih =>
    rcases List.mem_cons.mp hraw with rfl | hraw
    · exact hs.2.modes _ hm
    · exact ih hraw

theorem not_mem_prefixed {id s : String} (hid : acceptedId id = true) :
    ':' ∉ (id ++ "_" ++ s).toList ↔ ':' ∉ s.toList := by
  rw [String.toList_append, String.toList_append, List.mem_append, List.mem_append, not_or, not_or]
  exact ⟨fun h => h.2, fun h => ⟨⟨acceptedId_no_colon hid, by decide⟩, h⟩⟩

theorem certificateVolume_no_colon {id : String} (hid : acceptedId id = true) :
    ':' ∉ (certificateVolume id).toList := by
  rw [← prefixed_eq_certificateVolume.mpr rfl, not_mem_prefixed hid]
  decide

end

/-! ## What each mapping gets -/

/-- What the mapping of a name is given: the last mount of each source by each of its names. -/
def given (objects : Objects) (befores : List (String × Entries)) (name : String) :
    List VolumeMount :=
  (befores.filter fun b => objects.oneRebuilt name b.1).flatMap fun b =>
    lasts VolumeMount.source (declaredMounts b.2)

/-- The greffer's own mount, in the sidecar. -/
def ownAt (id : String) (entries : Entries) (name : String) : List VolumeMount :=
  ((ownMounts id entries).filter fun mount => mount.1 == name).map Prod.snd

theorem oneRebuilt_nginx (objects : Objects) (name : String) :
    objects.oneRebuilt name nginxService = (name == nginxService) := by
  simp [Objects.oneRebuilt]

theorem ownPoints_congr {id : String} {entries entries' : Entries}
    (h : topVolumes entries = topVolumes entries') :
    ownPoints id entries = ownPoints id entries' := by
  rw [ownPoints, h, ownPoints]

/-- The greffer's own mount point is the sidecar's, whoever shares its mapping. -/
theorem filterMap_ownPoints {id : String} (hid : acceptedId id = true) (objects : Objects)
    {entries : Entries} (name : String) :
    ((ownPoints id entries).filter fun p => objects.oneRebuilt name p.2.1).filterMap readPoint =
      ownAt id entries name := by
  unfold ownPoints ownAt ownMounts
  split
  · rfl
  · have hread : readPoint (.str nginxService, nginxService, certificateVolume id,
        ⟨"/etc/nginx/", none⟩) = some ⟨certificateVolume id, "/etc/nginx/", none⟩ :=
      declaredMount_mapping (certificateVolume_no_colon hid)
        (show ':' ∉ "/etc/nginx/".toList by decide) (by simp)
    by_cases hname : name = nginxService
    · simp [oneRebuilt_nginx, hname, hread]
    · simp [oneRebuilt_nginx, hname, Ne.symm hname]

theorem declaredMounts_later {objects : Objects} {names : List String}
    {raw before : String × Entries} (h : ComesTo objects names raw before) :
    declaredMounts before.2 =
      if (objects.names names raw.1).length = 1 then declaredMounts raw.2
      else (declaredMounts raw.2).map reread := by
  split
  · rename_i halone
    rw [h.alone halone]
  · rename_i hshared
    exact (h.shared hshared).mounts

namespace RebuiltInPlace
variable {greffonPath : String} {greffon : Greffon} {objects : Objects} {entries : Entries}
  {befores : List (String × Entries)} {info : GreffonInfo} {l4BindHost : String}
  {services : List (String × Entries)}

/-- What a later pass comes to mounts what the author has it mount, up to the modes. -/
theorem declared_of_before (h : RebuiltInPlace greffonPath greffon objects entries befores info
    l4BindHost services) {mount : String × VolumeMount} (hm : mount ∈ declaredAll befores) :
    ∃ mount' ∈ declaredAll (authored entries), mount'.1 = mount.1 ∧
      mount'.2.source = mount.2.source ∧ mount'.2.target = mount.2.target := by
  obtain ⟨before, hbefore, hname, hm⟩ := mem_declaredAll.mp hm
  obtain ⟨raw, hraw, hcomes⟩ := exists_left_of_forall₂ h.comesTo hbefore
  rw [declaredMounts_later hcomes] at hm
  split at hm
  · exact ⟨mount, mem_declaredAll.mpr ⟨raw, hraw, hcomes.name.trans hname, hm⟩, rfl, rfl, rfl⟩
  · obtain ⟨m, hm, heq⟩ := List.mem_map.mp hm
    refine ⟨(mount.1, m), mem_declaredAll.mpr ⟨raw, hraw, hcomes.name.trans hname, hm⟩, rfl, ?_, ?_⟩
    · rw [← heq]
      rfl
    · rw [← heq]
      rfl

/-- The mounts of a rebuilt service are the mappings that the info has for its names, read. -/
theorem mounts (h : RebuiltInPlace greffonPath greffon objects entries befores info l4BindHost
    services) {s : String × Entries} (hs : s ∈ services) :
    declaredMounts s.2 =
      ((points info.volumes).filter fun p => objects.oneRebuilt s.1 p.2.1).filterMap readPoint := by
  obtain ⟨bare, -, rfl⟩ := h.services
  obtain ⟨b, hb, rfl⟩ := List.mem_map.mp hs
  rw [declaredMounts_eq, itemsAt_volumes_inPlace, itemsAt_bare hb, List.nil_append,
    itemsForMapping, volumeMappings_eq, List.filter_map, List.map_map, List.filterMap_map]
  rfl

section
variable (h : RebuiltInPlace greffonPath greffon objects entries befores info l4BindHost services)
  (hid : acceptedId greffon.id = true)
  (hplain : ∀ mount ∈ declaredAll (authored entries),
    ':' ∉ mount.2.source.toList ∧ ':' ∉ mount.2.target.toList)
  (hown : Yaml.str nginxService ∈ topVolumes entries ∨
    ∀ mount ∈ declaredAll (authored entries), mount.2.source ≠ nginxService)
include h hid hplain hown

/-- **What a rebuilt service mounts.** -/
theorem got {s : String × Entries} (hs : s ∈ services) :
    (declaredMounts s.2).Perm (ownAt greffon.id entries s.1 ++
      (given objects befores s.1).map fun m => (instanceMount greffon.id (s.1, m)).2) := by
  obtain ⟨volumes, hinitial, hinfo⟩ := h.collected.initial
  rw [authored_withServices] at hinfo
  have hfree : Yaml.str nginxService ∈ topVolumes entries ∨
      ∀ mount ∈ declaredAll befores, mount.2.source ≠ nginxService := by
    refine hown.imp_right fun hfree mount hm => ?_
    obtain ⟨mount', hm', -, hsource, -⟩ := h.declared_of_before hm
    rw [← hsource]
    exact hfree mount' hm'
  have hnew : ∀ mount ∈ declaredAll befores,
      mountedAt volumes mount.1 mount.2.source = none := by
    intro mount hm
    rw [hinitial.mountedAt, topVolumes_withServices]
    exact if_neg fun hand => hfree.elim hand.1 fun hfree => hfree mount hm hand.2.1
  have hpoints := (hinitial.placedOf.points_addAll hnew).trans (hinitial.points.append_right _)
  rw [← hinfo] at hpoints
  have hmine := (hpoints.filter fun p => objects.oneRebuilt s.1 p.2.1).filterMap readPoint
  rw [h.mounts hs]
  refine hmine.trans ?_
  rw [List.filter_append, List.filterMap_append]
  refine List.Perm.append (List.Perm.of_eq ?_) ?_
  · rw [ownPoints_congr (topVolumes_withServices entries befores)]
    exact filterMap_ownPoints hid objects s.1
  · obtain ⟨normal, haccepted⟩ := h.accepted
    have hmodes := haccepted.modes
    rw [authored_withServices] at hmodes
    have hread : ∀ mount ∈ lasts filing (declaredAll befores),
        readPoint (pointOf greffon.id volumes mount) =
          some (instanceMount greffon.id (s.1, mount.2)).2 := by
      intro mount hlast
      have hm := (of_lastOf (mem_lasts.mp hlast)).1
      obtain ⟨mount', hm', -, hsource, htarget⟩ := h.declared_of_before hm
      obtain ⟨hplainSource, hplainTarget⟩ := hplain mount' hm'
      rw [hsource] at hplainSource
      rw [htarget] at hplainTarget
      have hvalue : valueOf greffon.id volumes mount.2.source =
          greffon.id ++ "_" ++ mount.2.source := by
        rw [hinitial.valueOf, volumeName, topVolumes_withServices, if_neg]
        rintro ⟨hnginx, htop⟩
        exact hfree.elim htop fun hfree => hfree mount hm hnginx
      rw [readPoint, pointOf]
      dsimp only
      rw [hvalue, declaredMount_mapping ((not_mem_prefixed hid).mpr hplainSource) hplainTarget
        (hmodes mount hm)]
      rfl
    have hlasts : (((lasts filing (declaredAll befores)).map (pointOf greffon.id volumes)).filter
          fun p => objects.oneRebuilt s.1 p.2.1).filterMap readPoint =
        ((lasts filing (declaredAll befores)).filter fun mount =>
          objects.oneRebuilt s.1 mount.1).map fun mount =>
            (instanceMount greffon.id (s.1, mount.2)).2 := by
      rw [List.filter_map, List.filterMap_map, ← List.filterMap_eq_map]
      exact List.filterMap_congr fun mount hm => hread mount (List.mem_filter.mp hm).1
    rw [hlasts]
    have hnodup : (befores.map Prod.fst).Nodup := by
      rw [h.names_eq]
      exact h.nodup
    refine (((lasts_declaredAll hnodup).filter _).map _).trans (List.Perm.of_eq ?_)
    rw [given, ← map_snd_filter_pairs befores (objects.oneRebuilt s.1), List.map_map]
    rfl

/-- **What the rebuilt compose mounts.** -/
theorem declaredAll_perm :
    (Compose.declaredAll services).Perm (ownMounts greffon.id entries ++
      ((serviceNamesOf entries).flatMap fun name =>
        (given objects befores name).map fun m => (name, m)).map (instanceMount greffon.id)) := by
  obtain ⟨bare, hbare, hservices⟩ := h.services
  have hkeys : services.map Prod.fst = serviceNamesOf entries ++
      if nginxService ∈ serviceNamesOf entries then [] else [nginxService] := by
    rw [hservices, map_fst_inPlace, names_bareServices, hbare]
  have hnodup : (services.map Prod.fst).Nodup := by
    rw [hservices, map_fst_inPlace]
    exact nodup_bareServices (hbare ▸ h.nodup)
  have hknown : ∀ mount ∈ ownMounts greffon.id entries, mount.1 ∈ services.map Prod.fst := by
    intro mount hm
    have hname : mount.1 = nginxService := by
      unfold ownMounts at hm
      split at hm
      · cases hm
      · rw [List.mem_singleton.mp hm]
    rw [hname, hkeys]
    by_cases hmem : nginxService ∈ serviceNamesOf entries
    · exact List.mem_append_left _ hmem
    · rw [if_neg hmem]
      exact List.mem_append_right _ List.mem_cons_self
  have heach : (Compose.declaredAll services).Perm (services.flatMap fun s =>
      ((ownAt greffon.id entries s.1).map fun m => (s.1, m)) ++
        (given objects befores s.1).map fun m => instanceMount greffon.id (s.1, m)) := by
    refine List.Perm.flatMap_left _ fun s hs => ((got h hid hplain hown hs).map _).trans ?_
    rw [List.map_append, List.map_map]
    exact List.Perm.refl _
  refine heach.trans ((List.flatMap_append_perm _ _ _).symm.trans (List.Perm.append ?_ ?_))
  · refine List.Perm.trans (List.Perm.of_eq ?_) (flatMap_named hnodup hknown)
    rw [List.flatMap_map]
    rfl
  · refine List.Perm.of_eq ?_
    have hname : (services.flatMap fun s =>
          (given objects befores s.1).map fun m => instanceMount greffon.id (s.1, m)) =
        (services.map Prod.fst).flatMap fun name =>
          (given objects befores name).map fun m => instanceMount greffon.id (name, m) := by
      rw [List.flatMap_map]
    rw [hname, hkeys, List.flatMap_append, List.map_flatMap]
    have hrest : ((if nginxService ∈ serviceNamesOf entries then [] else [nginxService]).flatMap
        fun name => (given objects befores name).map fun m =>
          instanceMount greffon.id (name, m)) = [] := by
      split
      · rfl
      · rename_i hmem
        have hnone : given objects befores nginxService = [] := by
          rw [given, List.flatMap_eq_nil_iff]
          intro b hb
          obtain ⟨hb, hone⟩ := List.mem_filter.mp hb
          rw [Objects.oneRebuilt] at hone
          have heq : nginxService = b.1 := by simpa using hone
          rw [← h.names_eq, heq] at hmem
          exact absurd (List.mem_map_of_mem hb) hmem
        rw [List.flatMap_singleton, hnone]
        rfl
    rw [hrest, List.append_nil]
    refine List.flatMap_congr fun name _ => ?_
    rw [List.map_map]
    rfl

end

end RebuiltInPlace

/-! ## The multiset of the mounts -/

/-- So many copies of the last mounts, read again, are the mounts if and only if nothing of them is
lost when they are read again. -/
theorem perm_copies_reread {k : Nat} {mounts : List VolumeMount} :
    (List.replicate k (lasts VolumeMount.source (mounts.map reread))).flatten.Perm mounts ↔
      (∀ m ∈ mounts, reread m = m) ∧
        (List.replicate k (lasts VolumeMount.source mounts)).flatten.Perm mounts := by
  have hsame : (∀ m ∈ mounts, reread m = m) → mounts.map reread = mounts := fun h =>
    (List.map_congr_left h).trans (List.map_id _)
  constructor
  · intro h
    have hread : ∀ m ∈ mounts, reread m = m := by
      intro m hm
      obtain ⟨copy, hcopy, hmem⟩ := List.mem_flatten.mp (h.symm.subset hm)
      rw [List.eq_of_mem_replicate hcopy] at hmem
      obtain ⟨m', -, rfl⟩ := List.mem_map.mp (of_lastOf (mem_lasts.mp hmem)).1
      exact reread_reread m'
    rw [hsame hread] at h
    exact ⟨hread, h⟩
  · rintro ⟨hread, h⟩
    rwa [hsame hread]

theorem instanceMount_injective (id : String) : Function.Injective (instanceMount id) := by
  rintro ⟨name, source, target, mode⟩ ⟨name', source', target', mode'⟩ h
  simp only [instanceMount, Prod.mk.injEq, VolumeMount.mk.injEq, String.append_right_inj] at h
  obtain ⟨rfl, rfl, rfl, rfl⟩ := h
  rfl

/-- The services of one mapping of a document are the same. -/
theorem Objects.Of.authored {objects : Objects} {entries : Entries}
    (h : objects.Of (servicesIn (.dict entries)).entries) {s t : String × Entries}
    (hs : s ∈ Compose.authored entries) (ht : t ∈ Compose.authored entries)
    (hone : objects.oneService s.1 t.1 = true) : s.2 = t.2 := by
  exact Yaml.dict.inj (h.service _ (mem_servicesIn hs) _ (mem_servicesIn ht) (beq_iff_eq.mp hone))

namespace RebuiltInPlace
variable {greffonPath : String} {greffon : Greffon} {objects : Objects} {entries : Entries}
  {befores : List (String × Entries)} {info : GreffonInfo} {l4BindHost : String}
  {services : List (String × Entries)}

section
variable (h : RebuiltInPlace greffonPath greffon objects entries befores info l4BindHost services)
include h

/-- **The names of one mapping** are given the same, so that the mapping has it so many times. -/
theorem given_eq (hof : objects.Of (servicesIn (.dict entries)).entries) {s : String × Entries}
    (hs : s ∈ authored entries) :
    given objects befores s.1 =
      (List.replicate (objects.rebuiltNames (serviceNamesOf entries) s.1).length
        (lasts VolumeMount.source
          (if (objects.names (serviceNamesOf entries) s.1).length = 1 then declaredMounts s.2
            else (declaredMounts s.2).map reread))).flatten := by
  have hlength : (befores.filter fun b => objects.oneRebuilt s.1 b.1).length =
      (objects.rebuiltNames (serviceNamesOf entries) s.1).length := by
    rw [Objects.rebuiltNames, ← h.names_eq, List.filter_map, List.length_map]
    rfl
  rw [given, ← hlength, ← List.map_const', List.flatMap_def]
  refine congrArg _ (List.map_congr_left fun b hb => congrArg _ ?_)
  obtain ⟨hb, hone⟩ := List.mem_filter.mp hb
  obtain ⟨raw, hraw, hcomes⟩ := exists_left_of_forall₂ h.comesTo hb
  rw [declaredMounts_later hcomes]
  rw [← hcomes.name] at hone
  -- the names of one mapping are the same, and so are the names that share it
  by_cases hname : s.1 = raw.1
  · have hsame : s = raw := List.inj_on_of_nodup_map h.nodup hs hraw hname
    rw [hsame]
  · have hone : objects.oneService s.1 raw.1 = true := by
      rw [Objects.oneRebuilt, beq_eq_false_iff_ne.mpr hname, Bool.false_or, Bool.and_eq_true]
        at hone
      exact hone.2
    have hnames : objects.names (serviceNamesOf entries) raw.1 =
        objects.names (serviceNamesOf entries) s.1 := by
      refine List.filter_congr fun n _ => ?_
      rw [objects.oneService_comm n, objects.oneService_comm n, objects.oneService_congr hone]
    rw [hnames, hof.authored hs hraw hone]

/-- **The mounts are kept**, where they read back, if every service mounts its sources alike. -/
theorem perm_iff (hid : acceptedId greffon.id = true)
    (hof : objects.Of (servicesIn (.dict entries)).entries)
    (hplain : ∀ mount ∈ declaredAll (authored entries),
      ':' ∉ mount.2.source.toList ∧ ':' ∉ mount.2.target.toList)
    (hown : Yaml.str nginxService ∈ topVolumes entries ∨
      ∀ mount ∈ declaredAll (authored entries), mount.2.source ≠ nginxService) :
    (Compose.declaredAll services).Perm (ownMounts greffon.id entries ++
        (Compose.declaredAll (authored entries)).map (instanceMount greffon.id)) ↔
      MountsKept objects entries := by
  have hnames : (serviceNamesOf entries).flatMap (fun name =>
        (given objects befores name).map fun m => (name, m)) =
      (authored entries).flatMap fun s => (given objects befores s.1).map fun m => (s.1, m) := by
    rw [serviceNamesOf, List.flatMap_map]
  rw [(h.declaredAll_perm hid hplain hown).congr_left, List.perm_append_left_iff,
    List.map_perm_map_iff (instanceMount_injective _), hnames, declaredAll,
    flatMap_pairs_perm_iff h.nodup]
  have hone : ∀ s ∈ authored entries, (given objects befores s.1).Perm (declaredMounts s.2) ↔
      (∀ m ∈ declaredMounts s.2, ((declaredMounts s.2).filter fun m' => m'.source = m.source) =
        List.replicate (objects.rebuiltNames (serviceNamesOf entries) s.1).length m) ∧
      ((objects.names (serviceNamesOf entries) s.1).length ≠ 1 → ReadsModes s.2) := by
    intro s hs
    rw [h.given_eq hof hs, ← perm_copies_iff]
    split
    · rename_i halone
      rw [List.perm_comm]
      exact (and_iff_left fun hshared => absurd halone hshared).symm
    · rename_i hshared
      have hreads : (∀ m ∈ declaredMounts s.2, reread m = m) ↔ ReadsModes s.2 :=
        forall₂_congr fun m _ => reread_eq_iff
      rw [perm_copies_reread, hreads, List.perm_comm, and_comm]
      exact and_congr_right fun _ => ⟨fun h _ => h, fun h => h hshared⟩
  constructor
  · intro hperm
    exact ⟨fun s hs => ((hone s hs).mp (hperm s hs)).1, hplain, hown,
      fun s hs => ((hone s hs).mp (hperm s hs)).2⟩
  · intro hkept s hs
    exact (hone s hs).mpr ⟨hkept.alike s hs, hkept.read s hs⟩

/-- What is kept has been read off a mapping. -/
theorem from_mapping (hperm : (Compose.declaredAll services).Perm (ownMounts greffon.id entries ++
      (Compose.declaredAll (authored entries)).map (instanceMount greffon.id)))
    {mount : String × VolumeMount} (hm : mount ∈ Compose.declaredAll (authored entries)) :
    ∃ e ∈ info.volumes, ∃ c ∈ e.2.containers, declaredMount (.str (mapping e.2.value c.2)) =
      some (instanceMount greffon.id mount).2 := by
  have hmem := hperm.symm.subset (List.mem_append_right _ (List.mem_map_of_mem hm))
  obtain ⟨s, hs, -, hread⟩ := mem_declaredAll.mp hmem
  rw [h.mounts hs] at hread
  obtain ⟨p, hp, hsome⟩ := List.mem_filterMap.mp hread
  obtain ⟨e, he, hp⟩ := List.mem_flatMap.mp (List.mem_filter.mp hp).1
  obtain ⟨c, hc, rfl⟩ := List.mem_map.mp hp
  exact ⟨e, he, c, hc, hsome⟩

theorem plain_of_perm (hid : acceptedId greffon.id = true)
    (hperm : (Compose.declaredAll services).Perm (ownMounts greffon.id entries ++
      (Compose.declaredAll (authored entries)).map (instanceMount greffon.id))) :
    ∀ mount ∈ Compose.declaredAll (authored entries),
      ':' ∉ mount.2.source.toList ∧ ':' ∉ mount.2.target.toList := by
  intro mount hm
  obtain ⟨e, -, c, -, hsome⟩ := h.from_mapping hperm hm
  obtain ⟨hsource, htarget⟩ := declaredMount_str hsome
  exact ⟨(not_mem_prefixed hid).mp hsource, htarget⟩

/-- **The sidecar's key** is not a tenant's, where the mounts are kept. -/
theorem own_of_perm (hid : acceptedId greffon.id = true)
    (hperm : (Compose.declaredAll services).Perm (ownMounts greffon.id entries ++
      (Compose.declaredAll (authored entries)).map (instanceMount greffon.id))) :
    Yaml.str nginxService ∈ topVolumes entries ∨
      ∀ mount ∈ Compose.declaredAll (authored entries), mount.2.source ≠ nginxService := by
  by_cases htop : Yaml.str nginxService ∈ topVolumes entries
  · exact .inl htop
  · refine .inr fun mount hm hnginx => ?_
    obtain ⟨e, he, c, hc, hsome⟩ := h.from_mapping hperm hm
    have hsource := declaredMount_source hsome
    rw [sourceOf_mapping] at hsource
    obtain ⟨s, -, hvalue, hor⟩ := h.collected.container he hc
    rw [topVolumes_withServices, authored_withServices] at hor
    rw [hvalue, volumeName, topVolumes_withServices] at hsource
    simp only [instanceMount, hnginx] at hsource
    split at hsource
    · rw [← certificateVolume, sourceOf_certificateVolume hid] at hsource
      exact absurd (prefixed_eq_certificateVolume.mp hsource) (by decide)
    · rename_i hnot
      rw [sourceOf_prefixed hid] at hsource
      have hcut : nginxService = sourceOf s := (String.append_right_inj _).mp hsource
      rcases hor with ⟨rfl, hfree, -⟩ | ⟨mount', hm', rfl, -⟩
      · exact hnot ⟨rfl, hfree⟩
      · obtain ⟨mount'', hm'', -, hsame, -⟩ := h.declared_of_before hm'
        have hplain := (h.plain_of_perm hid hperm mount'' hm'').1
        rw [hsame] at hplain
        rw [sourceOf_of_plain hplain] at hcut
        exact hnot ⟨hcut.symm, htop⟩

end

end RebuiltInPlace

/-- **Mount preservation, exactly**: for every compose that the normalization accepts, whatever its
aliases make one, a start collects and rebuilds it to a compose with the same mounts, the source of
each prefixed with the instance's id, and the greffer's own, if and only if the collection accepts
its top level (`Collectable`) and every mount is kept (`MountsKept`). -/
theorem mounts_preserved {greffonPath : String} {greffon : Greffon} {document : Document} {out : Yaml}
    (hloaded : document.tree.WellFormed) (hid : acceptedId greffon.id = true) {strict : Bool}
    {extraKeys : Option String} (haccepted : normalizeDocument document strict extraKeys = .ok out)
    (l4BindHost : String) :
    (∃ info normalized rebuilt services,
      createDocumentInfo greffonPath document greffon strict extraKeys = .ok (info, normalized) ∧
      createDocumentTemplate document.objects normalized info l4BindHost = .ok rebuilt ∧
      servicesOf rebuilt = .ok services ∧
      (declaredAll services).Perm (ownMounts greffon.id document.tree.entries ++
        (declaredAll (authored document.tree.entries)).map (instanceMount greffon.id))) ↔
      Collectable document.tree.entries ∧ MountsKept document.objects document.tree.entries := by
  obtain ⟨entries, -, -, htree, -⟩ := normalizeDocument_ok haccepted
  have hof := document.of
  rw [htree] at hof
  constructor
  · rintro ⟨info, normalized, rebuilt, services, hinfo, htemplate, hread, hperm⟩
    obtain ⟨befores, rebuilt', services', htemplate', hread', hrebuilt⟩ :=
      createDocumentTemplate_ok hloaded hinfo l4BindHost
    cases htemplate.symm.trans htemplate'
    cases hread.symm.trans hread'
    refine ⟨(createDocumentInfo_ok_iff haccepted).mp ⟨info, normalized, hinfo⟩, ?_⟩
    rw [htree] at hrebuilt hperm ⊢
    exact (hrebuilt.perm_iff hid hof (hrebuilt.plain_of_perm hid hperm)
      (hrebuilt.own_of_perm hid hperm)).mp hperm
  · rintro ⟨hcollectable, hkept⟩
    obtain ⟨info, normalized, hinfo⟩ := (createDocumentInfo_ok_iff haccepted).mpr hcollectable
    obtain ⟨befores, rebuilt, services, htemplate, hread, hrebuilt⟩ :=
      createDocumentTemplate_ok hloaded hinfo l4BindHost
    refine ⟨info, normalized, rebuilt, services, hinfo, htemplate, hread, ?_⟩
    rw [htree] at hrebuilt hkept ⊢
    exact (hrebuilt.perm_iff hid hof hkept.plain hkept.own).mpr hkept

/-- A compose of one service has nothing to share. -/
def appDocument (mounts : List String) : Document :=
  .unshared (appMounting mounts) (fun _ => 0) (by
    intro s hs t ht _
    obtain rfl := List.mem_singleton.mp hs
    exact (List.mem_singleton.mp ht).symm)

/-- A single mount is kept. -/
theorem mounts_preserved_data : ∃ info normalized rebuilt services,
    createDocumentInfo "/data" (appDocument ["data:/data:ro"]) (plainGreffon "a") true none =
      .ok (info, normalized) ∧
    createDocumentTemplate (appDocument ["data:/data:ro"]).objects normalized info "0.0.0.0" =
      .ok rebuilt ∧
    servicesOf rebuilt = .ok services ∧
    (declaredAll services).Perm [(nginxService, ⟨"a_nginx_volume", "/etc/nginx/", none⟩),
      ("app", ⟨"a_data", "/data", some "ro"⟩)] := by
  obtain ⟨out, hout⟩ : ∃ out,
      normalizeDocument (appDocument ["data:/data:ro"]) true none = .ok out := ⟨_, rfl⟩
  refine (@mounts_preserved "/data" (plainGreffon "a") _ _ (appMounting_wellFormed _) (by decide)
    _ _ hout "0.0.0.0").mpr ⟨⟨⟨[], rfl, ?_⟩, ⟨[], rfl, ?_⟩, ?_⟩, ?_⟩
  · exact fun _ h => (by cases h)
  · exact fun _ h => (by cases h)
  · intro s hs hports
    obtain rfl := List.mem_singleton.mp hs
    cases hports
  · refine ⟨by decide, by decide, .inr (by decide), fun s hs hshared => ?_⟩
    obtain rfl := List.mem_singleton.mp hs
    exact absurd rfl hshared

/-- **A mount is lost**: of two mounts of one source, the rebuilt service has the second. -/
theorem second_mount_replaces_first : ∃ out info normalized rebuilt services,
    normalizeDocument (appDocument ["data:/a", "data:/b"]) true none = .ok out ∧
    createDocumentInfo "/data" (appDocument ["data:/a", "data:/b"]) (plainGreffon "a") true none =
      .ok (info, normalized) ∧
    createDocumentTemplate (appDocument ["data:/a", "data:/b"]).objects normalized info "0.0.0.0" =
      .ok rebuilt ∧
    servicesOf rebuilt = .ok services ∧
    declaredAll services = [("app", ⟨"a_data", "/b", none⟩),
      (nginxService, ⟨"a_nginx_volume", "/etc/nginx/", none⟩)] ∧
    ¬ (declaredAll services).Perm
      (ownMounts "a" (appMounting ["data:/a", "data:/b"]).entries ++
        (declaredAll (authored (appMounting ["data:/a", "data:/b"]).entries)).map
          (instanceMount "a")) := by
  refine ⟨_, _, _, _, _, rfl, rfl, rfl, rfl, rfl, fun h => ?_⟩
  exact absurd h.length_eq (by decide)

/-- Two services of one mapping: `a: &s {image: x, volumes: ["data:/d"]}`, `b: *s`. -/
def aliasedApps : Document where
  tree := .dict [(.str "services", .dict (["a", "b"].map fun name => (.str name, .dict
    [(.str "image", .str "x"), (.str "volumes", .list [.str "data:/d"])])))]
  objects := ⟨fun _ => 0, fun _ => 0⟩
  of := by
    have hone : ∀ s ∈ (["a", "b"].map fun name => (Yaml.str name, Yaml.dict
        [(.str "image", .str "x"), (.str "volumes", .list [.str "data:/d"])])),
        s.2 = .dict [(.str "image", .str "x"), (.str "volumes", .list [.str "data:/d"])] := by
      intro s hs
      obtain ⟨name, -, rfl⟩ := List.mem_map.mp hs
      rfl
    exact ⟨fun s hs t ht _ => (hone s hs).trans (hone t ht).symm,
      fun s hs t ht _ => by rw [hone s hs, hone t ht], fun _ _ _ _ _ => rfl,
      fun _ _ _ _ _ _ => rfl⟩

-- each mount of an aliased mapping comes back once for each of its names
example : ∃ info normalized rebuilt services,
    createDocumentInfo "/data" aliasedApps (plainGreffon "i") true none = .ok (info, normalized) ∧
    createDocumentTemplate aliasedApps.objects normalized info "0.0.0.0" = .ok rebuilt ∧
    servicesOf rebuilt = .ok services ∧
    (declaredAll services).count ("a", ⟨"i_data", "/d", none⟩) = 2 :=
  ⟨_, _, _, _, rfl, rfl, rfl, by decide⟩

end Greffer.Compose

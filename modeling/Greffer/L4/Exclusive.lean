import Mathlib.Logic.Function.Basic
import Mathlib.Logic.Relation
import Greffer.L4.Ports

/-! # Who holds a host port

The allocations of all instances, and the docker steps after them, in any order: new
containers of an instance come up and publish what was assigned to it, containers of an
instance stop, the clock advances.  An instance **holds** a port from its assignment until a
new container publishes it, and while a running container of its publishes it.

No two instances hold one port, in every run whose steps are `Guarded`
(`l4_ports_exclusive`).  What the condition excludes is a gap in a redeploy: the port that
is assigned to an instance again is still published by the container it is about to
replace; **the next allocation of any other instance takes this for the new container** and
drops the reservation, and when the old container stops, nothing shows that the port is
taken (`redeploy_gap`).

The invariant is `Sound`: the holders are exclusive, and every assigned port has its
reservation in the table.
-/
namespace Greffer.L4

/-- A port that is assigned to an instance, and not yet published; and the deadline of its
reservation. -/
structure Assigned where
  key : Key
  deadline : Rat
  deriving DecidableEq

/-- The greffer and its host. -/
structure Node where
  /-- `time.monotonic()`. -/
  now : Rat
  /-- `_pending`. -/
  pending : List Reservation
  /-- The sticky file of each instance. -/
  sticky : String → List (String × Nat)
  running : List Running
  /-- The ports assigned to each instance by its last start. -/
  assigned : String → List Assigned

namespace Node
variable (cfg : Config) (s : Node)

/-- The daemon's view of the ports of others. -/
def occupied (instanceId : String) : List Key := publishedL4Ports cfg instanceId s.running

/-- What `pending_and_prune` leaves of the table. -/
def kept (instanceId : String) : List Reservation :=
  (pendingAndPrune s.now (s.occupied cfg instanceId) instanceId s.pending).2

/-- The critical section, up to its loop. -/
def enter (instanceId : String) (isTunnel : Bool) : Section where
  instanceId := instanceId
  now := s.now
  isTunnel := isTunnel
  sticky := s.sticky instanceId
  reserved := s.occupied cfg instanceId ++
    (pendingAndPrune s.now (s.occupied cfg instanceId) instanceId s.pending).1

/-- The whole critical section of `get_greffon_info`. -/
def allocate (instanceId : String) (isTunnel : Bool) (ports : List L4Port) :
    Node × Option L4PortError :=
  match (s.enter cfg instanceId isTunnel).pickAll cfg ports
      { pending := s.kept cfg instanceId } with
  | (picks, some e) => ({ s with pending := picks.pending }, some e)
  | (picks, none) =>
    ({ s with
        pending := picks.pending
        sticky := Function.update s.sticky instanceId picks.newSticky
        assigned := Function.update s.assigned instanceId
          (picks.batch.map fun k => ⟨(daemonProto k.1, k.2), s.now + cfg.ttl⟩) }, none)

end Node

/-- A new container of an instance, publishing the ports. -/
def newContainer (instanceId : String) (keys : List Key) : Running where
  project := some instanceId
  ports := keys.map fun k => ⟨some k.2, some k.1⟩

/-- The steps. -/
inductive Event where
  /-- The critical section of a start. -/
  | allocate (instanceId : String) (isTunnel : Bool) (ports : List L4Port)
  /-- A new container of the instance is running. -/
  | up (instanceId : String) (keys : List Key)
  /-- Containers of the instance have stopped, but for some. -/
  | stop (instanceId : String) (keep : Running → Bool)
  | tick (now : Rat)

namespace Node
variable (cfg : Config) (s : Node)

/-- What a step does. -/
def after : Event → Node
  | .allocate instanceId isTunnel ports => (s.allocate cfg instanceId isTunnel ports).1
  | .up instanceId keys =>
    { s with
      running := s.running ++ [newContainer instanceId keys]
      assigned := Function.update s.assigned instanceId
        ((s.assigned instanceId).filter fun a => !keys.contains a.key) }
  | .stop instanceId keep =>
    { s with running := s.running.filter fun c => c.project ≠ some instanceId || keep c }
  | .tick now => { s with now := now }

/-- When a step can happen: a new container publishes what is assigned to its instance, and
the clock does not go back. -/
def Enabled : Event → Prop
  | .up instanceId keys => ∀ k ∈ keys, ∃ a ∈ s.assigned instanceId, a.key = k
  | .tick now => s.now ≤ now
  | _ => True

/-- A running container of the project publishes the port. -/
def Publishes (project : Option String) (k : Key) : Prop :=
  ∃ c ∈ s.running, c.project = project ∧ k ∈ c.published

/-- **The project holds the port**: it is assigned to it, or a running container of its
publishes it. -/
def Holds (project : Option String) (k : Key) : Prop :=
  (∃ id, project = some id ∧ ∃ a ∈ s.assigned id, a.key = k) ∨ s.Publishes project k

/-- One step. -/
def Step (s' : Node) : Prop := ∃ e, s.Enabled e ∧ s' = s.after cfg e

/-- **The condition on a step**: an allocation names its protocols as the daemon does, and
finds no port assigned to another instance that a container of that instance still
publishes; and the clock does not pass the deadline of an assigned port. -/
def Guarded : Event → Prop
  | .allocate instanceId _ ports => (∀ p ∈ ports, daemonProto p.proto = p.proto) ∧
    ∀ id, id ≠ instanceId → ∀ a ∈ s.assigned id, ¬ s.Publishes (some id) a.key
  | .tick now => ∀ id, ∀ a ∈ s.assigned id, now < a.deadline
  | _ => True

/-- One step that meets the condition. -/
def GuardedStep (s' : Node) : Prop := ∃ e, s.Enabled e ∧ s.Guarded e ∧ s' = s.after cfg e

/-- Each port has one holder. -/
def Exclusive : Prop := ∀ o o' k, s.Holds o k → s.Holds o' k → o = o'

/-- Before any allocation: nothing is assigned, the daemon's ports have one holder each, and
the sticky files are of the range. -/
structure Fresh : Prop where
  assigned : ∀ id, s.assigned id = []
  exclusive : s.Exclusive
  sticky : ∀ id, ∀ e ∈ s.sticky id, cfg.InRange e.2

/-- **The invariant.** -/
structure Sound : Prop where
  exclusive : s.Exclusive
  /-- Every assigned port is reserved for as long as it may be. -/
  reserved : ∀ id, ∀ a ∈ s.assigned id, ∃ r ∈ s.pending,
    r.key = a.key ∧ r.owner = id ∧ a.deadline ≤ r.expiry
  current : ∀ id, ∀ a ∈ s.assigned id, s.now < a.deadline ∧ a.deadline ≤ s.now + cfg.ttl
  /-- Its protocol is the daemon's. -/
  plain : ∀ id, ∀ a ∈ s.assigned id, daemonProto a.key.1 = a.key.1
  sticky : ∀ id, ∀ e ∈ s.sticky id, cfg.InRange e.2

theorem Fresh.sound {cfg : Config} {s : Node} (h : s.Fresh cfg) : s.Sound cfg where
  exclusive := h.exclusive
  reserved id a ha := by rw [h.assigned] at ha; cases ha
  current id a ha := by rw [h.assigned] at ha; cases ha
  plain id a ha := by rw [h.assigned] at ha; cases ha
  sticky := h.sticky

/-! ## What a section sees -/

section
variable {cfg : Config} {s : Node} {id : String}

theorem mem_occupied {k : Key} : k ∈ s.occupied cfg id ↔
    cfg.InRange k.2 ∧ ∃ o, o ≠ some id ∧ s.Publishes o k := by
  unfold occupied publishedL4Ports
  rw [List.mem_filter, decide_eq_true_iff, List.mem_flatMap, and_comm]
  refine and_congr_right fun _ => ⟨?_, ?_⟩
  · rintro ⟨c, hc, hk⟩
    obtain ⟨hc, hproject⟩ := List.mem_filter.mp hc
    exact ⟨c.project, by simpa using hproject, c, hc, rfl, hk⟩
  · rintro ⟨o, ho, c, hc, rfl, hk⟩
    exact ⟨c, List.mem_filter.mpr ⟨hc, by simpa using ho⟩, hk⟩

theorem mem_kept {r : Reservation} : r ∈ s.kept cfg id ↔
    r ∈ s.pending ∧ s.now < r.expiry ∧ r.key ∉ s.occupied cfg id := by
  unfold kept pendingAndPrune
  rw [List.mem_filter, Reservation.kept]
  simp

/-- What other instances have reserved counts as taken. -/
theorem reserved_of_kept {isTunnel : Bool} {r : Reservation} (h : r ∈ s.kept cfg id)
    (howner : r.owner ≠ id) : r.key ∈ (s.enter cfg id isTunnel).reserved :=
  List.mem_append_right _
    (List.mem_map_of_mem (List.mem_filter.mpr ⟨h, decide_eq_true howner⟩))

/-- **A reservation that is kept**: the daemon shows the port of no other project. -/
theorem Sound.kept_of (h : s.Sound cfg) {i : String} {a : Assigned} (ha : a ∈ s.assigned i)
    (hout : i = id ∨ ¬ s.Publishes (some i) a.key) :
    ∃ r ∈ s.kept cfg id, r.key = a.key ∧ r.owner = i ∧ a.deadline ≤ r.expiry := by
  obtain ⟨r, hr, hkey, howner, hexpiry⟩ := h.reserved i a ha
  refine ⟨r, mem_kept.mpr ⟨hr, (h.current i a ha).1.trans_le hexpiry, fun hocc => ?_⟩, hkey, howner,
    hexpiry⟩
  obtain ⟨-, o, ho, hpub⟩ := mem_occupied.mp hocc
  rw [hkey] at hpub
  have hsame := h.exclusive o (some i) a.key (.inr hpub) (.inl ⟨i, rfl, a, ha, rfl⟩)
  rcases hout with rfl | hquiet
  · exact ho hsame
  · exact hquiet (hsame ▸ hpub)

/-- **What is free in a section is held by no other**, if no reservation is dropped too
early. -/
theorem Sound.holder_of_free (h : s.Sound cfg) {isTunnel : Bool} {k : Key}
    (hrange : cfg.InRange k.2) (hfree : k ∉ (s.enter cfg id isTunnel).reserved)
    (hquiet : ∀ i, i ≠ id → ∀ a ∈ s.assigned i, ¬ s.Publishes (some i) a.key) {o : Option String}
    (hholds : s.Holds o k) : o = some id := by
  by_contra hne
  rcases hholds with ⟨i, rfl, a, ha, rfl⟩ | hpub
  · have hi : i ≠ id := fun heq => hne (congrArg some heq)
    obtain ⟨r, hr, hkey, howner, -⟩ := h.kept_of ha (.inr (hquiet i hi a ha))
    exact hfree (hkey ▸ reserved_of_kept hr (howner ▸ hi))
  · exact hfree (List.mem_append_left _ (mem_occupied.mpr ⟨hrange, o, hne, hpub⟩))

end

/-! ## The steps -/

section
variable {cfg : Config} {s : Node}

theorem Exclusive.mono {s' : Node} (h : s.Exclusive) (hsub : ∀ o k, s'.Holds o k → s.Holds o k) :
    s'.Exclusive := fun o o' k hk hk' => h o o' k (hsub o k hk) (hsub o' k hk')

theorem allocate_cases (id : String) (isTunnel : Bool) (ports : List L4Port) (hsound : s.Sound cfg) :
    ∃ picks fresh, Picked cfg (s.enter cfg id isTunnel) ports { pending := s.kept cfg id } picks
        fresh ∧
      ((∃ e, s.allocate cfg id isTunnel ports = ({ s with pending := picks.pending }, some e)) ∨
        s.allocate cfg id isTunnel ports =
          ({ s with
              pending := picks.pending
              sticky := Function.update s.sticky id picks.newSticky
              assigned := Function.update s.assigned id
                (fresh.map fun k => ⟨(daemonProto k.1, k.2), s.now + cfg.ttl⟩) }, none)) := by
  obtain ⟨fresh, hpicked⟩ := Section.pickAll_picked (s := s.enter cfg id isTunnel)
    (hsound.sticky id) ports { pending := s.kept cfg id }
  unfold allocate
  cases hall : (s.enter cfg id isTunnel).pickAll cfg ports { pending := s.kept cfg id } with
  | mk picks error =>
    rw [hall] at hpicked
    refine ⟨picks, fresh, hpicked, ?_⟩
    cases error with
    | some e => exact .inl ⟨e, rfl⟩
    | none =>
      refine .inr ?_
      rw [← show picks.batch = fresh from hpicked.batch]

/-- The reservations past a guarded allocation: those of the assigned ports, and new ones. -/
theorem Sound.reserved_after (h : s.Sound cfg) {id : String} {isTunnel : Bool} {ports : List L4Port}
    {picks : Picks} {fresh : List Key}
    (hpicked : Picked cfg (s.enter cfg id isTunnel) ports { pending := s.kept cfg id } picks fresh)
    (hquiet : ∀ i, i ≠ id → ∀ a ∈ s.assigned i, ¬ s.Publishes (some i) a.key) {i : String}
    {a : Assigned} (ha : a ∈ s.assigned i) :
    ∃ r ∈ picks.pending, r.key = a.key ∧ r.owner = i ∧ a.deadline ≤ r.expiry := by
  by_cases hi : i = id
  · subst hi
    by_cases hfresh : a.key ∈ fresh
    · exact ⟨_, hpicked.marked _ hfresh, rfl, rfl, (h.current i a ha).2⟩
    · obtain ⟨r, hr, hkey, howner, hexpiry⟩ := h.kept_of ha (.inl rfl)
      exact ⟨r, hpicked.kept r hr (hkey ▸ hfresh), hkey, howner, hexpiry⟩
  · obtain ⟨r, hr, hkey, howner, hexpiry⟩ := h.kept_of ha (.inr (hquiet i hi a ha))
    refine ⟨r, hpicked.kept r hr fun hfresh => ?_, hkey, howner, hexpiry⟩
    exact (hpicked.free _ hfresh).1 (List.mem_append_left _ (reserved_of_kept hr (howner ▸ hi)))

/-- **An allocation** that meets the condition keeps the invariant, whether it succeeds or
is refused. -/
theorem Sound.allocate (h : s.Sound cfg) (id : String) (isTunnel : Bool) (ports : List L4Port)
    (hguard : s.Guarded (.allocate id isTunnel ports)) :
    (s.allocate cfg id isTunnel ports).1.Sound cfg := by
  obtain ⟨hplain, hquiet⟩ := hguard
  obtain ⟨picks, fresh, hpicked, ⟨e, heq⟩ | heq⟩ := allocate_cases id isTunnel ports h
  · rw [heq]
    exact ⟨h.exclusive, fun i a ha => h.reserved_after hpicked hquiet ha, h.current, h.plain,
      h.sticky⟩
  rw [heq]
  have hproto : ∀ k ∈ fresh, daemonProto k.1 = k.1 := by
    intro k hk
    obtain ⟨-, -, p, hp, hk⟩ := hpicked.free k hk
    rw [← hk, hplain p hp]
  -- an assigned port is an old one, or a fresh one of this instance's
  have hassigned : ∀ {i a}, a ∈ Function.update s.assigned id
      (fresh.map fun k => ⟨(daemonProto k.1, k.2), s.now + cfg.ttl⟩) i →
      (i ≠ id ∧ a ∈ s.assigned i) ∨ i = id ∧ a.key ∈ fresh ∧ a.deadline = s.now + cfg.ttl := by
    intro i a ha
    by_cases hi : i = id
    · subst hi
      rw [Function.update_self] at ha
      obtain ⟨k, hk, rfl⟩ := List.mem_map.mp ha
      refine .inr ⟨rfl, ?_, rfl⟩
      rw [hproto k hk]
      exact hk
    · rw [Function.update_of_ne hi] at ha
      exact .inl ⟨hi, ha⟩
  refine ⟨?_, ?_, ?_, ?_, ?_⟩
  · have hfree : ∀ {o k}, k ∈ fresh → s.Holds o k → o = some id := fun hk hholds =>
      h.holder_of_free (hpicked.free _ hk).2.1
        (fun hmem => (hpicked.free _ hk).1 (List.mem_append_left _ hmem)) hquiet hholds
    have hcases : ∀ {o k}, Holds
        { s with
          pending := picks.pending
          sticky := Function.update s.sticky id picks.newSticky
          assigned := Function.update s.assigned id
            (fresh.map fun k => ⟨(daemonProto k.1, k.2), s.now + cfg.ttl⟩) } o k →
        s.Holds o k ∨ o = some id ∧ k ∈ fresh := by
      rintro o k (⟨i, rfl, a, ha, rfl⟩ | hpub)
      · rcases hassigned ha with ⟨-, hold⟩ | ⟨rfl, hk, -⟩
        · exact .inl (.inl ⟨i, rfl, a, hold, rfl⟩)
        · exact .inr ⟨rfl, hk⟩
      · exact .inl (.inr hpub)
    intro o o' k hk hk'
    rcases hcases hk with hold | ⟨rfl, hfresh⟩ <;> rcases hcases hk' with hold' | ⟨rfl, hfresh'⟩
    · exact h.exclusive o o' k hold hold'
    · exact hfree hfresh' hold
    · exact (hfree hfresh hold').symm
    · rfl
  · intro i a ha
    rcases hassigned ha with ⟨-, hold⟩ | ⟨rfl, hk, hdeadline⟩
    · exact h.reserved_after hpicked hquiet hold
    · exact ⟨_, hpicked.marked _ hk, rfl, rfl, hdeadline.le⟩
  · intro i a ha
    rcases hassigned ha with ⟨-, hold⟩ | ⟨rfl, -, hdeadline⟩
    · exact h.current i a hold
    · rw [hdeadline]
      exact ⟨lt_add_of_pos_right _ cfg.ttl_pos, le_refl _⟩
  · intro i a ha
    rcases hassigned ha with ⟨-, hold⟩ | ⟨rfl, hk, -⟩
    · exact h.plain i a hold
    · exact hproto _ hk
  · intro i e he
    dsimp only at he
    by_cases hi : i = id
    · subst hi
      rw [Function.update_self] at he
      exact (hpicked.sticky e he).resolve_left fun hnone => (by cases hnone)
    · rw [Function.update_of_ne hi] at he
      exact h.sticky i e he

theorem published_newContainer {id : String} {keys : List Key} {k : Key}
    (h : k ∈ (newContainer id keys).published) : ∃ k' ∈ keys, k = (daemonProto k'.1, k'.2) := by
  obtain ⟨spec, hspec, hkey⟩ := List.mem_filterMap.mp h
  obtain ⟨k', hk', rfl⟩ := List.mem_map.mp hspec
  exact ⟨k', hk', (Option.some.inj hkey).symm⟩

/-- **A new container** publishes what its instance holds. -/
theorem Sound.up (h : s.Sound cfg) (id : String) (keys : List Key) (henabled : s.Enabled (.up id keys)) :
    (s.after cfg (.up id keys)).Sound cfg := by
  have hassigned : ∀ {i a}, a ∈ (s.after cfg (.up id keys)).assigned i → a ∈ s.assigned i := by
    intro i a ha
    dsimp only [after] at ha
    by_cases hi : i = id
    · subst hi
      rw [Function.update_self] at ha
      exact (List.mem_filter.mp ha).1
    · rw [Function.update_of_ne hi] at ha
      exact ha
  refine ⟨h.exclusive.mono ?_, fun i a ha => h.reserved i a (hassigned ha),
    fun i a ha => h.current i a (hassigned ha), fun i a ha => h.plain i a (hassigned ha), h.sticky⟩
  rintro o k (⟨i, rfl, a, ha, rfl⟩ | ⟨c, hc, rfl, hk⟩)
  · exact .inl ⟨i, rfl, a, hassigned ha, rfl⟩
  · rcases List.mem_append.mp hc with hc | hc
    · exact .inr ⟨c, hc, rfl, hk⟩
    · cases List.mem_singleton.mp hc
      obtain ⟨k', hk', rfl⟩ := published_newContainer hk
      obtain ⟨a, ha, hkey⟩ := henabled k' hk'
      refine .inl ⟨id, rfl, a, ha, ?_⟩
      rw [← hkey, h.plain id a ha]

/-- **Every guarded step keeps the invariant.** -/
theorem Sound.step (h : s.Sound cfg) {s' : Node} (hstep : s.GuardedStep cfg s') : s'.Sound cfg := by
  obtain ⟨e, henabled, hguard, rfl⟩ := hstep
  cases e with
  | allocate id isTunnel ports => exact h.allocate id isTunnel ports hguard
  | up id keys => exact h.up id keys henabled
  | stop id keep =>
    refine ⟨h.exclusive.mono ?_, h.reserved, h.current, h.plain, h.sticky⟩
    rintro o k (hassigned | ⟨c, hc, hproject, hk⟩)
    · exact .inl hassigned
    · exact .inr ⟨c, (List.mem_filter.mp hc).1, hproject, hk⟩
  | tick now =>
    refine ⟨h.exclusive, h.reserved, fun i a ha => ⟨hguard i a ha, ?_⟩, h.plain, h.sticky⟩
    exact (h.current i a ha).2.trans (add_le_add_left henabled cfg.ttl)

end

/-! ## The runs -/

/-- **What every step keeps, a run keeps.** -/
theorem Sound.run {cfg : Config} {s s' : Node} (h : s.Sound cfg)
    (hrun : Relation.ReflTransGen (GuardedStep cfg) s s') : s'.Sound cfg := by
  induction hrun with
  | refl => exact h
  | tail _ hstep ih => exact ih.step hstep

/-- **No two instances hold one port**, in every state that a run reaches whose steps all
meet the condition, whatever the order of allocations, refusals, starts, stops and ticks. -/
theorem l4_ports_exclusive {cfg : Config} {s s' : Node} (hfresh : s.Fresh cfg)
    (hrun : Relation.ReflTransGen (GuardedStep cfg) s s') {i j : String} (hne : i ≠ j) (k : Key)
    (hi : s'.Holds (some i) k) : ¬ s'.Holds (some j) k :=
  fun hj => hne (Option.some.inj ((hfresh.sound.run hrun).exclusive _ _ k hi hj))

/-! ### A redeploy -/

/-- The instance `a` runs, and publishes its sticky port. -/
def deployed : Node where
  now := 0
  pending := []
  sticky := Function.update (fun _ => []) "a" [("vpn_51820", 20000)]
  running := [newContainer "a" [("udp", 20000)]]
  assigned _ := []

theorem deployed_fresh : deployed.Fresh {} where
  assigned _ := rfl
  exclusive := by
    have hone : ∀ {o k}, deployed.Holds o k → o = some "a" := by
      rintro o k (⟨i, -, a, ha, -⟩ | ⟨c, hc, rfl, -⟩)
      · cases ha
      · cases List.mem_singleton.mp hc
        rfl
    exact fun o o' k hk hk' => (hone hk).trans (hone hk').symm
  sticky i e he := by
    dsimp only [deployed] at he
    by_cases hi : i = "a"
    · subst hi
      cases List.mem_singleton.mp he
      decide
    · rw [Function.update_of_ne hi] at he
      cases he

/-- The one L4 port of each instance. -/
def vpnPort : List L4Port := [{ name := "vpn_51820", proto := "udp" }]

/-- The state after some events. -/
def afterAll (events : List Event) : Node := events.foldl (after {}) deployed

/-- A redeploy of `a`, and a first start of `b` once the old container has stopped. -/
def calmEvents : List Event :=
  [.allocate "a" false vpnPort, .stop "a" fun _ => false, .allocate "b" false vpnPort]

theorem calmEvents_run : Relation.ReflTransGen (GuardedStep {}) deployed (afterAll calmEvents) := by
  have hplain : ∀ p ∈ vpnPort, daemonProto p.proto = p.proto := by decide
  refine .tail (.tail (.tail .refl ⟨.allocate "a" false vpnPort, trivial, ⟨hplain, ?_⟩, rfl⟩)
    ⟨.stop "a" fun _ => false, trivial, trivial, rfl⟩)
    ⟨.allocate "b" false vpnPort, trivial, ⟨hplain, ?_⟩, rfl⟩
  · exact fun _ _ _ ha => (by cases ha)
  · rintro _ _ _ - ⟨c, hc, -⟩
    cases hc

theorem l4_ports_exclusive_redeploy :
    (afterAll calmEvents).Holds (some "a") ("udp", 20000) ∧
      ¬ (afterAll calmEvents).Holds (some "b") ("udp", 20000) := by
  have hassigned : (⟨("udp", 20000), 300⟩ : Assigned) ∈ (afterAll calmEvents).assigned "a" := by
    decide +kernel
  have hholds : (afterAll calmEvents).Holds (some "a") ("udp", 20000) :=
    .inl ⟨"a", rfl, _, hassigned, rfl⟩
  exact ⟨hholds, l4_ports_exclusive deployed_fresh calmEvents_run (by decide) _ hholds⟩

/-- The same, with a start of `b` before the old container has stopped, and one of `c`
after it. -/
def gapEvents : List Event :=
  [.allocate "a" false vpnPort, .allocate "b" false vpnPort, .stop "a" fun _ => false,
    .allocate "c" false vpnPort]

/-- **The gap of a redeploy**: `a` is assigned its port again, and so is `c`. -/
theorem redeploy_gap : deployed.Fresh {} ∧
    Relation.ReflTransGen (Step {}) deployed (afterAll gapEvents) ∧
    (afterAll gapEvents).now = 0 ∧
    (afterAll gapEvents).Holds (some "a") ("udp", 20000) ∧
    (afterAll gapEvents).Holds (some "c") ("udp", 20000) := by
  have hrun : Relation.ReflTransGen (Step {}) deployed (afterAll gapEvents) :=
    .tail (.tail (.tail (.tail .refl ⟨.allocate "a" false vpnPort, trivial, rfl⟩)
      ⟨.allocate "b" false vpnPort, trivial, rfl⟩) ⟨.stop "a" fun _ => false, trivial, rfl⟩)
      ⟨.allocate "c" false vpnPort, trivial, rfl⟩
  have ha : (⟨("udp", 20000), 300⟩ : Assigned) ∈ (afterAll gapEvents).assigned "a" := by
    decide +kernel
  have hc : (⟨("udp", 20000), 300⟩ : Assigned) ∈ (afterAll gapEvents).assigned "c" := by
    decide +kernel
  exact ⟨deployed_fresh, hrun, by decide +kernel, .inl ⟨"a", rfl, _, ha, rfl⟩, .inl ⟨"c", rfl, _, hc, rfl⟩⟩

end Node

end Greffer.L4

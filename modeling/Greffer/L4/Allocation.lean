import Greffer.L4.Exclusive

/-! # What one allocation assigns, and what it leaves

A critical section goes through the L4 ports of a request in order.  Each gets its own
number of the sticky file if no other instance holds it, and the lowest free one of the
range otherwise, and is reserved at once (`pick_cases`).

**What is assigned is free** unless the sticky file says otherwise: the ports that the
daemon shows are read off in the range only, so a sticky number of another range is taken
for free although another project publishes it.  That is the only way where each protocol
has one spelling (`assigned_free_iff`).  The daemon's is in lower case and a request's is not
changed, so a port of `UDP` does not see what is taken of `udp` (`misspelled_collides`).

**A refused allocation** writes no sticky file.  It leaves the reservations of the ports
before the refused one, which nothing takes back before their deadline
(`failed_allocation_leaves`).
-/
namespace Greffer.L4

/-! ## One port -/

section
variable {cfg : Config} {s : Section} {batch : List Key} {p : L4Port} {port : Nat}

theorem lowestFreePort_lowest {taken : Nat → Bool} (h : lowestFreePort cfg taken = some port)
    {n : Nat} (hn : cfg.rangeStart ≤ n) (hlt : n < port) : taken n = true := by
  have hbefore := (List.find?_range'_eq_some.mp h).2.2 n hn hlt
  simpa using hbefore

theorem lowestFreePort_none (cfg : Config) (taken : Nat → Bool) :
    lowestFreePort cfg taken = none ↔ ∀ n, cfg.InRange n → taken n = true := by
  rw [lowestFreePort, List.find?_eq_none]
  constructor
  · intro h n hn
    have htaken := h n (List.mem_range'_1.mpr ⟨hn.1, by have := hn.2; omega⟩)
    simpa using htaken
  · intro h n hn
    rw [List.mem_range'_1] at hn
    simp [h n ⟨hn.1, by omega⟩]

/-- The port's own number is the sticky file's, and nothing holds it. -/
def Section.Keeps (s : Section) (batch : List Key) (p : L4Port) (port : Nat) : Prop :=
  s.sticky.lookup p.name = some port ∧ (p.proto, port) ∉ s.reserved ++ batch

/-- The port has no number that it can keep. -/
def Section.Fresh (s : Section) (batch : List Key) (p : L4Port) : Prop :=
  ∀ prev, s.sticky.lookup p.name = some prev → (p.proto, prev) ∈ s.reserved ++ batch

/-- The port is refused: it has no number that it can keep, and either must not be rotated or
finds the range full. -/
def Section.Blocked (cfg : Config) (s : Section) (batch : List Key) (p : L4Port) : Prop :=
  s.Fresh batch p ∧
    ((s.sticky.lookup p.name).isSome = true ∧ p.samePort = true ∧ s.isTunnel = false ∨
      ∀ n, cfg.InRange n → (p.proto, n) ∈ s.reserved ++ batch)

theorem Section.pick_keeps (h : s.Keeps batch p port) : s.pick cfg batch p = .ok port := by
  unfold Section.pick
  simp only [h.1]
  rw [if_pos]
  simpa using h.2

/-- A fresh port, by the number that the range has for it. -/
theorem Section.pick_fresh (h : s.Fresh batch p) :
    s.pick cfg batch p =
      if (s.sticky.lookup p.name).isSome && p.samePort && !s.isTunnel then
        .error (.samePortConflict p.name ((s.sticky.lookup p.name).getD 0))
      else match lowestFreePort cfg fun n => (s.reserved ++ batch).contains (p.proto, n) with
        | some port => .ok port
        | none => .error (.portRangeExhausted cfg.rangeStart cfg.rangeEnd) := by
  unfold Section.pick
  cases hlookup : s.sticky.lookup p.name with
  | none => exact (if_neg Bool.false_ne_true).symm
  | some prev =>
    have htaken : (s.reserved ++ batch).contains (p.proto, prev) = true := by
      simpa using h prev hlookup
    have hkept : ¬ (!(s.reserved ++ batch).contains (p.proto, prev)) = true := by
      rw [htaken]
      exact Bool.false_ne_true
    exact if_neg hkept

theorem Section.keeps_or_fresh (s : Section) (batch : List Key) (p : L4Port) :
    (∃ port, s.Keeps batch p port) ∨ s.Fresh batch p := by
  by_cases h : ∃ port, s.Keeps batch p port
  · exact .inl h
  · refine .inr fun prev hprev => ?_
    by_contra hfree
    exact h ⟨prev, hprev, hfree⟩

/-- **How a port comes by its number.** -/
theorem Section.pick_cases (h : s.pick cfg batch p = .ok port) :
    s.Keeps batch p port ∨
      s.Fresh batch p ∧ cfg.InRange port ∧ (p.proto, port) ∉ s.reserved ++ batch ∧
        ∀ n, cfg.rangeStart ≤ n → n < port → (p.proto, n) ∈ s.reserved ++ batch := by
  rcases s.keeps_or_fresh batch p with ⟨own, hkeeps⟩ | hfresh
  · rw [Section.pick_keeps hkeeps] at h
    cases h
    exact .inl hkeeps
  · refine .inr ⟨hfresh, ?_⟩
    rw [Section.pick_fresh hfresh] at h
    split at h
    · cases h
    · split at h
      · rename_i found hfound
        cases h
        obtain ⟨hrange, hfree⟩ := lowestFreePort_some hfound
        refine ⟨hrange, by simpa using hfree, fun n hn hlt => ?_⟩
        have hlowest := lowestFreePort_lowest hfound hn hlt
        simpa using hlowest
      · cases h

theorem Section.pick_free (h : s.pick cfg batch p = .ok port) :
    (p.proto, port) ∉ s.reserved ++ batch := by
  rcases Section.pick_cases h with hkeeps | ⟨-, -, hfree, -⟩
  · exact hkeeps.2
  · exact hfree

/-- **When a port is refused.** -/
theorem Section.pick_error_iff : (∃ e, s.pick cfg batch p = .error e) ↔ s.Blocked cfg batch p := by
  rcases s.keeps_or_fresh batch p with ⟨own, hkeeps⟩ | hfresh
  · rw [Section.pick_keeps hkeeps]
    refine ⟨fun ⟨e, h⟩ => (by cases h), fun h => absurd (h.1 own hkeeps.1) hkeeps.2⟩
  · rw [Section.pick_fresh hfresh, Section.Blocked, and_iff_right hfresh]
    split
    · rename_i hpinned
      simp only [Bool.and_eq_true, Bool.not_eq_true'] at hpinned
      exact ⟨fun _ => .inl ⟨hpinned.1.1, hpinned.1.2, hpinned.2⟩, fun _ => ⟨_, rfl⟩⟩
    · rename_i hfree
      simp only [Bool.and_eq_true, Bool.not_eq_true', not_and] at hfree
      have hrange := lowestFreePort_none cfg
        fun n => (s.reserved ++ batch).contains (p.proto, n)
      simp only [List.contains_iff_mem] at hrange
      rw [← hrange, or_iff_right (fun h => hfree ⟨h.1, h.2.1⟩ h.2.2)]
      cases lowestFreePort cfg fun n => (s.reserved ++ batch).contains (p.proto, n) <;> simp

end

/-! ## The loop -/

section
variable {cfg : Config} {s : Section}

/-- What the loop makes of its state at one assigned port. -/
def Section.take (cfg : Config) (s : Section) (p : L4Port) (port : Nat) (picks : Picks) : Picks where
  batch := picks.batch ++ [(p.proto, port)]
  pending := markPending cfg s.now s.instanceId (p.proto, port) picks.pending
  newSticky := upsert picks.newSticky p.name port

theorem Section.pickAll_cons_ok {p : L4Port} {rest : List L4Port} {start : Picks} {port : Nat}
    (h : s.pick cfg start.batch p = .ok port) :
    s.pickAll cfg (p :: rest) start = s.pickAll cfg rest (s.take cfg p port start) := by
  rw [Section.pickAll, h]
  rfl

theorem Section.pickAll_cons_error {p : L4Port} {rest : List L4Port} {start : Picks}
    {e : L4PortError} (h : s.pick cfg start.batch p = .error e) :
    s.pickAll cfg (p :: rest) start = (start, some e) := by
  rw [Section.pickAll, h]

/-- The loop goes on where the ports before have left it. -/
theorem Section.pickAll_append {before after : List L4Port} {start picks : Picks}
    (h : s.pickAll cfg before start = (picks, none)) :
    s.pickAll cfg (before ++ after) start = s.pickAll cfg after picks := by
  induction before generalizing start with
  | nil =>
    cases h
    rfl
  | cons p rest ih =>
    cases hpick : s.pick cfg start.batch p with
    | error e =>
      rw [Section.pickAll_cons_error hpick] at h
      cases h
    | ok port =>
      rw [Section.pickAll_cons_ok hpick] at h
      rw [List.cons_append, Section.pickAll_cons_ok hpick, ih h]

/-- **A refused allocation** has assigned the ports before the refused one, and stands
where they left it. -/
theorem Section.pickAll_error {ports : List L4Port} {start picks : Picks} {e : L4PortError}
    (h : s.pickAll cfg ports start = (picks, some e)) :
    ∃ before p after, ports = before ++ p :: after ∧
      s.pickAll cfg before start = (picks, none) ∧ s.pick cfg picks.batch p = .error e := by
  induction ports generalizing start with
  | nil => cases h
  | cons p rest ih =>
    cases hpick : s.pick cfg start.batch p with
    | error e' =>
      rw [Section.pickAll_cons_error hpick] at h
      cases h
      exact ⟨[], p, rest, rfl, rfl, hpick⟩
    | ok port =>
      rw [Section.pickAll_cons_ok hpick] at h
      obtain ⟨before, q, after, rfl, hbefore, hq⟩ := ih h
      exact ⟨p :: before, q, after, rfl, (Section.pickAll_cons_ok hpick).trans hbefore, hq⟩

/-- What a loop has assigned to its ports, in order, all of them new. -/
structure Assigns (cfg : Config) (s : Section) (ports : List L4Port) (start picks : Picks)
    (keys : List Key) : Prop where
  batch : picks.batch = start.batch ++ keys
  named : List.Forall₂ (fun p k => k.1 = p.proto ∧
    (cfg.InRange k.2 ∨ s.sticky.lookup p.name = some k.2)) ports keys
  free : ∀ k ∈ keys, k ∉ s.reserved ++ start.batch
  nodup : keys.Nodup
  /-- A number of the sticky file that no other instance holds is assigned in the end. -/
  own : ∀ p ∈ ports, ∀ prev, s.sticky.lookup p.name = some prev → (p.proto, prev) ∉ s.reserved →
    (p.proto, prev) ∈ picks.batch
  pending : ∀ r, r ∈ picks.pending ↔
    (r ∈ start.pending ∧ r.key ∉ keys) ∨ r.key ∈ keys ∧ r.expiry = s.now + cfg.ttl ∧
      r.owner = s.instanceId

theorem Section.pickAll_assigns {ports : List L4Port} {start picks : Picks}
    (h : s.pickAll cfg ports start = (picks, none)) :
    ∃ keys, Assigns cfg s ports start picks keys := by
  induction ports generalizing start with
  | nil =>
    cases h
    exact ⟨[], (List.append_nil _).symm, .nil, fun _ hk => (by cases hk), List.nodup_nil,
      fun _ hp => (by cases hp), by simp⟩
  | cons p rest ih =>
    cases hpick : s.pick cfg start.batch p with
    | error e =>
      rw [Section.pickAll_cons_error hpick] at h
      cases h
    | ok port =>
      rw [Section.pickAll_cons_ok hpick] at h
      obtain ⟨keys, hkeys⟩ := ih h
      have hfree := Section.pick_free hpick
      have hbatch : picks.batch = start.batch ++ (p.proto, port) :: keys := by
        rw [hkeys.batch, Section.take, List.append_assoc]
        rfl
      -- the key is not among those of the rest, which find it in their batch
      have hlater : (p.proto, port) ∉ keys := fun hmem => hkeys.free _ hmem
        (List.mem_append_right _ (List.mem_append_right _ (List.mem_singleton.mpr rfl)))
      refine ⟨(p.proto, port) :: keys, hbatch, .cons ⟨rfl, ?_⟩ hkeys.named, ?_, ?_, ?_, ?_⟩
      · rcases Section.pick_cases hpick with hkeeps | ⟨-, hrange, -⟩
        · exact .inr hkeeps.1
        · exact .inl hrange
      · intro k hk
        rcases List.mem_cons.mp hk with rfl | hk
        · exact hfree
        · intro hmem
          refine hkeys.free k hk ?_
          rw [Section.take, ← List.append_assoc]
          exact List.mem_append_left _ hmem
      · exact List.nodup_cons.mpr ⟨hlater, hkeys.nodup⟩
      · intro q hq prev hprev hout
        rcases List.mem_cons.mp hq with rfl | hq
        · rw [hbatch]
          -- the sticky number: taken in this batch already, or kept now
          by_cases hheld : (q.proto, prev) ∈ start.batch
          · exact List.mem_append_left _ hheld
          · have hkeeps : s.Keeps start.batch q prev :=
              ⟨hprev, fun hmem => (List.mem_append.mp hmem).elim hout hheld⟩
            rw [Section.pick_keeps hkeeps] at hpick
            cases hpick
            exact List.mem_append_right _ List.mem_cons_self
        · exact hkeys.own q hq prev hprev hout
      · intro r
        rw [hkeys.pending, Section.take, mem_markPending, List.mem_cons]
        constructor
        · rintro (⟨⟨hr, hne⟩ | rfl, hout⟩ | ⟨hmem, hrest⟩)
          · exact .inl ⟨hr, not_or.mpr ⟨hne, hout⟩⟩
          · exact .inr ⟨.inl rfl, rfl, rfl⟩
          · exact .inr ⟨.inr hmem, hrest⟩
        · rintro (⟨hr, hout⟩ | ⟨hkey | hmem, hexpiry, howner⟩)
          · rw [not_or] at hout
            exact .inl ⟨.inl ⟨hr, hout.1⟩, hout.2⟩
          · refine .inl ⟨.inr ?_, hkey ▸ hlater⟩
            obtain ⟨key, expiry, owner⟩ := r
            cases hkey
            cases hexpiry
            cases howner
            rfl
          · exact .inr ⟨hmem, hexpiry, howner⟩

/-- A range with a number left over refuses no port that is stuck to none. -/
theorem Section.pick_room {batch : List Key} {p : L4Port} (hsticky : s.sticky = [])
    (hroom : (s.reserved ++ batch).length < cfg.rangeEnd + 1 - cfg.rangeStart) :
    ∃ port, s.pick cfg batch p = .ok port := by
  cases hpick : s.pick cfg batch p with
  | ok port => exact ⟨port, rfl⟩
  | error e =>
    obtain ⟨-, hpinned | hfull⟩ := Section.pick_error_iff.mp ⟨e, hpick⟩
    · rw [hsticky] at hpinned
      cases hpinned.1
    · -- the whole range is among what is taken
      have hnodup : ((List.range' cfg.rangeStart (cfg.rangeEnd + 1 - cfg.rangeStart)).map
          fun n => (p.proto, n)).Nodup :=
        List.Nodup.map (fun _ _ h => (Prod.mk.inj h).2) List.nodup_range'
      have hsub : ((List.range' cfg.rangeStart (cfg.rangeEnd + 1 - cfg.rangeStart)).map
          fun n => (p.proto, n)) ⊆ s.reserved ++ batch := by
        intro k hk
        obtain ⟨n, hn, rfl⟩ := List.mem_map.mp hk
        rw [List.mem_range'_1] at hn
        exact hfull n ⟨hn.1, by omega⟩
      have hlength := hnodup.length_le_of_subset hsub
      rw [List.length_map, List.length_range'] at hlength
      omega

theorem Section.pickAll_room {ports : List L4Port} {start : Picks} (hsticky : s.sticky = [])
    (hroom : (s.reserved ++ start.batch).length + ports.length ≤
      cfg.rangeEnd + 1 - cfg.rangeStart) :
    ∃ picks, s.pickAll cfg ports start = (picks, none) := by
  induction ports generalizing start with
  | nil => exact ⟨start, rfl⟩
  | cons p rest ih =>
    rw [List.length_cons] at hroom
    have hnow : (s.reserved ++ start.batch).length < cfg.rangeEnd + 1 - cfg.rangeStart := by omega
    obtain ⟨port, hpick⟩ := s.pick_room (p := p) hsticky hnow
    rw [Section.pickAll_cons_ok hpick]
    apply ih
    simp only [Section.take, List.length_append, List.length_singleton] at hroom ⊢
    omega

/-- Of each protocol of the ports, the first number of the range is taken in the end. -/
theorem Section.pickAll_lowest {ports : List L4Port} {start picks : Picks}
    (hsticky : s.sticky = []) (h : s.pickAll cfg ports start = (picks, none)) {p : L4Port} (hp : p ∈ ports) :
    (p.proto, cfg.rangeStart) ∈ s.reserved ++ picks.batch := by
  induction ports generalizing start with
  | nil => cases hp
  | cons q rest ih =>
    cases hpick : s.pick cfg start.batch q with
    | error e =>
      rw [Section.pickAll_cons_error hpick] at h
      cases h
    | ok port =>
      rw [Section.pickAll_cons_ok hpick] at h
      rcases List.mem_cons.mp hp with rfl | hp
      · have hnow : (p.proto, cfg.rangeStart) ∈ s.reserved ++ (s.take cfg p port start).batch := by
          rw [Section.take, ← List.append_assoc]
          rcases Section.pick_cases hpick with hkeeps | ⟨-, hin, -, hlowest⟩
          · rw [Section.Keeps, hsticky] at hkeeps
            cases hkeeps.1
          · by_cases hfirst : port = cfg.rangeStart
            · subst hfirst
              exact List.mem_append_right _ List.mem_cons_self
            · have hlt : cfg.rangeStart < port := by
                have := hin.1
                omega
              exact List.mem_append_left _ (hlowest _ (le_refl _) hlt)
        obtain ⟨keys, hkeys⟩ := Section.pickAll_assigns h
        rw [hkeys.batch, ← List.append_assoc]
        exact List.mem_append_left _ hnow
      · exact ih h hp

end

/-! ## The ports that a call assigns -/

/-- The port, its protocol as the daemon writes it. -/
def daemonKey (k : Key) : Key := (daemonProto k.1, k.2)

namespace Node
variable (cfg : Config) (s : Node)

/-- The host ports that `get_greffon_info` gives the L4 ports of a request, in order. -/
def assigns (id : String) (isTunnel : Bool) (ports : List L4Port) : Except L4PortError (List Key) :=
  match (s.enter cfg id isTunnel).pickAll cfg ports { pending := s.kept cfg id } with
  | (_, some e) => .error e
  | (picks, none) => .ok picks.batch

/-- What an allocation should assign: ports that no container of another project publishes,
that are not reserved for another instance, and that differ.  Protocols that the daemon
writes alike are one protocol. -/
structure AssignsFree (id : String) (keys : List Key) : Prop where
  unpublished : ∀ k ∈ keys, ∀ o, o ≠ some id → ¬ s.Publishes o (daemonKey k)
  unreserved : ∀ k ∈ keys, ∀ r ∈ s.pending, daemonKey r.key = daemonKey k → s.now < r.expiry →
    r.owner = id
  nodup : (keys.map daemonKey).Nodup

/-- **One spelling**: the protocols of the request differ from one another in more than their
spelling; what the daemon publishes in the range for others and what is reserved for them is
of a protocol spelled as in the request. -/
structure OneSpelling (id : String) (ports : List L4Port) : Prop where
  request : ∀ p ∈ ports, ∀ q ∈ ports, daemonProto p.proto = daemonProto q.proto →
    p.proto = q.proto
  published : ∀ p ∈ ports, ∀ k ∈ s.occupied cfg id, k.1 = daemonProto p.proto → k.1 = p.proto
  reserved : ∀ p ∈ ports, ∀ r ∈ s.pending, s.now < r.expiry → r.owner ≠ id →
    daemonProto r.key.1 = daemonProto p.proto → r.key.1 = p.proto

variable {cfg s} {id : String} {isTunnel : Bool} {ports : List L4Port}

theorem assigns_ok {keys : List Key} (h : s.assigns cfg id isTunnel ports = .ok keys) :
    ∃ picks, (s.enter cfg id isTunnel).pickAll cfg ports { pending := s.kept cfg id } =
      (picks, none) ∧ Assigns cfg (s.enter cfg id isTunnel) ports { pending := s.kept cfg id }
        picks keys := by
  unfold assigns at h
  split at h
  · cases h
  · rename_i picks hpicks
    cases h
    obtain ⟨keys, hkeys⟩ := Section.pickAll_assigns hpicks
    have hbatch : picks.batch = keys := hkeys.batch
    exact ⟨picks, hpicks, hbatch ▸ hkeys⟩

/-- What is reserved in a section: a port of the range that another project publishes, and
a port that another instance has reserved. -/
theorem mem_reserved {k : Key} : k ∈ (s.enter cfg id isTunnel).reserved ↔
    k ∈ s.occupied cfg id ∨ ∃ r ∈ s.pending, r.key = k ∧ s.now < r.expiry ∧ r.owner ≠ id := by
  rw [enter, List.mem_append]
  constructor
  · rintro (h | h)
    · exact .inl h
    · obtain ⟨r, hr, rfl⟩ := List.mem_map.mp h
      obtain ⟨hr, howner⟩ := List.mem_filter.mp hr
      obtain ⟨hr, hexpiry, -⟩ := mem_kept.mp hr
      exact .inr ⟨r, hr, rfl, hexpiry, by simpa using howner⟩
  · rintro (h | ⟨r, hr, rfl, hexpiry, howner⟩)
    · exact .inl h
    · by_cases hvisible : r.key ∈ s.occupied cfg id
      · exact .inl hvisible
      · refine .inr (List.mem_map_of_mem (List.mem_filter.mpr ⟨?_, decide_eq_true howner⟩))
        exact mem_kept.mpr ⟨hr, hexpiry, hvisible⟩

/-- Whose port an assigned one is. -/
theorem assigned_proto {picks : Picks} {keys : List Key}
    (h : Assigns cfg (s.enter cfg id isTunnel) ports { pending := s.kept cfg id } picks keys)
    {k : Key} (hk : k ∈ keys) : ∃ p ∈ ports, p.proto = k.1 ∧
      (cfg.InRange k.2 ∨ (s.sticky id).lookup p.name = some k.2) := by
  obtain ⟨p, hp, hproto, hfrom⟩ := exists_left_of_forall₂ h.named hk
  exact ⟨p, hp, hproto.symm, hfrom⟩

/-- **With one spelling of each protocol, an allocation assigns free ports exactly when no L4
port of it is stuck to a number out of the range that another project publishes**, unless
another instance has the number reserved. -/
theorem assigned_free_iff (hspell : s.OneSpelling cfg id ports) {keys : List Key}
    (h : s.assigns cfg id isTunnel ports = .ok keys) :
    s.AssignsFree id keys ↔ ∀ p ∈ ports, ∀ prev, (s.sticky id).lookup p.name = some prev →
      ¬ cfg.InRange prev → (∃ o, o ≠ some id ∧ s.Publishes o (daemonProto p.proto, prev)) →
      ∃ r ∈ s.pending, r.key = (p.proto, prev) ∧ s.now < r.expiry ∧ r.owner ≠ id := by
  obtain ⟨picks, -, hkeys⟩ := assigns_ok h
  have hbatch : picks.batch = keys := hkeys.batch
  have hout : ∀ k ∈ keys, k ∉ (s.enter cfg id isTunnel).reserved :=
    fun k hk hmem => hkeys.free k hk (List.mem_append_left _ hmem)
  constructor
  · intro hfree p hp prev hprev hrange hpublished
    obtain ⟨o, ho, hpublished⟩ := hpublished
    by_contra hquiet
    refine hfree.unpublished (p.proto, prev) ?_ o ho hpublished
    rw [← hbatch]
    refine hkeys.own p hp prev hprev fun hmem => ?_
    rcases mem_reserved.mp hmem with hocc | hheld
    · exact hrange (mem_occupied.mp hocc).1
    · exact hquiet hheld
  · intro hsticky
    refine ⟨?_, ?_, ?_⟩
    · intro k hk o ho hpublished
      obtain ⟨p, hp, hproto, hfrom⟩ := assigned_proto hkeys hk
      refine hout k hk (mem_reserved.mpr ?_)
      by_cases hrange : cfg.InRange k.2
      · have hocc : daemonKey k ∈ s.occupied cfg id := mem_occupied.mpr ⟨hrange, o, ho, hpublished⟩
        have hplain : daemonProto k.1 = p.proto :=
          hspell.published p hp _ hocc (congrArg daemonProto hproto.symm)
        have hsame : daemonKey k = k := Prod.ext (hplain.trans hproto) rfl
        exact .inl (hsame ▸ hocc)
      · -- a port out of the range is one of the sticky file's
        have hpublished' : s.Publishes o (daemonProto p.proto, k.2) := by
          rw [hproto]
          exact hpublished
        obtain ⟨r, hr, hrkey, hrest⟩ := hsticky p hp k.2 (hfrom.resolve_left hrange) hrange
          ⟨o, ho, hpublished'⟩
        exact .inr ⟨r, hr, hrkey.trans (Prod.ext hproto rfl), hrest⟩
    · intro k hk r hr hsame hexpiry
      obtain ⟨p, hp, hproto, -⟩ := assigned_proto hkeys hk
      obtain ⟨hspelled, hport⟩ := Prod.mk.inj hsame
      by_contra howner
      refine hout k hk (mem_reserved.mpr (.inr ⟨r, hr, ?_, hexpiry, howner⟩))
      rw [← hproto] at hspelled
      exact Prod.ext ((hspell.reserved p hp r hr hexpiry howner hspelled).trans hproto) hport
    · refine hkeys.nodup.map_on fun k hk k' hk' hsame => ?_
      obtain ⟨p, hp, hproto, -⟩ := assigned_proto hkeys hk
      obtain ⟨q, hq, hproto', -⟩ := assigned_proto hkeys hk'
      obtain ⟨hspelled, hport⟩ := Prod.mk.inj hsame
      rw [← hproto, ← hproto'] at hspelled
      exact Prod.ext (hproto ▸ hproto' ▸ hspell.request p hp q hq hspelled) hport

theorem assigned_free_deployed : ∃ keys, deployed.assigns {} "a" false vpnPort = .ok keys ∧
    deployed.AssignsFree "a" keys := by
  have hassigned : deployed.assigns {} "a" false vpnPort = .ok [("udp", 20000)] := by
    decide +kernel
  have hspell : deployed.OneSpelling {} "a" vpnPort := by
    refine ⟨?_, ?_, ?_⟩
    · intro p hp q hq _
      cases List.mem_singleton.mp hp
      cases List.mem_singleton.mp hq
      rfl
    · intro p hp k _ hproto
      cases List.mem_singleton.mp hp
      exact hproto
    · exact fun _ _ _ hr => (by cases hr)
  refine ⟨_, hassigned, (assigned_free_iff hspell hassigned).mpr ?_⟩
  intro p hp prev hprev hrange
  cases List.mem_singleton.mp hp
  cases hprev
  exact absurd (by decide) hrange

/-- The range has been moved: the sticky port of `a` is out of it, and `b` publishes it. -/
def moved : Node :=
  { deployed with
    sticky := Function.update (fun _ => []) "a" [("vpn_51820", 30000)]
    running := [newContainer "b" [("udp", 30000)]] }

/-- **A number of another range is taken for free.** -/
theorem moved_range_collides : ¬ ∀ (cfg : Config) (s : Node) (id : String) (isTunnel : Bool)
    (ports : List L4Port) (keys : List Key), s.assigns cfg id isTunnel ports = .ok keys →
    s.AssignsFree id keys := by
  intro hall
  have hassigned : moved.assigns {} "a" false vpnPort = .ok [("udp", 30000)] := by
    decide +kernel
  have hfree := hall {} moved "a" false vpnPort _ hassigned
  refine hfree.unpublished ("udp", 30000) List.mem_cons_self (some "b") (by decide) ?_
  exact ⟨_, List.mem_cons_self, rfl, by decide⟩

/-- Nothing runs, and nothing is reserved. -/
def idle : Node where
  now := 0
  pending := []
  sticky _ := []
  running := []
  assigned _ := []

/-- **A protocol that is not spelled as the daemon does**, whatever else is asked for: there is
a node without reservations and sticky files where the port of it gets a number that another
project publishes. -/
theorem misspelled_collides {p : L4Port} (hp : p ∈ ports) (hproto : daemonProto p.proto ≠ p.proto)
    (id : String) (isTunnel : Bool) :
    ∃ (cfg : Config) (s : Node) (keys : List Key), s.pending = [] ∧ (∀ i, s.sticky i = []) ∧
      s.assigns cfg id isTunnel ports = .ok keys ∧ ¬ s.AssignsFree id keys := by
  -- another project publishes the first number of a range that is long enough
  have hother : id ++ "'" ≠ id := by
    intro h
    have hlength := congrArg String.length h
    rw [String.length_append] at hlength
    have hone : String.length "'" = 1 := rfl
    omega
  let cfg : Config := { rangeStart := 0, rangeEnd := ports.length }
  let s : Node := { idle with running := [newContainer (id ++ "'") [(p.proto, 0)]] }
  have hrange : cfg.InRange 0 := ⟨le_refl 0, Nat.zero_le _⟩
  have hpublishes : s.Publishes (some (id ++ "'")) (daemonKey (p.proto, 0)) :=
    ⟨_, List.mem_singleton.mpr rfl, rfl, List.mem_singleton.mpr rfl⟩
  have hreserved : (s.enter cfg id isTunnel).reserved = [daemonKey (p.proto, 0)] := by
    have hproject : s.running.filter (fun c => c.project ≠ some id) = s.running :=
      List.filter_cons_of_pos (decide_eq_true fun h => hother (Option.some.inj h))
    have hocc : s.occupied cfg id = [daemonKey (p.proto, 0)] := by
      rw [occupied, publishedL4Ports, hproject]
      exact List.filter_cons_of_pos (decide_eq_true hrange)
    show s.occupied cfg id ++ [] = _
    rw [hocc, List.append_nil]
  obtain ⟨picks, hpicks⟩ : ∃ picks, (s.enter cfg id isTunnel).pickAll cfg ports
      { pending := s.kept cfg id } = (picks, none) := by
    refine Section.pickAll_room rfl ?_
    rw [hreserved]
    simp only [cfg, List.append_nil, List.length_singleton]
    omega
  refine ⟨cfg, s, picks.batch, rfl, fun _ => rfl, ?_, fun hfree => ?_⟩
  · rw [assigns, hpicks]
  · refine hfree.unpublished (p.proto, 0) ?_ _ (fun h => hother (Option.some.inj h)) hpublishes
    have htaken := Section.pickAll_lowest rfl hpicks hp
    rw [hreserved] at htaken
    refine (List.mem_append.mp htaken).resolve_left fun hmem => ?_
    exact hproto (congrArg Prod.fst (List.mem_singleton.mp hmem)).symm

/-! ## A refused allocation -/

end Node

/-- Why the L4 ports of a request get no host ports. -/
inductive AllocationError where
  /-- `L4PortsUnavailable`: the daemon cannot be asked. -/
  | unavailable
  | refused (e : L4PortError)
  deriving DecidableEq

namespace Node
variable (cfg : Config) (s : Node)

/-- The L4 allocation of `get_greffon_info`, with a daemon that answers or does not.  A
request without L4 ports does not come here. -/
def allocateL4 (answers : Bool) (id : String) (isTunnel : Bool) (ports : List L4Port) :
    Node × Option AllocationError :=
  if ports.isEmpty then (s, none)
  else if answers then
    ((s.allocate cfg id isTunnel ports).1,
      (s.allocate cfg id isTunnel ports).2.map .refused)
  else (s, some .unavailable)

/-- What the next allocation of an instance sees reserved. -/
def seen (pending : List Reservation) (id : String) (now : Rat) (occupied : List Key) : List Key :=
  (pendingAndPrune now occupied id pending).1

/-- What a refused allocation should leave: the sticky files, and what any other instance
sees reserved at any later time, but for what the daemon shows. -/
structure NoTrace (s' : Node) (id : String) : Prop where
  sticky : s'.sticky = s.sticky
  seen : ∀ j, j ≠ id → ∀ t, s.now ≤ t → ∀ occupied k,
    (k ∈ seen s'.pending j t occupied → k ∈ seen s.pending j t occupied) ∧
    (k ∈ seen s.pending j t occupied →
      k ∈ seen s'.pending j t occupied ∨ k ∈ s.occupied cfg id)

/-- What it leaves: the sticky files, what any other instance sees reserved at any later time
of the ports that were not assigned, and a reservation of each port that was, until its
deadline. -/
structure Leaves (s' : Node) (id : String) (keys : List Key) : Prop where
  sticky : s'.sticky = s.sticky
  others : ∀ j, j ≠ id → ∀ t, s.now ≤ t → ∀ occupied, ∀ k ∉ keys,
    (k ∈ Node.seen s'.pending j t occupied → k ∈ Node.seen s.pending j t occupied) ∧
    (k ∈ Node.seen s.pending j t occupied →
      k ∈ Node.seen s'.pending j t occupied ∨ k ∈ s.occupied cfg id)
  assigned : ∀ j, j ≠ id → ∀ t occupied, ∀ k ∈ keys,
    k ∈ Node.seen s'.pending j t occupied ↔ t < s.now + cfg.ttl ∧ k ∉ occupied

variable {cfg s}

theorem mem_seen {pending : List Reservation} {id : String} {now : Rat} {occupied : List Key}
    {k : Key} : k ∈ seen pending id now occupied ↔
      ∃ r ∈ pending, r.key = k ∧ now < r.expiry ∧ k ∉ occupied ∧ r.owner ≠ id := by
  rw [seen, pendingAndPrune, List.mem_map]
  simp only [List.mem_filter, Reservation.kept]
  constructor
  · rintro ⟨r, ⟨⟨hr, hkept⟩, howner⟩, rfl⟩
    simp only [Bool.not_eq_true', Bool.or_eq_false_iff, decide_eq_false_iff_not, not_le] at hkept
    exact ⟨r, hr, rfl, hkept.1, by simpa using hkept.2, by simpa using howner⟩
  · rintro ⟨r, hr, rfl, hexpiry, hout, howner⟩
    refine ⟨r, ⟨⟨hr, ?_⟩, decide_eq_true howner⟩, rfl⟩
    simpa [not_le] using ⟨hexpiry, hout⟩

theorem Leaves.refl (id : String) : s.Leaves cfg s id [] where
  sticky := rfl
  others _ _ _ _ _ _ _ := ⟨fun h => h, fun h => .inl h⟩
  assigned _ _ _ _ _ hk := by cases hk

/-- What some assigned ports leave of the table. -/
theorem leaves_of_assigns {id : String} {isTunnel : Bool} {ports : List L4Port} {picks : Picks}
    {keys : List Key}
    (h : Assigns cfg (s.enter cfg id isTunnel) ports { pending := s.kept cfg id } picks keys) :
    s.Leaves cfg { s with pending := picks.pending } id keys := by
  refine ⟨rfl, ?_, ?_⟩
  · intro j _ t ht occupied k hk
    constructor
    · intro hseen
      obtain ⟨r, hr, rfl, hrest⟩ := mem_seen.mp hseen
      rcases (h.pending r).mp hr with ⟨hr, -⟩ | ⟨hmem, -⟩
      · exact mem_seen.mpr ⟨r, (mem_kept.mp hr).1, rfl, hrest⟩
      · exact absurd hmem hk
    · intro hseen
      obtain ⟨r, hr, rfl, hexpiry, hrest⟩ := mem_seen.mp hseen
      by_cases hvisible : r.key ∈ s.occupied cfg id
      · exact .inr hvisible
      · refine .inl (mem_seen.mpr ⟨r, (h.pending r).mpr (.inl ⟨?_, hk⟩), rfl, hexpiry, hrest⟩)
        exact mem_kept.mpr ⟨hr, ht.trans_lt hexpiry, hvisible⟩
  · intro j hj t occupied k hk
    constructor
    · intro hseen
      obtain ⟨r, hr, rfl, hexpiry, hout, -⟩ := mem_seen.mp hseen
      rcases (h.pending r).mp hr with ⟨-, hnot⟩ | ⟨-, hdeadline, -⟩
      · exact absurd hk hnot
      · exact ⟨hdeadline ▸ hexpiry, hout⟩
    · rintro ⟨hexpiry, hout⟩
      refine mem_seen.mpr ⟨⟨k, s.now + cfg.ttl, id⟩, ?_, rfl, hexpiry, hout, fun heq => hj heq.symm⟩
      exact (h.pending _).mpr (.inr ⟨hk, rfl, rfl⟩)

/-- **A failed allocation** leaves the reservations of the L4 ports before the refused one,
and nothing else.  If the daemon cannot be asked, there are none. -/
theorem failed_allocation_leaves {answers : Bool} {id : String} {isTunnel : Bool}
    {ports : List L4Port} {s' : Node} {e : AllocationError}
    (h : s.allocateL4 cfg answers id isTunnel ports = (s', some e)) :
    ∃ before p after keys, ports = before ++ p :: after ∧
      s.assigns cfg id isTunnel before = .ok keys ∧ s.Leaves cfg s' id keys ∧
      (e = .unavailable → before = []) ∧
      ∀ refusal, e = .refused refusal →
        s.assigns cfg id isTunnel (before ++ [p]) = .error refusal := by
  unfold allocateL4 at h
  by_cases hempty : ports.isEmpty = true
  · rw [if_pos hempty] at h
    cases h
  rw [if_neg hempty] at h
  by_cases hanswers : answers = true
  · rw [if_pos hanswers] at h
    unfold allocate at h
    cases hall : (s.enter cfg id isTunnel).pickAll cfg ports { pending := s.kept cfg id } with
    | mk picks error =>
      rw [hall] at h
      cases error with
      | none => cases h
      | some refusal =>
        cases h
        obtain ⟨before, p, after, hports, hbefore, hp⟩ := Section.pickAll_error hall
        obtain ⟨keys, hkeys⟩ := Section.pickAll_assigns hbefore
        have hbatch : picks.batch = keys := hkeys.batch
        refine ⟨before, p, after, keys, hports, ?_, leaves_of_assigns hkeys, fun h => (by cases h),
          ?_⟩
        · rw [assigns, hbefore, ← hbatch]
        · rintro refusal' ⟨⟩
          rw [assigns, Section.pickAll_append hbefore, Section.pickAll_cons_error hp]
  · rw [if_neg hanswers] at h
    cases h
    have hne : ports ≠ [] := fun hnil => hempty (List.isEmpty_iff.mpr hnil)
    obtain ⟨p, rest, rfl⟩ := List.exists_cons_of_ne_nil hne
    refine ⟨[], p, rest, [], rfl, rfl, .refl id, fun _ => rfl, ?_⟩
    rintro refusal ⟨⟩

theorem default_ttl_pos : (0 : Rat) < 300 := by decide

/-- A range with one port. -/
def narrow : Config := { rangeStart := 20000, rangeEnd := 20000, ttl_pos := default_ttl_pos }

/-- Two L4 ports of one protocol. -/
def twoPorts : List L4Port :=
  [{ name := "vpn_51820", proto := "udp" }, { name := "vpn_51821", proto := "udp" }]

theorem failed_allocation_narrow :
    ∃ s', idle.allocateL4 narrow true "a" false twoPorts =
      (s', some (.refused (.portRangeExhausted 20000 20000))) ∧
    ∃ before keys, idle.assigns narrow "a" false before = .ok keys ∧
      idle.Leaves narrow s' "a" keys := by
  obtain ⟨s', hs⟩ : ∃ s', idle.allocateL4 narrow true "a" false twoPorts =
      (s', some (.refused (.portRangeExhausted 20000 20000))) := ⟨_, rfl⟩
  obtain ⟨before, p, after, keys, -, hassigned, hleaves, -⟩ := failed_allocation_leaves hs
  exact ⟨s', hs, before, keys, hassigned, hleaves⟩

/-- **The first of two ports stays reserved** for an instance that did not start. -/
theorem refused_second_reserves : ¬ ∀ (cfg : Config) (s s' : Node) (answers : Bool) (id : String)
    (isTunnel : Bool) (ports : List L4Port) (e : AllocationError),
    s.allocateL4 cfg answers id isTunnel ports = (s', some e) → s.NoTrace cfg s' id := by
  intro hall
  obtain ⟨s', hs, hpending⟩ : ∃ s', idle.allocateL4 narrow true "a" false twoPorts =
      (s', some (.refused (.portRangeExhausted 20000 20000))) ∧
      s'.pending = [⟨("udp", 20000), 0 + 300, "a"⟩] := ⟨_, rfl, rfl⟩
  have htrace := (hall _ _ _ _ _ _ _ _ hs).seen "b" (by decide) 0 (le_refl _) [] ("udp", 20000)
  have hseen : ("udp", 20000) ∈ seen s'.pending "b" 0 [] := by
    rw [hpending]
    decide +kernel
  cases htrace.1 hseen

end Node

end Greffer.L4

import Mathlib.Algebra.Order.Ring.Rat
import Greffer.Compose.Info

/-! # L4 host ports

The critical section in which a start gives its L4 ports their host ports.  What is taken
is read from two sides: the ports that the daemon's running containers of *other* projects
publish (`publishedL4Ports`), and the table of reservations of other instances
(`pendingAndPrune`), which holds a port from the moment it is handed out.  A reservation is
dropped once it is past its deadline, or **once the daemon shows its port** — whoever
publishes it.  A port keeps its number across starts through the instance's sticky file.

The protocol of a port is a text.  The daemon's is in lower case; a request's is as it is.
-/
namespace Greffer.L4
open Compose (asciiLower)

/-- A host port, in its protocol. -/
abbrev Key := String × Nat

/-- What the allocation is configured with: the range, and how long a reservation lasts,
which `_pending_ttl_seconds` makes positive. -/
structure Config where
  rangeStart : Nat := 20000
  rangeEnd : Nat := 29999
  ttl : Rat := 300
  ttl_pos : 0 < ttl := by decide

/-- The port is in the range. -/
def Config.InRange (cfg : Config) (port : Nat) : Prop := cfg.rangeStart ≤ port ∧ port ≤ cfg.rangeEnd

instance (cfg : Config) (port : Nat) : Decidable (cfg.InRange port) :=
  inferInstanceAs (Decidable (_ ∧ _))

/-! ## The daemon's view -/

/-- An entry of a container's `Ports`; only a published one has a `PublicPort`. -/
structure PortSpec where
  publicPort : Option Nat
  type : Option String
  deriving DecidableEq

/-- `(… or "tcp").lower()`. -/
def daemonProto (proto : String) : String := asciiLower (if proto = "" then "tcp" else proto)

/-- The port that an entry publishes. -/
def PortSpec.key? (spec : PortSpec) : Option Key :=
  spec.publicPort.map fun port => (daemonProto (spec.type.getD ""), port)

/-- A running container: its compose project, and its `Ports`. -/
structure Running where
  project : Option String
  ports : List PortSpec
  deriving DecidableEq

/-- The ports that a container publishes. -/
def Running.published (c : Running) : List Key := c.ports.filterMap PortSpec.key?

/-- `published_l4_ports`, of the containers the daemon lists. -/
def publishedL4Ports (cfg : Config) (excludeProject : String) (containers : List Running) :
    List Key :=
  ((containers.filter fun c => c.project ≠ some excludeProject).flatMap Running.published).filter
    fun key => cfg.InRange key.2

/-! ## Reservations -/

/-- An entry of `_pending`. -/
structure Reservation where
  key : Key
  expiry : Rat
  owner : String
  deriving DecidableEq

/-- The entry stays: it is not past its deadline, and the daemon does not show its port. -/
def Reservation.kept (now : Rat) (occupied : List Key) (r : Reservation) : Bool :=
  !(decide (r.expiry ≤ now) || occupied.contains r.key)

/-- `pending_and_prune`: the ports that other instances have reserved, and what is left of
the table. -/
def pendingAndPrune (now : Rat) (occupied : List Key) (excludeInstance : String)
    (pending : List Reservation) : List Key × List Reservation :=
  let kept := pending.filter (Reservation.kept now occupied)
  ((kept.filter fun r => r.owner ≠ excludeInstance).map Reservation.key, kept)

/-- `mark_pending`: `_pending[proto][port] = (now + ttl, instance_id)`. -/
def markPending (cfg : Config) (now : Rat) (instanceId : String) (key : Key)
    (pending : List Reservation) : List Reservation :=
  pending.filter (fun r => r.key ≠ key) ++ [⟨key, now + cfg.ttl, instanceId⟩]

/-! ## The allocation -/

/-- An L4 port of a request. -/
structure L4Port where
  /-- `port_name`. -/
  name : String
  /-- `protocol`. -/
  proto : String
  samePort : Bool := false

/-- `lowest_free_port`. -/
def lowestFreePort (cfg : Config) (taken : Nat → Bool) : Option Nat :=
  (List.range' cfg.rangeStart (cfg.rangeEnd + 1 - cfg.rangeStart)).find? fun port => !taken port

/-- Why an allocation is refused. -/
inductive L4PortError where
  | samePortConflict (portName : String) (port : Nat)
  | portRangeExhausted (rangeStart rangeEnd : Nat)
  deriving DecidableEq

/-- `str(exc)`. -/
def L4PortError.message : L4PortError → String
  | samePortConflict name port =>
    "l4_same_port_conflict: host port " ++ toString port ++ " for " ++ name ++
      " is held by another instance and cannot be rotated for a proxy same_port endpoint"
  | portRangeExhausted first last =>
    "l4_port_range_exhausted: no free host port in " ++ toString first ++ "-" ++ toString last

/-- What one critical section knows before its loop. -/
structure Section where
  instanceId : String
  now : Rat
  isTunnel : Bool
  /-- The sticky file. -/
  sticky : List (String × Nat)
  /-- The ports of other instances: published, or reserved. -/
  reserved : List Key

/-- What its loop changes. -/
structure Picks where
  /-- The ports assigned so far, in order. -/
  batch : List Key := []
  pending : List Reservation
  newSticky : List (String × Nat) := []

/-- The host port of one L4 port. -/
def Section.pick (cfg : Config) (s : Section) (batch : List Key) (p : L4Port) :
    Except L4PortError Nat :=
  let taken (port : Nat) : Bool := (s.reserved ++ batch).contains (p.proto, port)
  let lowest : Except L4PortError Nat :=
    match lowestFreePort cfg taken with
    | some port => .ok port
    | none => .error (.portRangeExhausted cfg.rangeStart cfg.rangeEnd)
  match s.sticky.lookup p.name with
  | none => lowest
  | some prev =>
    if !taken prev then .ok prev
    -- the advertised port of a proxy must not be rotated
    else if p.samePort && !s.isTunnel then .error (.samePortConflict p.name prev)
    else lowest

/-- The loop over the L4 ports.  A refusal leaves the reservations made so far. -/
def Section.pickAll (cfg : Config) (s : Section) :
    List L4Port → Picks → Picks × Option L4PortError
  | [], picks => (picks, none)
  | p :: rest, picks =>
    match s.pick cfg picks.batch p with
    | .error e => (picks, some e)
    | .ok port => s.pickAll cfg rest
        { batch := picks.batch ++ [(p.proto, port)]
          pending := markPending cfg s.now s.instanceId (p.proto, port) picks.pending
          newSticky := upsert picks.newSticky p.name port }

/-! ## What an allocation assigns -/

section
variable {cfg : Config} {s : Section}

theorem lowestFreePort_some {taken : Nat → Bool} {port : Nat}
    (h : lowestFreePort cfg taken = some port) : cfg.InRange port ∧ taken port = false := by
  have hmem := List.mem_of_find?_eq_some h
  rw [List.mem_range'_1] at hmem
  refine ⟨⟨hmem.1, by omega⟩, ?_⟩
  simpa using List.find?_some h

/-- **A port that is assigned is free and in the range**, if the sticky file's are. -/
theorem Section.pick_ok (hsticky : ∀ e ∈ s.sticky, cfg.InRange e.2) {batch : List Key}
    {p : L4Port} {port : Nat} (h : s.pick cfg batch p = .ok port) :
    (p.proto, port) ∉ s.reserved ++ batch ∧ cfg.InRange port := by
  have hlowest : ∀ {port : Nat}, (match lowestFreePort cfg fun port =>
      (s.reserved ++ batch).contains (p.proto, port) with
      | some port => Except.ok port
      | none => .error (L4PortError.portRangeExhausted cfg.rangeStart cfg.rangeEnd)) = .ok port →
      (p.proto, port) ∉ s.reserved ++ batch ∧ cfg.InRange port := by
    intro port h
    split at h
    · rename_i found hfound
      cases h
      obtain ⟨hrange, hfree⟩ := lowestFreePort_some hfound
      exact ⟨by simpa using hfree, hrange⟩
    · cases h
  unfold Section.pick at h
  simp only at h
  split at h
  · exact hlowest h
  · rename_i prev hprev
    split at h
    · rename_i hfree
      cases h
      exact ⟨by simpa using hfree, hsticky _ (mem_of_lookup hprev)⟩
    · split at h
      · cases h
      · exact hlowest h

end

/-- What the loop has assigned and reserved. -/
structure Picked (cfg : Config) (s : Section) (ports : List L4Port) (start picks : Picks)
    (fresh : List Key) : Prop where
  batch : picks.batch = start.batch ++ fresh
  /-- Every assigned port is free, in the range, and of a protocol of the request's. -/
  free : ∀ k ∈ fresh, k ∉ s.reserved ++ start.batch ∧ cfg.InRange k.2 ∧ ∃ p ∈ ports, p.proto = k.1
  /-- A reservation stays if its port is not assigned, -/
  kept : ∀ r ∈ start.pending, r.key ∉ fresh → r ∈ picks.pending
  /-- and every assigned port is reserved. -/
  marked : ∀ k ∈ fresh, ⟨k, s.now + cfg.ttl, s.instanceId⟩ ∈ picks.pending
  sticky : ∀ e ∈ picks.newSticky, e ∈ start.newSticky ∨ cfg.InRange e.2

theorem mem_markPending {cfg : Config} {now : Rat} {id : String} {key : Key}
    {pending : List Reservation} {r : Reservation} : r ∈ markPending cfg now id key pending ↔
      (r ∈ pending ∧ r.key ≠ key) ∨ r = ⟨key, now + cfg.ttl, id⟩ := by
  rw [markPending, List.mem_append, List.mem_filter, List.mem_singleton, decide_eq_true_iff]

/-- **The loop**: whether it succeeds or is refused halfway, what it has assigned was free
and is reserved. -/
theorem Section.pickAll_picked {cfg : Config} {s : Section}
    (hsticky : ∀ e ∈ s.sticky, cfg.InRange e.2) (ports : List L4Port) (start : Picks) :
    ∃ fresh, Picked cfg s ports start (s.pickAll cfg ports start).1 fresh := by
  induction ports generalizing start with
  | nil =>
    exact ⟨[], (List.append_nil _).symm, fun _ hk => (by cases hk), fun _ hr _ => hr,
      fun _ hk => (by cases hk), fun _ he => .inl he⟩
  | cons p rest ih =>
    cases hpick : s.pick cfg start.batch p with
    | error e =>
      rw [Section.pickAll, hpick]
      exact ⟨[], (List.append_nil _).symm, fun _ hk => (by cases hk), fun _ hr _ => hr,
        fun _ hk => (by cases hk), fun _ he => .inl he⟩
    | ok port =>
      obtain ⟨hfree, hrange⟩ := Section.pick_ok hsticky hpick
      rw [Section.pickAll, hpick]
      obtain ⟨fresh, h⟩ := ih
        { batch := start.batch ++ [(p.proto, port)]
          pending := markPending cfg s.now s.instanceId (p.proto, port) start.pending
          newSticky := upsert start.newSticky p.name port }
      have hlater : (p.proto, port) ∉ fresh := fun hmem => (h.free _ hmem).1
        (List.mem_append_right _ (List.mem_append_right _ (List.mem_singleton.mpr rfl)))
      refine ⟨(p.proto, port) :: fresh, ?_, ?_, ?_, ?_, ?_⟩
      · rw [h.batch, List.append_assoc]
        rfl
      · intro k hk
        rcases List.mem_cons.mp hk with rfl | hk
        · exact ⟨hfree, hrange, p, List.mem_cons_self, rfl⟩
        · obtain ⟨hout, hin, q, hq, hproto⟩ := h.free k hk
          refine ⟨fun hmem => hout ?_, hin, q, List.mem_cons_of_mem _ hq, hproto⟩
          rw [← List.append_assoc]
          exact List.mem_append_left _ hmem
      · intro r hr hkey
        rw [List.mem_cons, not_or] at hkey
        exact h.kept r (mem_markPending.mpr (.inl ⟨hr, hkey.1⟩)) hkey.2
      · intro k hk
        rcases List.mem_cons.mp hk with rfl | hk
        · exact h.kept _ (mem_markPending.mpr (.inr rfl)) hlater
        · exact h.marked k hk
      · intro e he
        rcases h.sticky e he with he | he
        · rcases mem_upsert he with rfl | he
          · exact .inr hrange
          · exact .inl he
        · exact .inr he

end Greffer.L4

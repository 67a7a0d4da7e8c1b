import Mathlib.Logic.Function.Basic
import Greffer.Registration.Conduct

/-! # The node

What the workers share: the two flags `registered` and `reregister_requested`, the token that
`app.state` holds, and the token file, which anyone may change at any time.  The records of the
workers stand beside it, one for each thread.

`looped` is the agreement: in any interleaving each record is the one the worker's code was judged
by, and the records and the flags satisfy `Node.Sound`.  **A flag that is clear has someone who
will set it**, and one registration at a time is at work.
-/
namespace Greffer.Registration
open Effects

/-- What is at the path of the token. -/
inductive TokenFile where
  | absent
  | unreadable
  /-- Not a text in UTF-8. -/
  | undecodable
  | text (content : String)

/-- What reading it gives. -/
def TokenFile.read : TokenFile → Except WorkerError TokenRead
  | .absent => .ok .absent
  | .unreadable => .ok .failed
  | .undecodable => .error (.raised (.valueError "UnicodeDecodeError"))
  | .text content => .ok (.text content)

/-- What the workers share. -/
structure Node where
  /-- The event `app.state.registered`. -/
  registered : Bool
  /-- The event `app.state.reregister_requested`. -/
  requested : Bool
  /-- `app.state.greffer_token`. -/
  held : String
  file : TokenFile
  /-- What each worker has done. -/
  conduct : Nat → Conduct

/-- What a call may be answered.  A wait is over when its event is set; what the manager and the
daemon answer is anything. -/
def Node.answers (w : Node) : (c : NodeCall) → Raises NodeCall.Answer WorkerError c → Prop
  | .readToken, r => r = w.file.read
  | .heldToken, r => r = .ok w.held
  | .holdToken _, r | .setRegistered, r | .requestReregistration, r | .sleep _, r => r = .ok ()
  | .takeRequest, r => w.requested = true ∧ r = .ok ()
  | .awaitRegistered, r => w.registered = true ∧ r = .ok ()
  | _, _ => True

/-- What it does to the shared part. -/
def Node.effect (w : Node) : (c : NodeCall) → Raises NodeCall.Answer WorkerError c → Node
  | .writeToken token, .ok true => { w with file := .text token }
  | .holdToken token, .ok _ => { w with held := token }
  | .setRegistered, .ok _ => { w with registered := true }
  | .takeRequest, .ok _ => { w with requested := false }
  | .requestReregistration, .ok _ => { w with registered := false, requested := true }
  | _, _ => w

/-- The record of the thread that called is kept. -/
def Node.noted (w : Node) (n : Nat) (k : Role) (c : NodeCall)
    (r : Raises NodeCall.Answer WorkerError c) : Node :=
  { w.effect c r with conduct := Function.update w.conduct n (record k (w.conduct n) c r) }

/-- **The node**, whose token file changes by itself. -/
def node : Shared Role.Reply Node where
  serve n k w c r w' := w.answers c r ∧ w' = w.noted n k c r
  drift w w' := ∃ file, w' = { w with file := file }

/-- Thread 0 registers, and thread 2 is the heartbeat. -/
def startConduct : Nat → Conduct
  | 0 => { active := true }
  | 2 => { beats := true }
  | _ => {}

/-- `create_app`: the events are clear, and a pinned token is the one that is held. -/
structure Started (settings : NodeSettings) (w : Node) : Prop where
  registered : w.registered = false
  requested : w.requested = false
  held : ∀ pinned ∈ settings.pinned, w.held = pinned
  conduct : w.conduct = startConduct

/-! ## What holds of the node -/

/-- **The flags and the records.** -/
structure Node.Sound (settings : NodeSettings) (w : Node) : Prop where
  /-- A clear flag has someone who will set it. -/
  pending : w.registered = false → w.requested = true ∨ ∃ n, (w.conduct n).active = true
  requested_clear : w.requested = true → w.registered = false
  active_clear : ∀ n, (w.conduct n).active = true → w.registered = false ∧ w.requested = false
  active_unique : ∀ n m, (w.conduct n).active = true → (w.conduct m).active = true → n = m
  flight_set : ∀ n, (w.conduct n).flight = true → w.registered = true ∧ (w.conduct n).beats = true
  beats_two : ∀ n, (w.conduct n).beats = true → n = 2
  waited : ∀ n, (w.conduct n).cancelled = false
  held_pinned : ∀ pinned ∈ settings.pinned, w.held = pinned

theorem Started.sound {settings : NodeSettings} {w : Node} (h : Started settings w) :
    w.Sound settings := by
  obtain ⟨hregistered, hrequested, hheld, hconduct⟩ := h
  have hcases (n : Nat) : (n = 0 ∧ w.conduct n = { active := true }) ∨
      (n = 2 ∧ w.conduct n = { beats := true }) ∨ w.conduct n = {} := by
    rw [hconduct]
    match n with
    | 0 => exact .inl ⟨rfl, rfl⟩
    | 1 => exact .inr (.inr rfl)
    | 2 => exact .inr (.inl ⟨rfl, rfl⟩)
    | _ + 3 => exact .inr (.inr rfl)
  have hactive (n : Nat) (hn : (w.conduct n).active = true) : n = 0 := by
    rcases hcases n with ⟨h0, -⟩ | ⟨-, hc⟩ | hc
    · exact h0
    · rw [hc] at hn
      cases hn
    · rw [hc] at hn
      cases hn
  refine ⟨fun _ => .inr ⟨0, by rw [hconduct]; rfl⟩, ?_, fun _ _ => ⟨hregistered, hrequested⟩,
    fun n m hn hm => (hactive n hn).trans (hactive m hm).symm, ?_, ?_, ?_, hheld⟩
  · intro h
    rw [hrequested] at h
    cases h
  · intro n hn
    rcases hcases n with ⟨-, hc⟩ | ⟨-, hc⟩ | hc <;> rw [hc] at hn <;> cases hn
  · intro n hn
    rcases hcases n with ⟨-, hc⟩ | ⟨h2, -⟩ | hc
    · rw [hc] at hn
      cases hn
    · exact h2
    · rw [hc] at hn
      cases hn
  · intro n
    rcases hcases n with ⟨-, hc⟩ | ⟨-, hc⟩ | hc <;> rw [hc]

/-! ## What a step keeps -/

section Record
variable {settings : NodeSettings} {k : Role} {s : Conduct} {c : NodeCall}
  {r : Raises NodeCall.Answer WorkerError c}

theorem record_beats : (record k s c r).beats = s.beats := by
  unfold record
  split <;> grind

/-- Only the calls that begin and end a run bear on whether there is one. -/
theorem record_active (htake : c ≠ .takeRequest) (hset : c ≠ .setRegistered) :
    (record k s c r).active = s.active := by
  unfold record
  split <;> grind

/-- A beat takes off only where the flag was waited for. -/
theorem record_flight (h : (record k s c r).flight = true) :
    s.flight = true ∨ c = .awaitRegistered ∧ k = .heartbeat := by
  unfold record at h
  split at h <;> grind

/-- Nothing that a worker waits for is ended by an exception. -/
theorem record_cancelled {w : Node} (hanswers : w.answers c r) :
    (record k s c r).cancelled = s.cancelled := by
  unfold record
  split <;> grind [Node.answers]

end Record

namespace Node.Sound
variable {settings : NodeSettings} {w w' : Node} {n : Nat}

theorem quiet (h : w.Sound settings) {s : Conduct}
    (hconduct : w'.conduct = Function.update w.conduct n s)
    (hregistered : w'.registered = w.registered) (hrequested : w'.requested = w.requested)
    (hheld : ∀ pinned ∈ settings.pinned, w'.held = pinned)
    (hactive : s.active = (w.conduct n).active) (hbeats : s.beats = (w.conduct n).beats)
    (hcancelled : s.cancelled = false)
    (hflight : s.flight = true → w.registered = true ∧ (w.conduct n).beats = true) :
    w'.Sound settings := by
  have hactive (m : Nat) : (w'.conduct m).active = (w.conduct m).active := by
    rw [hconduct]
    by_cases hm : m = n
    · rw [hm, Function.update_self, hactive]
    · rw [Function.update_of_ne hm]
  have hbeats' (m : Nat) : (w'.conduct m).beats = (w.conduct m).beats := by
    rw [hconduct]
    by_cases hm : m = n
    · rw [hm, Function.update_self, hbeats]
    · rw [Function.update_of_ne hm]
  refine ⟨?_, ?_, ?_, ?_, ?_, ?_, ?_, hheld⟩
  · simp only [hactive, hregistered, hrequested]
    exact h.pending
  · simp only [hregistered, hrequested]
    exact h.requested_clear
  · simp only [hactive, hregistered, hrequested]
    exact h.active_clear
  · simp only [hactive]
    exact h.active_unique
  · intro m hm
    rw [hbeats', hregistered]
    rw [hconduct] at hm
    by_cases hmn : m = n
    · rw [hmn, Function.update_self] at hm
      rw [hmn]
      exact hflight hm
    · rw [Function.update_of_ne hmn] at hm
      exact h.flight_set m hm
  · simp only [hbeats']
    exact h.beats_two
  · intro m
    rw [hconduct]
    by_cases hmn : m = n
    · rw [hmn, Function.update_self, hcancelled]
    · rw [Function.update_of_ne hmn]
      exact h.waited m

/-- **A request is taken up**: the run that it begins is the only one. -/
theorem taken (h : w.Sound settings) (hrequested : w.requested = true) (n : Nat) :
    Node.Sound settings { w with
      requested := false
      conduct := Function.update w.conduct n
        { w.conduct n with active := true, accepted := none, installed := false } } := by
  have hclear := h.requested_clear hrequested
  have hidle (m : Nat) : (w.conduct m).active = false := by
    by_contra hactive
    rw [Bool.not_eq_false] at hactive
    rw [(h.active_clear m hactive).2] at hrequested
    cases hrequested
  have honly (m : Nat) (hm : (Function.update w.conduct n
      { w.conduct n with active := true, accepted := none, installed := false } m).active = true) :
      m = n := by
    by_contra hmn
    rw [Function.update_of_ne hmn, hidle] at hm
    cases hm
  refine ⟨fun _ => .inr ⟨n, ?_⟩, nofun, fun _ _ => ⟨hclear, rfl⟩,
    fun m m' hm hm' => (honly m hm).trans (honly m' hm').symm, ?_, ?_, ?_, h.held_pinned⟩
  · dsimp only
    rw [Function.update_self]
  all_goals
    intro m
    dsimp only
    by_cases hmn : m = n
    · rw [hmn, Function.update_self]
      first | exact h.flight_set n | exact h.beats_two n | exact h.waited n
    · rw [Function.update_of_ne hmn]
      first | exact h.flight_set m | exact h.beats_two m | exact h.waited m

/-- **A run is over**: the flag is set, and no other run is at work. -/
theorem finished (h : w.Sound settings) (hactive : (w.conduct n).active = true) :
    Node.Sound settings { w with
      registered := true
      conduct := Function.update w.conduct n { w.conduct n with active := false } } := by
  have hover (m : Nat) :
      (Function.update w.conduct n { w.conduct n with active := false } m).active = false := by
    by_cases hmn : m = n
    · rw [hmn, Function.update_self]
    · rw [Function.update_of_ne hmn]
      by_contra hm
      rw [Bool.not_eq_false] at hm
      exact hmn (h.active_unique m n hm hactive)
  have hrequested : w.requested = false := (h.active_clear n hactive).2
  refine ⟨nofun, ?_, ?_, ?_, ?_, ?_, ?_, h.held_pinned⟩
  · intro hr
    rw [show w.requested = true from hr] at hrequested
    cases hrequested
  · intro m hm
    rw [hover] at hm
    cases hm
  · intro m m' hm
    rw [hover] at hm
    cases hm
  · intro m hm
    refine ⟨rfl, ?_⟩
    dsimp only at hm ⊢
    by_cases hmn : m = n
    · rw [hmn, Function.update_self] at hm ⊢
      exact (h.flight_set n hm).2
    · rw [Function.update_of_ne hmn] at hm ⊢
      exact (h.flight_set m hm).2
  all_goals
    intro m
    dsimp only
    by_cases hmn : m = n
    · rw [hmn, Function.update_self]
      first | exact h.beats_two n | exact h.waited n
    · rw [Function.update_of_ne hmn]
      first | exact h.beats_two m | exact h.waited m

/-- **A beat asks for a re-registration**: it was the only one under way, and there was no run. -/
theorem asked (h : w.Sound settings) (hflight : (w.conduct n).flight = true) :
    Node.Sound settings { w with
      registered := false
      requested := true
      conduct := Function.update w.conduct n { w.conduct n with flight := false } } := by
  obtain ⟨hset, hbeats⟩ := h.flight_set n hflight
  have hidle (m : Nat) :
      (Function.update w.conduct n { w.conduct n with flight := false } m).active = false := by
    have hm : (w.conduct m).active = false := by
      by_contra hactive
      rw [Bool.not_eq_false] at hactive
      rw [(h.active_clear m hactive).1] at hset
      cases hset
    by_cases hmn : m = n
    · rw [hmn, Function.update_self]
      rwa [hmn] at hm
    · rwa [Function.update_of_ne hmn]
  have hlanded (m : Nat) :
      (Function.update w.conduct n { w.conduct n with flight := false } m).flight = false := by
    by_cases hmn : m = n
    · rw [hmn, Function.update_self]
    · rw [Function.update_of_ne hmn]
      by_contra hm
      rw [Bool.not_eq_false] at hm
      have hm2 := h.beats_two m (h.flight_set m hm).2
      exact hmn (hm2.trans (h.beats_two n hbeats).symm)
  refine ⟨fun _ => .inl rfl, fun _ => rfl, ?_, ?_, ?_, ?_, ?_, h.held_pinned⟩
  · intro m hm
    rw [hidle] at hm
    cases hm
  · intro m m' hm
    rw [hidle] at hm
    cases hm
  · intro m hm
    rw [hlanded] at hm
    cases hm
  all_goals
    intro m
    dsimp only
    by_cases hmn : m = n
    · rw [hmn, Function.update_self]
      first | exact h.beats_two n | exact h.waited n
    · rw [Function.update_of_ne hmn]
      first | exact h.beats_two m | exact h.waited m

theorem noted (h : w.Sound settings) {k : Role} {c : NodeCall}
    {r : Raises NodeCall.Answer WorkerError c} (hanswers : w.answers c r)
    (hallowed : allowed settings k (w.conduct n) c) : (w.noted n k c r).Sound settings := by
  have hquiet (hset : (w.noted n k c r).registered = w.registered)
      (hrequested : (w.noted n k c r).requested = w.requested)
      (hheld : ∀ pinned ∈ settings.pinned, (w.noted n k c r).held = pinned)
      (htake : c ≠ .takeRequest) (hend : c ≠ .setRegistered) : (w.noted n k c r).Sound settings := by
    refine h.quiet rfl hset hrequested hheld (record_active htake hend) record_beats
      ((record_cancelled hanswers).trans (h.waited n)) ?_
    intro hflight
    rcases record_flight hflight with hflight | ⟨rfl, hk⟩
    · exact h.flight_set n hflight
    · exact ⟨hanswers.1, hallowed.2 hk⟩
  cases c with
  | takeRequest =>
    obtain ⟨hrequested, rfl⟩ := hanswers
    exact h.taken hrequested n
  | setRegistered =>
    cases hanswers
    exact h.finished hallowed.2.1
  | requestReregistration =>
    cases hanswers
    exact h.asked hallowed.2
  | holdToken token =>
    cases hanswers
    exact hquiet rfl rfl hallowed.2.2 nofun nofun
  | writeToken token =>
    rcases r with e | (_ | _) <;> exact hquiet rfl rfl h.held_pinned nofun nofun
  | _ => cases r <;> exact hquiet rfl rfl h.held_pinned nofun nofun

/-- The token file does not bear on it. -/
theorem changed (h : w.Sound settings) (file : TokenFile) :
    Node.Sound settings { w with file := file } :=
  ⟨h.pending, h.requested_clear, h.active_clear, h.active_unique, h.flight_set, h.beats_two,
    h.waited, h.held_pinned⟩

end Node.Sound

/-! ## The agreement -/

/-- A worker's record is the one it was judged by. -/
def Agree (n : Nat) (s : Option Conduct) (w : Node) : Prop := s = some (w.conduct n)

/-- What a worker's record says at its loop heads. -/
def At (k : Role) (next : Option k.Label) (s : Option Conduct) : Prop :=
  ∃ t, s = some t ∧ Fits k next t

/-- The node is sound, with `N` workers. -/
def SoundWith (settings : NodeSettings) (N : Nat) (w : Node) : Prop :=
  w.Sound settings ∧ ∀ n, N ≤ n → w.conduct n = {}

theorem allowed_of_after {settings : NodeSettings} {k : Role} {s : Conduct} {c : NodeCall}
    {r : Raises NodeCall.Answer WorkerError c}
    (h : ((conduct settings).after k (some s) c r).isSome) : allowed settings k s c := by
  by_contra hnot
  simp [conduct, hnot] at h

/-- **In every interleaving the workers keep to what their records allow.** -/
theorem looped (settings : NodeSettings) :
    Looped node Starts (blocks settings) (conduct settings) (fun s => s.isSome) At Agree
      (SoundWith settings) where
  block := by
    rintro k l s - ⟨t, rfl, ht⟩
    exact blocks_keep settings k l t ht
  own := by
    rintro n k w c r w' s ⟨-, rfl⟩ rfl - hafter
    have hallowed := allowed_of_after hafter
    simp [Agree, conduct, hallowed, Node.noted]
  other := by
    rintro n k w c r w' s n' s' ⟨-, rfl⟩ - - - hne rfl
    simp [Agree, Node.noted, Function.update_of_ne hne]
  drift := by
    rintro w w' n s ⟨file, rfl⟩ hagree
    exact hagree
  fresh := by
    intro t n w hstarts hsound
    refine ⟨some {}, starts_keep settings hstarts, ?_⟩
    exact congrArg some (hsound.2 n le_rfl).symm
  inv_serve := by
    rintro n k w c r w' s N ⟨hanswers, rfl⟩ hn rfl - hafter ⟨hsound, hrecorded⟩
    refine ⟨hsound.noted hanswers (allowed_of_after hafter), ?_⟩
    intro m hm
    simp only [Node.noted]
    rw [Function.update_of_ne (by omega)]
    exact hrecorded m hm
  inv_drift := by
    rintro w w' N ⟨file, rfl⟩ ⟨hsound, hrecorded⟩
    exact ⟨hsound.changed file, hrecorded⟩
  inv_succ := by
    rintro w N ⟨hsound, hrecorded⟩
    exact ⟨hsound, fun m hm => hrecorded m (by omega)⟩

/-- The workers that start the node agree with it. -/
theorem started_agrees {settings : NodeSettings} {w : Node} (h : Started settings w) :
    Looped.Agrees (conduct settings) (fun s => s.isSome) At Agree (SoundWith settings)
      ⟨w, workers⟩ := by
  refine ⟨⟨h.sound, ?_⟩, ?_⟩
  · intro n hn
    rw [h.conduct]
    match n, hn with
    | _ + 5, _ => rfl
  · intro n t ht
    refine ⟨some (w.conduct n), ?_, rfl⟩
    rw [h.conduct]
    match n, ht with
    | 0, rfl => exact ⟨rfl, _, rfl, rfl⟩
    | 1, rfl => exact ⟨rfl, _, rfl, rfl, rfl⟩
    | 2, rfl => exact ⟨rfl, _, rfl, rfl, rfl⟩
    | 3, rfl => exact ⟨rfl, _, rfl, rfl⟩
    | 4, rfl => exact ⟨rfl, _, rfl, rfl⟩

/-! ## A node to which everything is granted -/

/-- Every request succeeds, and a wait is over when it can be. -/
def Node.granted (w : Node) : (c : NodeCall) → Option (Raises NodeCall.Answer WorkerError c)
  | .readToken => some w.file.read
  | .mint => some (.ok "minted")
  | .heldToken => some (.ok w.held)
  | .resolveHostname => some (.ok "greffer")
  | .writeToken _ => some (.ok true)
  | .fetchCert _ => some (.ok (some .none, 200))
  | .takeRequest => if w.requested then some (.ok ()) else none
  | .awaitRegistered => if w.registered then some (.ok ()) else none
  | .statusChanges => some (.ok [])
  | .nextRenewalRequest => some (.ok false)
  | .postHeartbeat _ _ | .reportStatusChange _ _ _ | .postCallback _ => some (.ok 200)
  | .holdToken _ | .postRegister _ _ | .installCert _ | .noteSerial _ | .installTunnelConfig _
  | .fetchAndStoreCrl | .setRegistered | .requestReregistration | .collectHeartbeat _
  | .renewalRequest _ | .sleep _ => some (.ok ())

/-- The same, with what the call does. -/
def Node.granting (n : Nat) (k : Role) (w : Node) (c : NodeCall) :
    Option (Raises NodeCall.Answer WorkerError c × Node) :=
  (w.granted c).map fun r => (r, w.noted n k c r)

theorem granting_serves {n : Nat} {k : Role} (w : Node) (c : NodeCall)
    (r : Raises NodeCall.Answer WorkerError c) (w' : Node)
    (h : w.granting n k c = some (r, w')) : node.serve n k w c r w' := by
  obtain ⟨r', hgranted, hpair⟩ := Option.map_eq_some_iff.mp h
  obtain ⟨rfl, rfl⟩ := Prod.mk.inj hpair
  refine ⟨?_, rfl⟩
  cases c <;> simp only [Node.granted, Option.ite_none_right_eq_some, Option.some.injEq] at hgranted
  case takeRequest => exact ⟨hgranted.1, hgranted.2.symm⟩
  case awaitRegistered => exact ⟨hgranted.1, hgranted.2.symm⟩
  all_goals first | exact hgranted.symm | exact trivial

/-- A worker that runs alone while everything is granted. -/
theorem granted_rounds (settings : NodeSettings) (n : Nat) (k : Role) (m : Nat)
    (p : Prog k.Reply (Option k.Label)) (w : Node) (ts : List (Worker Role.Reply Role.Label))
    (hn : ts[n]? = some ⟨k, p⟩) :
    node.Rounds Starts (blocks settings) ⟨w, ts⟩
      (roundsFor (Node.granting n k) (blocks settings k) n m p w).1
      ⟨(roundsFor (Node.granting n k) (blocks settings k) n m p w).2.1,
        ts.set n ⟨k, (roundsFor (Node.granting n k) (blocks settings k) n m p w).2.2⟩⟩ :=
  Shared.Rounds.alone granting_serves m p w ts hn

/-- A node that starts with its token in the file. -/
def booted (token : String) : Node where
  registered := false
  requested := false
  held := token
  file := .text token
  conduct := startConduct

theorem booted_started (token : String) : Started {} (booted token) := ⟨rfl, rfl, nofun, rfl⟩

/-- Its first registration: the events, the node after it and what is left to do. -/
def firstRegistration (token : String) :
    List (Node × Event Role.Reply) × Node ×
      Prog (Role.Reply .register) (Option (Role.Label .register)) :=
  roundsFor (Node.granting 0 .register) (blocks {} .register) 0 20
    (.pure (some (.attempt registerRetrySeconds))) (booted token)

theorem firstRegistration_rounds (token : String) :
    node.Rounds Starts (blocks {}) ⟨booted token, workers⟩ (firstRegistration token).1
      ⟨(firstRegistration token).2.1,
        workers.set 0 ⟨.register, (firstRegistration token).2.2⟩⟩ := by
  have h := granted_rounds {} 0 .register 20 (.pure (some (.attempt registerRetrySeconds)))
    (booted token) workers rfl
  unfold firstRegistration
  exact h

end Greffer.Registration

import Greffer.Registration.Node

/-! # Registration never strands the node

The heartbeat waits for `registered`, which only a registration sets.  In every state that any
interleaving of the workers reaches in which the flag is clear, a registration is at work or asked
for, and what is asked for finds the supervisor waiting (`never_stranded`), whatever the manager
answers, whatever fails and whatever becomes of the token file.
-/
namespace Greffer.Registration
open Effects

/-- A worker that registers and is not done: `register_worker` has not returned, and
`reregister_worker` has taken up a request. -/
def Registering : Worker Role.Reply Role.Label → Prop
  | ⟨.register, rest⟩ => rest ≠ .pure none
  | ⟨.reregister, rest⟩ => rest ≠ .pure none ∧ rest ≠ .pure (some .idle) ∧
      ∀ next, rest ≠ .call .takeRequest next
  | _ => False

/-- The supervisor, where a request finds it: it waits for one, or is about to. -/
def Waiting : Worker Role.Reply Role.Label → Prop
  | ⟨.reregister, rest⟩ => rest = .pure (some .idle) ∨ ∃ next, rest = .call .takeRequest next
  | _ => False

section Where
variable {settings : NodeSettings} {k : Role} {s : Conduct}

theorem fits_of_follows {next : Option k.Label}
    (hfollows : Thread.Follows (conduct settings) (fun s => s.isSome) At
      (⟨k, .pure next⟩ : Worker Role.Reply Role.Label) (some s)) : Fits k next s := by
  obtain ⟨-, u, hu, hfits⟩ := hfollows
  cases hu
  exact hfits

theorem allowed_of_follows {c : NodeCall} {after : k.Reply c → Prog k.Reply (Option k.Label)}
    (hfollows : Thread.Follows (conduct settings) (fun s => s.isSome) At
      (⟨k, .call c after⟩ : Worker Role.Reply Role.Label) (some s)) : allowed settings k s c :=
  allowed_of_after (Thread.Follows.next hfollows (.error .unreachable)).2.1

/-- A worker whose record says that it is in a run is in one. -/
theorem registering_of_active {t : Worker Role.Reply Role.Label}
    (hfollows : t.Follows (conduct settings) (fun s => s.isSome) At (some s))
    (hactive : s.active = true) (hwaited : s.cancelled = false) : Registering t := by
  obtain ⟨k, rest⟩ := t
  have hnone (h : RunFits k none s) : False := by
    rcases h with ⟨-, h⟩ | h
    · rw [h] at hactive
      cases hactive
    · rw [h] at hwaited
      cases hwaited
  have hother (hk : k.registers = false) : s.active = false := by
    cases rest with
    | call c after =>
      by_contra h
      rw [((allowed_of_follows hfollows).1.mp (Bool.eq_true_of_not_eq_false h)).1] at hk
      cases hk
    | pure next =>
      have h := fits_of_follows hfollows
      cases k with
      | register => cases hk
      | reregister => cases hk
      | heartbeat => exact h.1
      | monitor => exact h
      | callback => exact h
      | renewal =>
        rcases next with _ | (_ | ⟨token, worker⟩)
        · exact h
        · exact h
        · exact h.1
  cases k with
  | register =>
    rintro rfl
    exact hnone (fits_of_follows hfollows)
  | reregister =>
    refine ⟨?_, ?_, ?_⟩
    · rintro rfl
      exact hnone (fits_of_follows hfollows)
    · rintro rfl
      have hidle := (fits_of_follows hfollows).2
      rw [hactive] at hidle
      cases hidle
    · rintro after rfl
      exact ((allowed_of_follows hfollows).1.mp hactive).2 rfl
  | heartbeat => exact absurd hactive (by simp [hother rfl])
  | monitor => exact absurd hactive (by simp [hother rfl])
  | renewal => exact absurd hactive (by simp [hother rfl])
  | callback => exact absurd hactive (by simp [hother rfl])

/-- A supervisor whose record says that it is in no run waits for a request. -/
theorem waiting_of_inactive
    {rest : Prog (Role.Reply .reregister) (Option (Role.Label .reregister))}
    (hfollows : Thread.Follows (conduct settings) (fun s => s.isSome) At
      (⟨.reregister, rest⟩ : Worker Role.Reply Role.Label) (some s))
    (hactive : s.active = false) (hwaited : s.cancelled = false) : Waiting ⟨.reregister, rest⟩ := by
  have hnot : ¬ s.active = true := by
    rw [hactive]
    exact Bool.false_ne_true
  cases rest with
  | call c after =>
    right
    -- any other call would be one of a run
    obtain rfl : c = .takeRequest := by
      by_contra hother
      exact hnot ((allowed_of_follows hfollows).1.mpr ⟨rfl, hother⟩)
    exact ⟨after, rfl⟩
  | pure next =>
    left
    have hfits := fits_of_follows hfollows
    cases next with
    | none =>
      rcases hfits with ⟨hrole, -⟩ | hcancelled
      · cases hrole
      · rw [hcancelled] at hwaited
        cases hwaited
    | some l =>
      cases l with
      | idle => rfl
      | attempt outer => exact absurd hfits hnot
      | register outer address delay => exact absurd hfits hnot
      | poll outer token => exact absurd hfits.1 hnot

end Where

/-- **No node is stranded.**  In every reachable state where `registered` is clear, a registration
is at work or asked for; a request that is pending finds the supervisor waiting; the flag is set only
with the certificate of that registration installed; and every poll for a certificate carries the
token of the register request that was accepted in the same registration. -/
theorem never_stranded {settings : NodeSettings} {w : Node} {q : Crew Role.Reply Role.Label Node}
    {es : List (Node × Event Role.Reply)} (start : Started settings w)
    (rounds : node.Rounds Starts (blocks settings) ⟨w, workers⟩ es q) :
    (q.world.registered = false →
      q.world.requested = true ∨ ∃ t ∈ q.threads, Registering t) ∧
    (q.world.requested = true → ∃ t ∈ q.threads, Waiting t) ∧
    (∀ w' n k r, (w', .called n k .setRegistered r) ∈ es → (w'.conduct n).installed = true) ∧
    ∀ w' n k token r, (w', .called n k (.fetchCert token) r) ∈ es →
      (w'.conduct n).accepted = some token := by
  have hstart := started_agrees start
  obtain ⟨⟨hsound, hrecorded⟩, hthreads⟩ := (looped settings).along rounds hstart
  refine ⟨?_, ?_, ?_, ?_⟩
  · intro hclear
    rcases hsound.pending hclear with hrequested | ⟨n, hactive⟩
    · exact .inl hrequested
    · -- a record that says so belongs to a thread
      have hn : n < q.threads.length := by
        by_contra hge
        rw [hrecorded n (by omega)] at hactive
        cases hactive
      obtain ⟨s, hfollows, rfl⟩ := hthreads n q.threads[n] (List.getElem?_eq_getElem hn)
      exact .inr ⟨_, List.getElem_mem hn,
        registering_of_active hfollows hactive (hsound.waited n)⟩
  · intro hrequested
    -- thread 1 is the supervisor
    obtain ⟨⟨k, rest⟩, ht, hkind⟩ := rounds.kind (n := 1) rfl
    obtain rfl : k = .reregister := hkind
    obtain ⟨s, hfollows, rfl⟩ := hthreads 1 _ ht
    have hinactive : (q.world.conduct 1).active = false := by
      by_contra hactive
      rw [(hsound.active_clear 1 (Bool.eq_true_of_not_eq_false hactive)).2] at hrequested
      cases hrequested
    exact ⟨_, List.mem_of_getElem? ht,
      waiting_of_inactive hfollows hinactive (hsound.waited 1)⟩
  · intro w' n k r he
    obtain ⟨N, s, -, rfl, -, hafter⟩ := (looped settings).at_call rounds hstart he
    exact (allowed_of_after hafter).2.2
  · intro w' n k token r he
    obtain ⟨N, s, -, rfl, -, hafter⟩ := (looped settings).at_call rounds hstart he
    exact (allowed_of_after hafter).2

/-- An event that sets the flag. -/
def setsRegistered : Node × Event Role.Reply → Bool
  | (_, .called _ _ .setRegistered _) => true
  | _ => false

/-- The first registration of a node sets the flag, and with the certificate installed. -/
theorem never_stranded_booted : (firstRegistration "token").2.1.registered = true ∧
    ∃ w' n k r, (w', Event.called n k NodeCall.setRegistered r) ∈ (firstRegistration "token").1 ∧
      (w'.conduct n).installed = true := by
  have hsets : (firstRegistration "token").1.any setsRegistered = true := by decide +kernel
  obtain ⟨⟨w', e⟩, he, hset⟩ := List.any_eq_true.mp hsets
  have h := never_stranded (booted_started "token") (firstRegistration_rounds "token")
  refine ⟨by decide +kernel, w', ?_⟩
  unfold setsRegistered at hset
  split at hset
  case h_1 n k r heq =>
    obtain ⟨rfl, rfl⟩ := Prod.mk.inj heq
    exact ⟨n, k, r, he, h.2.2.1 _ n k r he⟩
  case h_2 => cases hset

end Greffer.Registration

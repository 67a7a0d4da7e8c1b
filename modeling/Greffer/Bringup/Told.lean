import Greffer.Bringup.Journey

/-! # The exit code, and what the operator is told

Whatever the containers, the manager and the probes answer, and however long each of them takes:
the exit code says exactly how far the command has got, and none of its waits is given up before
its time (`exit_code_tells`).  The operator is asked once to accept his greffer, and only when the
manager has said that it knows it; the heartbeats say which of the two he is waiting for, and come
half a minute apart (`guidance_honest`).
-/
namespace Greffer.Bringup
open Effects

section Serves
variable {c : UpCall} {r : Raises UpCall.Answer Exn c} {w w' : Rat} {s : Journey}

/-- The last reading of the clock is not ahead of it. -/
def Clocked (_ : Nat) (s : Journey) (w : Rat) : Prop := ∀ t, s.now = some t → t ≤ w

theorem now_after : (s.after c r).now = s.now ∨ c = .monotonic := by
  cases c with
  | monotonic => exact .inr rfl
  | print line => cases line <;> exact .inl rfl
  | _ => cases r <;> exact .inl rfl

theorem Clocked.after {n : Nat} (served : serve w c r w') (h : Clocked n s w) :
    Clocked n (s.after c r) w' := by
  intro t ht
  rcases now_after (s := s) (c := c) (r := r) with hsame | rfl
  · rw [hsame] at ht
    exact (h t ht).trans (le_of_serve served)
  · obtain ⟨rfl, rfl⟩ := served
    exact (Option.some.inj ht).ge

end Serves

theorem relied_travelling (args : UpArgs) : Relied operatorHost Starts (blocks args)
    (travelling args) (AtHead args) Clocked (fun _ _ => True) where
  block := blocks_travel
  may := by
    rintro n ⟨⟩ w c r w' s N served - - hclocked -
    cases c with
    | monotonic => exact ⟨w, served.1, hclocked⟩
    | _ => trivial
  own served _ _ h _ := h.after served
  other served _ _ _ _ _ h t ht := (h t ht).trans (le_of_serve served)
  drift hdrift _ h t ht := (h t ht).trans hdrift
  fresh := False.elim
  inv_serve _ _ _ _ _ := trivial
  inv_drift _ _ := trivial
  inv_succ _ := trivial

/-- How far the command has got in the events of a run. -/
def journey (args : UpArgs) (es : List (Rat × Event Replies)) : Journey :=
  recordOf (travelling args) 0 es {}

section Runs
variable {args : UpArgs} {w₀ w : Rat} {q : Crew Replies Label Rat}
  {es es' : List (Rat × Event Replies)}

/-- Every call is one that the journey so far allows. -/
theorem allowed_of_rounds {c : UpCall} {r : Raises UpCall.Answer Exn c}
    (rounds : operatorHost.Rounds Starts (blocks args) ⟨w₀, [upWorker]⟩
      (es ++ (w, .called 0 () c r) :: es') q) :
    (travelling args ()).allowed (journey args es) c := by
  have hstart : upWorker.Relies (travelling args) (AtHead args) {} := rfl
  have hclocked : Clocked 0 {} w₀ := nofun
  refine ((relied_travelling args).allowed_call rounds ⟨trivial, ?_⟩ rfl hstart hclocked).1
  intro n t ht
  cases n with
  | zero =>
    cases ht
    exact ⟨{}, hstart, hclocked⟩
  | succ n => cases ht

/-- **The exit code tells exactly how far the command has got**, whatever it is answered, at every
exit that the command makes itself (a run that an exception ends makes none): 1 if the
configuration on disk is another greffer's, 20 if the containers would not start, 10 if they did
not all run, 14 if the manager does not know the greffer, 11 if it has not said that it is
accepted, 12 if, in proxy mode, the certificate has not been seen, 13 if `/healthz` has not
answered, and 0 only after all of that.  A wait that it gives up has taken all of its time. -/
theorem exit_code_tells {code : Nat} {r : Except Exn Unit}
    (rounds : operatorHost.Rounds Starts (blocks args) ⟨w₀, [upWorker]⟩
      (es ++ (w, .called 0 () (.exit code) r) :: es') q) :
    code = (journey args es).exitCode args ∧ (code = 1 → (journey args es).Another args) ∧
      (10 ≤ code ∧ code ≤ 13 → (journey args es).Waited args) :=
  allowed_of_rounds rounds

/-- The operator has been asked to accept his greffer. -/
def Asked : (c : UpCall) → Raises UpCall.Answer Exn c → Prop
  | .print (.stateRegistering _), _ => True
  | _, _ => False

theorem guided_after (s : Journey) (c : UpCall) (r : Raises UpCall.Answer Exn c) :
    (s.after c r).guided = true ↔ s.guided = true ∨ Asked c r := by
  cases c with
  | print line => cases line <;> simp [Journey.after, Asked]
  | _ => cases r <;> simp [Journey.after, Journey.read, Asked]

/-- **What the operator is told is what the command has seen** (`MayTell`, line by line).  He is
asked to accept his greffer only when the manager has just said that it has it, under its id, and
never twice; a heartbeat comes half a minute after the last and names what he is waiting for; the
certificate is awaited only after the manager has said that the greffer is accepted; a wait is
given up only after all of its time, without what it waits for; and he is told that the greffer is
connected only where all has been seen. -/
theorem guidance_honest {line : UpLine} {r : Except Exn Unit}
    (rounds : operatorHost.Rounds Starts (blocks args) ⟨w₀, [upWorker]⟩
      (es ++ (w, .called 0 () (.print line) r) :: es') q) :
    (journey args es).MayTell args line ∧
      (∀ grefferId, line = .stateRegistering grefferId →
        ∀ w' grefferId' r', (w', .called 0 () (.print (.stateRegistering grefferId')) r') ∉ es) := by
  have htold : (journey args es).MayTell args line := allowed_of_rounds rounds
  refine ⟨htold, ?_⟩
  rintro grefferId rfl w' grefferId' r' hmem
  obtain ⟨-, hnot, -⟩ := htold
  have hguided : (journey args es).guided = true := by
    have hmakes (k : Unit) (s : Journey) (c : UpCall) (r : Raises UpCall.Answer Exn c) :
        (s.after c r).guided = true ↔ s.guided = true ∨ Asked c r := guided_after s c r
    refine (recordOf_iff (P := fun s : Journey => s.guided = true) hmakes 0 es {}).mpr ?_
    exact .inr ⟨w', (), _, r', hmem, trivial⟩
  rw [hnot] at hguided
  cases hguided

end Runs

/-! ### A greffer that is accepted while the command waits -/

/-- The arguments. -/
def proxyArgs : UpArgs where
  id := "g"
  manager := none
  mode := "proxy"
  address := some "host"
  timeout := 600

/-- Calls that succeed, with a manager that answers so. -/
def obliging (manager : Rat → Option Response) (clock : Rat) :
    (c : UpCall) → Option (Raises UpCall.Answer Exn c × Rat)
  | .readEnv => some (.ok [("GREFFER_ID", "g"), ("GREFFER_MODE", "proxy")], clock)
  | .readTemplate | .readImageTag => some (.ok "", clock)
  | .servicesRunning _ => some (.ok [("greffer", true)], clock)
  | .composeUp _ | .nginxCertInstalled | .healthz => some (.ok ⟨0, ""⟩, clock)
  | .monotonic => some (.ok clock, clock)
  | .sleep seconds => some (.ok (), clock + max 0 seconds)
  | .get _ => some (.ok (manager clock), clock)
  | .mkdir | .writeCompose _ | .writeEnv _ | .print _ | .exit _ => some (.ok (), clock)

theorem obliging_serves (manager : Rat → Option Response) (clock : Rat) (c : UpCall)
    (r : Raises UpCall.Answer Exn c) (clock' : Rat) (h : obliging manager clock c = some (r, clock')) :
    operatorHost.serve 0 () clock c r clock' := by
  cases c with
  | sleep seconds =>
    cases h
    exact ⟨le_add_of_nonneg_right (le_max_left 0 seconds), fun _ =>
      add_le_add_right (le_max_right 0 seconds) clock⟩
  | monotonic =>
    cases h
    exact ⟨rfl, rfl⟩
  | _ =>
    cases h
    exact le_rfl

/-- Some calls of the command. -/
def callsFor (args : UpArgs) (manager : Rat → Option Response) (m : Nat)
    (p : Prog (Replies ()) (Option (Label ()))) (clock : Rat) :=
  roundsFor (obliging manager) (blocks args ()) 0 m p clock

theorem callsFor_rounds (args : UpArgs) (manager : Rat → Option Response) (m : Nat)
    (p : Prog (Replies ()) (Option (Label ()))) (clock : Rat) :
    operatorHost.Rounds Starts (blocks args) ⟨clock, [⟨(), p⟩]⟩ (callsFor args manager m p clock).1
      ⟨(callsFor args manager m p clock).2.1, [⟨(), (callsFor args manager m p clock).2.2⟩]⟩ :=
  Shared.Rounds.alone (obliging_serves manager) m p clock [⟨(), p⟩] rfl

/-- The manager has the greffer at once, and has accepted it when it is asked again. -/
def accepting (clock : Rat) : Option Response :=
  some ⟨200, none, .object (some (.text
    (if clock < 2 then "GREFFER_REGISTERING" else "GREFFER_REGISTERED")))⟩

/-- It has just heard that the manager has its greffer, -/
def heard := callsFor proxyArgs accepting 18 (.pure (some .command)) 0

/-- and, two seconds later, everything else. -/
def connected := callsFor proxyArgs accepting 16 heard.2.2 heard.2.1

theorem heard_next : ∃ next, heard.2.2 = .call (.print (.stateRegistering "g")) next :=
  ⟨_, by with_unfolding_all rfl⟩

theorem connected_next : ∃ next, connected.2.2 = .call (.exit 0) next :=
  ⟨_, by with_unfolding_all rfl⟩

theorem heard_rounds : ∃ q, operatorHost.Rounds Starts (blocks proxyArgs) ⟨0, [upWorker]⟩
    (heard.1 ++ [(heard.2.1, .called 0 () (.print (.stateRegistering "g")) (.ok ()))]) q := by
  have hheard := callsFor_rounds proxyArgs accepting 18 (.pure (some .command)) 0
  obtain ⟨next, hnext⟩ := heard_next
  have hprint : operatorHost.Rounds Starts (blocks proxyArgs) ⟨heard.2.1, [⟨(), heard.2.2⟩]⟩
      [(heard.2.1, .called 0 () (.print (.stateRegistering "g")) (.ok ()))]
      ⟨heard.2.1, [⟨(), next (.ok ())⟩]⟩ := by
    rw [hnext]
    exact .step (.call rfl (show heard.2.1 ≤ heard.2.1 from le_rfl)) (.nil _)
  exact ⟨_, hheard.append hprint⟩

theorem connected_rounds : ∃ q, operatorHost.Rounds Starts (blocks proxyArgs) ⟨0, [upWorker]⟩
    (heard.1 ++ connected.1 ++ [(connected.2.1, .called 0 () (.exit 0) (.ok ()))]) q := by
  have hheard := callsFor_rounds proxyArgs accepting 18 (.pure (some .command)) 0
  have hconnected := callsFor_rounds proxyArgs accepting 16 heard.2.2 heard.2.1
  obtain ⟨next, hnext⟩ := connected_next
  have hexit : operatorHost.Rounds Starts (blocks proxyArgs) ⟨connected.2.1, [⟨(), connected.2.2⟩]⟩
      [(connected.2.1, .called 0 () (.exit 0) (.ok ()))]
      ⟨connected.2.1, [⟨(), next (.ok ())⟩]⟩ := by
    rw [hnext]
    exact .step (.call rfl (show connected.2.1 ≤ connected.2.1 from le_rfl)) (.nil _)
  exact ⟨_, (hheard.append hconnected).append hexit⟩

/-- It exits with 0 after all of it. -/
theorem exit_code_tells_connected :
    (journey proxyArgs (heard.1 ++ connected.1)).exitCode proxyArgs = 0 := by
  obtain ⟨q, rounds⟩ := connected_rounds
  exact (exit_code_tells rounds).1.symm

/-- The operator is asked to accept the greffer that the manager has. -/
theorem guidance_honest_heard : (journey proxyArgs heard.1).MayTell proxyArgs (.stateRegistering "g") := by
  obtain ⟨q, rounds⟩ := heard_rounds
  exact (guidance_honest rounds).1

end Greffer.Bringup

import Greffer.Registration.Node

/-! # The token of a request

The manager knows a node by the token it registered with, the one `app.state` holds.  The
heartbeat reads that one for each beat.  The monitor and the renewal read it when a tick or a pass
begins, and `_post_callback` does not read it at all: it resolves a token of its own from
the file.  So every request presents the token that is held, provided that no token is replaced
while somebody still goes by it, and that the callbacks find in the file what is held
(`requests_present_held`); a file that was changed after the registration makes a callback present
another token (`callback_presents_another`).
-/
namespace Greffer.Registration
open Effects

/-- The token of a request of the node as it is at work: a heartbeat, a report of the monitor, a
renewal or a callback. -/
def presented : NodeCall → Option String
  | .postHeartbeat _ token | .reportStatusChange _ _ token | .renewalRequest token
  | .postCallback token => some token
  | _ => none

/-- **Nobody's token is exchanged**: a registration holds another token only when no worker has
read the one before and still goes by it, and a callback that reads the file finds the token that
is held. -/
def Unexchanged (w : Node) (k : Role) : NodeCall → Prop
  | .holdToken token => ∀ n t, (w.conduct n).goesBy = some t → t = token
  | .readToken => k = .callback →
      ∃ content, w.file = .text content ∧ strip content = w.held ∧ w.held ≠ ""
  | _ => True

/-- Whoever has read a token has read the one that is held. -/
structure Node.ByHeld (w : Node) : Prop where
  goesBy : ∀ n t, (w.conduct n).goesBy = some t → t = w.held
  misread : ∀ n, (w.conduct n).misread = false

section Record
variable {k : Role} {s : Conduct} {c : NodeCall} {r : Raises NodeCall.Answer WorkerError c}

theorem record_goesBy {t : String} (hheld : c ≠ .heldToken) (hread : c ≠ .readToken)
    (hmint : c ≠ .mint) (h : (record k s c r).goesBy = some t) : s.goesBy = some t := by
  unfold record at h
  split at h <;> grind

theorem record_misread (hread : c ≠ .readToken) : (record k s c r).misread = s.misread := by
  unfold record
  split <;> grind

end Record

namespace Node.ByHeld
variable {settings : NodeSettings} {w : Node} {n : Nat} {k : Role} {c : NodeCall}
  {r : Raises NodeCall.Answer WorkerError c}

/-- What is to be shown of a step: it holds the same token, and so does the record of its worker. -/
theorem of_record (h : w.ByHeld) (hheld : (w.noted n k c r).held = w.held)
    (hgoesBy : ∀ t, (record k (w.conduct n) c r).goesBy = some t → t = w.held)
    (hmisread : (record k (w.conduct n) c r).misread = false) : (w.noted n k c r).ByHeld := by
  refine ⟨?_, ?_⟩
  · intro m t ht
    rw [hheld]
    simp only [Node.noted] at ht
    by_cases hm : m = n
    · subst hm
      rw [Function.update_self] at ht
      exact hgoesBy t ht
    · rw [Function.update_of_ne hm] at ht
      exact h.goesBy m t ht
  · intro m
    simp only [Node.noted]
    by_cases hm : m = n
    · subst hm
      rw [Function.update_self]
      exact hmisread
    · rw [Function.update_of_ne hm]
      exact h.misread m

theorem kept (h : w.ByHeld) (hheld : (w.noted n k c r).held = w.held) (hread : c ≠ .readToken)
    (hheldToken : c ≠ .heldToken) (hmint : c ≠ .mint) : (w.noted n k c r).ByHeld :=
  h.of_record hheld (fun t ht => h.goesBy n t (record_goesBy hheldToken hread hmint ht))
    ((record_misread hread).trans (h.misread n))

theorem noted (h : w.ByHeld) (hanswers : w.answers c r)
    (hallowed : allowed settings k (w.conduct n) c) (hunexchanged : Unexchanged w k c) :
    (w.noted n k c r).ByHeld := by
  cases c with
  | holdToken token =>
    cases hanswers
    refine ⟨?_, ?_⟩
    · intro m t ht
      simp only [Node.noted] at ht
      refine hunexchanged m t ?_
      by_cases hm : m = n
      · subst hm
        rw [Function.update_self] at ht
        exact ht
      · rwa [Function.update_of_ne hm] at ht
    · intro m
      simp only [Node.noted]
      by_cases hm : m = n
      · subst hm
        rw [Function.update_self]
        exact h.misread m
      · rw [Function.update_of_ne hm]
        exact h.misread m
  | heldToken =>
    cases hanswers
    refine h.of_record rfl ?_ ?_
    · intro t ht
      simp only [record] at ht
      split at ht
      · exact h.goesBy n t ht
      · exact (Option.some.inj ht).symm
    · exact (record_misread (c := .heldToken) (by simp)).trans (h.misread n)
  | readToken =>
    by_cases hk : k = .callback
    · obtain ⟨content, hfile, hstrip, hne⟩ := hunexchanged hk
      have hr : r = .ok (.text content) := by
        rw [show r = w.file.read from hanswers, hfile]
        rfl
      subst hr
      rw [← hstrip] at hne
      refine h.of_record rfl ?_ ?_
      · intro t ht
        simp only [record, hk, ne_eq, not_true_eq_false, if_false, hne, not_false_eq_true,
          if_true, Option.some.injEq] at ht
        rw [← ht, hstrip]
      · simp only [record, hk, ne_eq, not_true_eq_false, if_false, hne, not_false_eq_true, if_true]
        exact h.misread n
    · have hsame : (record k (w.conduct n) .readToken r).goesBy = (w.conduct n).goesBy ∧
          (record k (w.conduct n) .readToken r).misread = (w.conduct n).misread := by
        unfold record
        split <;> grind
      refine h.of_record rfl ?_ (hsame.2.trans (h.misread n))
      intro t ht
      rw [hsame.1] at ht
      exact h.goesBy n t ht
  | mint =>
    -- a callback mints only where it has misread the file
    have hk : k ≠ .callback := by
      intro hk
      have hmisread := hallowed.2 hk
      rw [h.misread n] at hmisread
      cases hmisread
    have hsame : (record k (w.conduct n) .mint r).goesBy = (w.conduct n).goesBy := by
      unfold record
      split <;> grind
    refine h.of_record rfl ?_ ((record_misread (c := .mint) (by simp)).trans (h.misread n))
    intro t ht
    rw [hsame] at ht
    exact h.goesBy n t ht
  | writeToken token => rcases r with e | (_ | _) <;> exact h.kept rfl (by simp) (by simp) (by simp)
  | _ => cases r <;> exact h.kept rfl (by simp) (by simp) (by simp)

end Node.ByHeld

/-- **With no token exchanged, the workers go by the one that is held.** -/
theorem looped_unexchanged (settings : NodeSettings) :
    Looped (node.guard Unexchanged) Starts (blocks settings) (conduct settings)
      (fun s => s.isSome) At Agree (fun N w => SoundWith settings N w ∧ w.ByHeld) where
  block := (looped settings).block
  own h hagree hok hafter := (looped settings).own h.2 hagree hok hafter
  other h hagree hok hafter hne hagree' := (looped settings).other h.2 hagree hok hafter hne hagree'
  drift h hagree := (looped settings).drift h hagree
  fresh hstarts hinv := (looped settings).fresh hstarts hinv.1
  inv_serve := by
    rintro n k w c r w' s N ⟨hunexchanged, hserve⟩ hn rfl hok hafter ⟨hsound, hheld⟩
    refine ⟨(looped settings).inv_serve hserve hn rfl hok hafter hsound, ?_⟩
    obtain ⟨hanswers, rfl⟩ := hserve
    exact hheld.noted hanswers (allowed_of_after hafter) hunexchanged
  inv_drift := by
    rintro w w' N hdrift ⟨hsound, hheld⟩
    refine ⟨(looped settings).inv_drift hdrift hsound, ?_⟩
    obtain ⟨file, rfl⟩ := hdrift
    exact ⟨hheld.goesBy, hheld.misread⟩
  inv_succ := by
    rintro w N ⟨hsound, hheld⟩
    exact ⟨(looped settings).inv_succ hsound, hheld⟩

theorem started_byHeld {settings : NodeSettings} {w : Node} (h : Started settings w) :
    w.ByHeld := by
  refine ⟨?_, ?_⟩
  · intro n t ht
    rw [h.conduct] at ht
    unfold startConduct at ht
    split at ht <;> cases ht
  · intro n
    rw [h.conduct]
    unfold startConduct
    split <;> rfl

/-- **Every request presents the token that is held**, in every run in which no token is exchanged
under those who go by it. -/
theorem requests_present_held {settings : NodeSettings} {w : Node}
    {q : Crew Role.Reply Role.Label Node} {es : List (Node × Event Role.Reply)}
    (start : Started settings w)
    (rounds : node.Rounds Starts (blocks settings) ⟨w, workers⟩ es q)
    (unexchanged : ∀ e ∈ es, Meets Unexchanged e) {w' : Node} {n : Nat} {k : Role} {c : NodeCall}
    {r : Raises NodeCall.Answer WorkerError c} (he : (w', .called n k c r) ∈ es) {token : String}
    (htoken : presented c = some token) : token = w'.held := by
  obtain ⟨hsound, hthreads⟩ := started_agrees start
  obtain ⟨N, s, ⟨hinv, hheld⟩, rfl, -, hafter⟩ := (looped_unexchanged settings).at_call
    (rounds.guard unexchanged) ⟨⟨hsound, started_byHeld start⟩, hthreads⟩ he
  have hallowed := (allowed_of_after hafter).2
  cases c <;> cases htoken
  case postHeartbeat seq => exact hheld.goesBy n token hallowed
  case reportStatusChange greffonId status => exact hheld.goesBy n token hallowed
  case renewalRequest => exact hheld.goesBy n token hallowed
  case postCallback =>
    rcases hallowed with hread | hpinned
    · exact hheld.goesBy n token hread
    · exact (hinv.1.held_pinned token hpinned).symm

/-! ## A callback on its own -/

/-- A callback that runs alone in a node to which everything is granted. -/
def grantedCallback (w : Node) : List (Node × Event Role.Reply) × Node ×
    Prog (Role.Reply .callback) (Option (Role.Label .callback)) :=
  roundsFor (Node.granting 5 .callback) (blocks {} .callback) 5 3 (.pure (some ())) w

/-- It may start and run at any time. -/
theorem grantedCallback_rounds (w : Node) (ts : List (Worker Role.Reply Role.Label))
    (hts : ts.length = 5) :
    node.Rounds Starts (blocks {}) ⟨w, ts⟩ ((w, .started 5) :: (grantedCallback w).1)
      ⟨(grantedCallback w).2.1,
        (ts ++ [atHead .callback ()]).set 5 ⟨.callback, (grantedCallback w).2.2⟩⟩ := by
  have hlast : (ts ++ [atHead .callback ()])[5]? = some (atHead .callback ()) := by
    rw [← hts]
    exact List.getElem?_concat_length
  have h := granted_rounds {} 5 .callback 3 (.pure (some ())) w _ hlast
  have hstart : node.Step Starts ⟨w, ts⟩ (.started 5) ⟨w, ts ++ [atHead .callback ()]⟩ := by
    rw [← hts]
    exact .start .callback
  unfold grantedCallback
  exact .step hstart h

/-- The token that an event presents, with the one that is held. -/
def presentedWith : Node × Event Role.Reply → Option (String × String)
  | (w, .called _ _ c _) => (presented c).map fun token => (token, w.held)
  | _ => none

theorem presentedWith_mem {es : List (Node × Event Role.Reply)} {token held : String}
    (h : (token, held) ∈ es.filterMap presentedWith) :
    ∃ w n k c r, (w, Event.called n k c r) ∈ es ∧ presented c = some token ∧ w.held = held := by
  obtain ⟨⟨w, e⟩, he, hpair⟩ := List.mem_filterMap.mp h
  cases e with
  | called n k c r =>
    obtain ⟨t, ht, heq⟩ := Option.map_eq_some_iff.mp hpair
    obtain ⟨rfl, rfl⟩ := Prod.mk.inj heq
    exact ⟨w, n, k, c, r, he, ht, rfl⟩
  | started n => cases hpair
  | drifted => cases hpair

/-- A step that exchanges no token: it holds none, and if it reads the file it finds the one that
is held. -/
def exchangesNone : Node × Event Role.Reply → Bool
  | (_, .called _ _ (.holdToken _) _) => false
  | (w, .called _ _ .readToken _) =>
    match w.file with
    | .text content => strip content == w.held && w.held != ""
    | _ => false
  | _ => true

theorem meets_of_exchangesNone {e : Node × Event Role.Reply} (h : exchangesNone e = true) :
    Meets Unexchanged e := by
  obtain ⟨w, e⟩ := e
  cases e with
  | started n => trivial
  | drifted => trivial
  | called n k c r =>
    cases c with
    | holdToken token => cases h
    | readToken =>
      intro _
      simp only [exchangesNone] at h
      split at h
      case h_1 content hfile =>
        rw [Bool.and_eq_true, beq_iff_eq, bne_iff_ne] at h
        exact ⟨content, hfile, h.1, h.2⟩
      case h_2 => cases h
    | _ => trivial

/-- The callback of a node whose file says what is held. -/
theorem requests_present_held_booted : ∃ w' n k c r,
    (w', Event.called n k c r) ∈
      (booted "token", .started 5) :: (grantedCallback (booted "token")).1 ∧
      presented c = some "token" ∧ "token" = w'.held := by
  have hmeets : ((booted "token", .started 5) :: (grantedCallback (booted "token")).1).all
      exchangesNone = true := by decide +kernel
  have hpresents : ("token", "token") ∈
      (grantedCallback (booted "token")).1.filterMap presentedWith := by decide +kernel
  obtain ⟨w, n, k, c, r, he, hc, -⟩ := presentedWith_mem hpresents
  have he' := List.mem_cons_of_mem (booted "token", Event.started 5) he
  exact ⟨w, n, k, c, r, he', hc, requests_present_held (booted_started "token")
    (grantedCallback_rounds (booted "token") workers rfl)
    (fun e he => meets_of_exchangesNone (List.all_eq_true.mp hmeets e he)) he' hc⟩

/-! ## A token file that is changed after the registration -/

/-- The node after its registration with `token`, whose file then says `other`. -/
def rotated (token other : String) : Node :=
  { (firstRegistration token).2.1 with file := .text other }

/-- **A callback presents what the file says**: the node has registered with one token and holds
it, its file says another. -/
theorem callback_presents_another :
    ∃ q es, Started {} (booted "old") ∧
      node.Rounds Starts (blocks {}) ⟨booted "old", workers⟩ es q ∧ q.world.registered = true ∧
      ∃ w n k c r, (w, Event.called n k c r) ∈ es ∧ presented c = some "new" ∧ w.held = "old" := by
  have hcallback := grantedCallback_rounds (rotated "old" "new")
    (workers.set 0 ⟨.register, (firstRegistration "old").2.2⟩) rfl
  refine ⟨_, _, booted_started "old", (firstRegistration_rounds "old").append
    (.step (.drift ⟨.text "new", rfl⟩) hcallback), by decide +kernel, ?_⟩
  have hpresents : ("new", "old") ∈
      (grantedCallback (rotated "old" "new")).1.filterMap presentedWith := by decide +kernel
  obtain ⟨w, n, k, c, r, he, hc, hheld⟩ := presentedWith_mem hpresents
  exact ⟨w, n, k, c, r,
    List.mem_append_right _ (List.mem_cons_of_mem _ (List.mem_cons_of_mem _ he)), hc, hheld⟩

end Greffer.Registration

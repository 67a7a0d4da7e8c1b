import Greffer.Http.RequestId

/-! # Every response carries its id

`responses_identified` is about every run, wherever it is stopped; `outcome_kept` about those that
return.  What is no HTTP request is left alone (`others_pass`).
-/
namespace Greffer.Http
open Effects

/-! ## What stands for what -/

/-- The error response. -/
def errorResponse (id : String) : List Message := [identified id errorStart, errorBody]

/-- What the application has sent, as `f` makes it, and logged, under the id, behind what was there;
and what it was answered. -/
structure Carries (f : Message → Message) (id : Option String) (w₀ : Server) (v : Heard)
    (w : Server) : Prop where
  answers : w.answers = w₀.answers ++ v.answers
  sent : w.sent = w₀.sent ++ v.sent.map f
  logged : w.logged = w₀.logged ++ v.lines.map fun line => (line, id)
  requestId : w.requestId = id

/-- A request before anything has happened. -/
def blank : Server where
  requestId := none

/-- What the application has sent and logged, under its id. -/
abbrev CarriesId (id : String) : Heard → Server → Prop := Carries (identified id) (some id) blank

/-- Between the calls of the application `started` says whether a response has begun, too. -/
def CarriesAll (id : String) (v : Heard) (w : Server) : Prop :=
  CarriesId id v w ∧ w.started = v.sent.any Message.isStart

/-- What is sent behind a run of the application, and logged: nothing, or, where it has ended with
an exception before its response began, some of the error response. -/
def Behind (id : String) (v : Heard) (q : Application) (extra : List Message)
    (lines : List String) : Prop :=
  (extra = [] ∧ lines = []) ∨
    (∃ e, q = .pure (.error (.exception e))) ∧ v.sent.any Message.isStart = false ∧
      extra <+: errorResponse id ∧ lines <+: ["unhandled error during request"]

/-- **What the server has been sent, and every line logged, stands for a run of the application**
that was answered the same. -/
def StandsFor (id : String) (app : Application) (w : Server) : Prop :=
  ∃ v q, Run alone {} app v q ∧ v.answers <+: w.answers ∧ ∃ extra lines, Behind id v q extra lines ∧
    w.sent = v.sent.map (identified id) ++ extra ∧
    w.logged = (v.lines ++ lines).map fun line => (line, some id)

/-- What a request comes to: what the application comes to, or, where that is an exception before
its response began, the whole error response, or the exception of sending it. -/
def ComesTo (id : String) (app : Application) (r : Except AppError Unit) (w : Server) : Prop :=
  ∃ v result, Run alone {} app v (.pure result) ∧ v.answers <+: w.answers ∧
    ((r = result ∧ w.sent = v.sent.map (identified id) ∧
        ∀ e, result = .error (.exception e) → v.sent.any Message.isStart = true) ∨
      (∃ e, result = .error (.exception e)) ∧ v.sent.any Message.isStart = false ∧
        (r = .ok () → w.sent = v.sent.map (identified id) ++ errorResponse id) ∧
        ∀ e, r = .error e → w.answers.getLast? = some (.sent (.error e)))

/-! ## One call -/

section Carried
variable {f : Message → Message} {id : Option String} {w₀ w : Server} {v : Heard}

theorem Carries.answer (h : Carries f id w₀ v w) (reaction : Reaction) :
    Carries f id w₀ { v with answers := v.answers ++ [reaction] }
      { w with answers := w.answers ++ [reaction] } where
  answers := by rw [h.answers, List.append_assoc]
  sent := h.sent
  logged := h.logged
  requestId := h.requestId

theorem Carries.send (h : Carries f id w₀ v w) (m : Message) :
    Carries f id w₀ { v with sent := v.sent ++ [m] } { w with sent := w.sent ++ [f m] } where
  answers := h.answers
  sent := by
    rw [h.sent, List.map_append, List.append_assoc]
    rfl
  logged := h.logged
  requestId := h.requestId

theorem Carries.log (h : Carries f id w₀ v w) (line : String) :
    Carries f id w₀ { v with lines := v.lines ++ [line] }
      { w with logged := w.logged ++ [(line, w.requestId)] } where
  answers := h.answers
  sent := h.sent
  logged := by
    rw [h.logged, h.requestId, List.map_append, List.append_assoc]
    rfl
  requestId := h.requestId

theorem Carries.mark (h : Carries f id w₀ v w) : Carries f id w₀ v { w with started := true } :=
  ⟨h.answers, h.sent, h.logged, h.requestId⟩

theorem Carries.sends (h : Carries f id w₀ v w) (m : Message) :
    (ask (.send (f m))).Always server (Midway alone (Carries f id w₀) v (.send m))
      (fun r w' => ∃ v', alone.serve v (.send m) r v' ∧ Carries f id w₀ v' w' ∧
        v'.sent = v.sent ++ [m] ∧ w'.started = w.started) w := by
  refine ⟨.inl h, ?_⟩
  rintro r w' rfl
  have hsent := (h.send m).answer (.sent r)
  exact ⟨.inr ⟨r, _, rfl, hsent⟩, _, rfl, hsent, rfl, rfl⟩

/-- Each call of the application keeps the two levels together, if `send` does. -/
theorem calledWith_carries {send : Message → Serving Unit} {R : Heard → Server → Prop}
    (h : Carries f id w₀ v w)
    (hR : ∀ v' w', Carries f id w₀ v' w' → v'.sent = v.sent → w'.started = w.started → R v' w')
    (hsend : ∀ m, (send m).Always server (Midway alone (Carries f id w₀) v (.send m))
      (fun r w' => ∃ v', alone.serve v (.send m) r v' ∧ R v' w') w) (c : AppCall) :
    (calledWith send c).Always server (Midway alone (Carries f id w₀) v c)
      (fun r w' => ∃ v', alone.serve v c r v' ∧ R v' w') w := by
  cases c with
  | send m => exact hsend m
  | receive =>
    refine ⟨.inl h, ?_⟩
    rintro r w' rfl
    have hanswered := h.answer (.received r)
    exact ⟨.inr ⟨r, _, rfl, hanswered⟩, _, rfl, hR _ _ hanswered rfl rfl⟩
  | work what =>
    refine ⟨.inl h, ?_⟩
    rintro r w' rfl
    have hanswered := h.answer (.worked what r)
    exact ⟨.inr ⟨r, _, rfl, hanswered⟩, _, rfl, hR _ _ hanswered rfl rfl⟩
  | log line =>
    refine ⟨.inl h, ?_⟩
    rintro r w' ⟨rfl, rfl⟩
    have hlogged := h.log line
    exact ⟨.inr ⟨_, _, ⟨rfl, rfl⟩, hlogged⟩, _, ⟨rfl, rfl⟩, hR _ _ hlogged rfl rfl⟩

end Carried

section Steps
variable {id : String} {app : Application} {v : Heard} {w w' : Server}

theorem standsFor_of_carries {q : Application} (run : Run alone {} app v q)
    (h : CarriesId id v w) : StandsFor id app w :=
  ⟨v, q, run, h.answers ▸ List.prefix_rfl, [], [], .inl ⟨rfl, rfl⟩,
    (List.append_nil _).symm ▸ h.sent, (List.append_nil _).symm ▸ h.logged⟩

theorem sendWithHeader_carries (h : CarriesAll id v w) (m : Message) :
    (sendWithHeader id m).Always server (Midway alone (CarriesId id) v (.send m))
      (fun r w' => ∃ v', alone.serve v (.send m) r v' ∧ CarriesAll id v' w') w := by
  obtain ⟨hcarries, hstarted⟩ := h
  have hsends {w : Server} (h : CarriesId id v w)
      (hstarted : w.started = (v.sent ++ [m]).any Message.isStart) :
      (ask (.send (identified id m))).Always server (Midway alone (CarriesId id) v (.send m))
        (fun r w' => ∃ v', alone.serve v (.send m) r v' ∧ CarriesAll id v' w') w := by
    refine (h.sends m).mono ?_
    rintro r w' - ⟨v', served, h', hsent, hsame⟩
    refine ⟨v', served, h', ?_⟩
    rw [hsame, hstarted, hsent]
  unfold sendWithHeader
  by_cases hm : m.isStart = true
  · rw [if_pos hm, Action.always_bind]
    refine ⟨.inl hcarries, ?_⟩
    rintro r w' ⟨rfl, rfl⟩
    refine ⟨.inl hcarries.mark, hsends hcarries.mark ?_⟩
    simp [hm]
  · rw [if_neg hm]
    refine hsends hcarries ?_
    simp [hstarted, hm]

/-- Each call of the application, where it is called with `send_with_header`. -/
theorem called_carries (h : CarriesAll id v w) (c : AppCall) :
    (calledWith (sendWithHeader id) c).Always server (Midway alone (CarriesId id) v c)
      (fun r w' => ∃ v', alone.serve v c r v' ∧ CarriesAll id v' w') w := by
  refine calledWith_carries h.1 (fun v' w' h' hsent hsame => ⟨h', ?_⟩)
    (sendWithHeader_carries h) c
  rw [hsame, h.2, hsent]

/-! ## The error response -/

/-- Part of the error response has been sent behind a run of the application that has ended with an
exception before its response began. -/
structure Failing (id : String) (app : Application) (v : Heard) (w : Server) (k j : Nat) :
    Prop where
  ended : ∃ e, Run alone {} app v (.pure (.error (.exception e)))
  answers : v.answers <+: w.answers
  started : v.sent.any Message.isStart = false
  sent : w.sent = v.sent.map (identified id) ++ (errorResponse id).take k
  logged : w.logged = (v.lines ++ ["unhandled error during request"].take j).map
    fun line => (line, some id)
  requestId : w.requestId = some id

theorem Failing.standsFor {k j : Nat} (h : Failing id app v w k j) : StandsFor id app w := by
  obtain ⟨e, run⟩ := h.ended
  exact ⟨v, _, run, h.answers, _, _,
    .inr ⟨⟨e, rfl⟩, h.started, List.take_prefix _ _, List.take_prefix _ _⟩, h.sent, h.logged⟩

theorem Failing.comesTo {k j : Nat} {r : Except AppError Unit} (h : Failing id app v w k j)
    (hlast : w.answers.getLast? = some (.sent r)) (hall : r = .ok () → k = 2) :
    ComesTo id app r w := by
  obtain ⟨e, run⟩ := h.ended
  refine ⟨v, _, run, h.answers, .inr ⟨⟨e, rfl⟩, h.started, fun hr => ?_, ?_⟩⟩
  · rw [h.sent, hall hr]
    rfl
  · rintro e' rfl
    exact hlast

theorem Failing.send {k j : Nat} {m : Message} (h : Failing id app v w k j)
    (hm : (errorResponse id)[k]? = some m) (reaction : Reaction) :
    Failing id app v { w with sent := w.sent ++ [m], answers := w.answers ++ [reaction] }
      (k + 1) j where
  ended := h.ended
  answers := h.answers.trans (List.prefix_append _ _)
  started := h.started
  sent := by
    rw [h.sent, List.take_add_one, hm, List.append_assoc]
    rfl
  logged := h.logged
  requestId := h.requestId

theorem Failing.log {k : Nat} (h : Failing id app v w k 0) :
    Failing id app v { w with
      logged := w.logged ++ [("unhandled error during request", w.requestId)] } k 1 where
  ended := h.ended
  answers := h.answers
  started := h.started
  sent := h.sent
  logged := by
    rw [h.logged, h.requestId]
    simp
  requestId := h.requestId

theorem Failing.mark {k j : Nat} (h : Failing id app v w k j) :
    Failing id app v { w with started := true } k j :=
  ⟨h.ended, h.answers, h.started, h.sent, h.logged, h.requestId⟩

theorem Failing.sends {k j : Nat} {m : Message} (h : Failing id app v w k j)
    (hm : (errorResponse id)[k]? = some m) :
    (ask (.send m)).Always server (StandsFor id app)
      (fun r w' => Failing id app v w' (k + 1) j ∧ w'.answers.getLast? = some (.sent r)) w := by
  refine ⟨h.standsFor, ?_⟩
  rintro r w' rfl
  exact ⟨(h.send hm (.sent r)).standsFor, h.send hm (.sent r), List.getLast?_concat⟩

theorem errorStart_always {j : Nat} (h : Failing id app v w 0 j) :
    (sendWithHeader id errorStart).Always server (StandsFor id app)
      (fun r w' => Failing id app v w' 1 j ∧ w'.answers.getLast? = some (.sent r)) w := by
  rw [sendWithHeader, if_pos (by rfl), Action.always_bind]
  refine ⟨h.standsFor, ?_⟩
  rintro r w' ⟨rfl, rfl⟩
  exact ⟨h.mark.standsFor, h.mark.sends rfl⟩

theorem respondError_always (h : Failing id app v w 0 0) :
    (respondError id).Always server (StandsFor id app) (ComesTo id app) w := by
  unfold respondError
  rw [Action.always_bind]
  refine ⟨h.standsFor, ?_⟩
  rintro r w' ⟨rfl, rfl⟩
  refine ⟨h.log.standsFor, ?_⟩
  rw [onOk_ok, Action.always_bind]
  refine (errorStart_always h.log).mono ?_
  rintro (e | u) w' - ⟨h', hlast⟩
  · exact h'.comesTo hlast nofun
  · exact (h'.sends rfl).mono fun r w'' _ h'' => h''.1.comesTo h''.2 fun _ => rfl

/-- **`except Exception`**, where the application has ended with an exception. -/
theorem onError_always {e : AppError} (run : Run alone {} app v (.pure (.error e)))
    (h : CarriesAll id v w) :
    (onError id e).Always server (StandsFor id app) (ComesTo id app) w := by
  obtain ⟨hcarries, hstarted⟩ := h
  have hstands := standsFor_of_carries run hcarries
  have hanswers : v.answers <+: w.answers := hcarries.answers ▸ List.prefix_rfl
  cases e with
  | cancelled => exact ⟨hstands, v, _, run, hanswers, .inl ⟨rfl, hcarries.sent, nofun⟩⟩
  | exception e =>
    rw [onError, Action.always_bind]
    refine ⟨hstands, ?_⟩
    rintro r w₁ ⟨rfl, rfl⟩
    refine ⟨hstands, ?_⟩
    rw [onOk_ok, Action.always_ite]
    refine ⟨fun hs => ⟨hstands, v, _, run, hanswers, .inl ⟨rfl, hcarries.sent, ?_⟩⟩, fun hs => ?_⟩
    · rintro _ ⟨rfl⟩
      rw [← hstarted, hs]
    · refine respondError_always (v := v) ⟨⟨e, run⟩, hanswers, ?_, ?_, ?_, hcarries.requestId⟩
      · rw [← hstarted]
        simpa using hs
      · exact hcarries.sent.trans (List.append_nil _).symm
      · rw [List.take_zero, List.append_nil]
        exact hcarries.logged

/-! ## The request -/

theorem StandsFor.congr (h : StandsFor id app w) (hsent : w'.sent = w.sent)
    (hlogged : w'.logged = w.logged) (hanswers : w'.answers = w.answers) :
    StandsFor id app w' := by
  obtain ⟨v, q, run, hv, extra, lines, hbehind, hs, hl⟩ := h
  rw [← hanswers] at hv
  exact ⟨v, q, run, hv, extra, lines, hbehind, hsent.trans hs, hlogged.trans hl⟩

theorem ComesTo.congr {r : Except AppError Unit} (h : ComesTo id app r w)
    (hsent : w'.sent = w.sent) (hanswers : w'.answers = w.answers) : ComesTo id app r w' := by
  obtain ⟨v, result, run, hv, hcase⟩ := h
  rw [← hanswers] at hv
  rw [← hsent, ← hanswers] at hcase
  exact ⟨v, result, run, hv, hcase⟩

/-- A request before anything has happened. -/
structure Server.Fresh (w : Server) : Prop where
  answers : w.answers = []
  sent : w.sent = []
  logged : w.logged = []
  started : w.started = false

theorem Server.Fresh.standsFor (h : w.Fresh) (id : String) (app : Application) :
    StandsFor id app w :=
  ⟨{}, app, .refl _ _, List.nil_prefix, [], [], .inl ⟨rfl, rfl⟩, h.sent, h.logged⟩

theorem reset_always {r : Except AppError Unit} (hstands : StandsFor id app w)
    (hcomes : ComesTo id app r w) (token : Option String) :
    (do
      ask (.resetId token)
      Action.ofExcept r : Serving Unit).Always server (StandsFor id app)
      (fun r w' => ComesTo id app r w' ∧ w'.requestId = token) w := by
  rw [Action.always_bind]
  refine ⟨hstands, ?_⟩
  rintro r' w' ⟨rfl, rfl⟩
  have hstands' : StandsFor id app { w with requestId := token } := hstands.congr rfl rfl rfl
  exact ⟨hstands', hstands', hcomes.congr rfl rfl, rfl⟩

/-- **A request under its id.** -/
theorem serveUnder_always (h : w.Fresh) :
    (serveUnder id app).Always server (StandsFor id app)
      (fun r w' => ComesTo id app r w' ∧ w'.requestId = w.requestId) w := by
  unfold serveUnder
  rw [Action.always_bind]
  refine ⟨h.standsFor id app, ?_⟩
  rintro r w₁ ⟨rfl, rfl⟩
  refine ⟨(h.standsFor id app).congr rfl rfl rfl, ?_⟩
  rw [onOk_ok, Action.always_bind, Action.always_outcome, Action.always_tryExcept]
  have hcarries : CarriesAll id {} { w with requestId := some id } :=
    ⟨⟨h.answers, h.sent, h.logged, rfl⟩, h.started⟩
  have hsim := Action.implement_simulates (m := app) (N := alone) (M := server)
    (J := CarriesId id) (fun v w (h : CarriesAll id v w) => h.1)
    (fun c v w h => called_carries h c) hcarries
  refine hsim.imp ?_ ?_
  · rintro w' ⟨v, q, run, hv⟩
    exact standsFor_of_carries run hv
  · rintro (e | u) w' - ⟨v, run, hv⟩
    · refine (onError_always run hv).mono ?_
      intro r w'' hstands hcomes
      exact reset_always hstands hcomes _
    · refine reset_always (standsFor_of_carries run hv.1) ?_ _
      exact ⟨v, _, run, hv.1.answers ▸ List.prefix_rfl, .inl ⟨rfl, hv.1.sent, nofun⟩⟩

/-- There is always an id that a request may run under. -/
theorem exists_names (scope : Scope) : ∃ id, scope.Names id := by
  unfold Scope.Names
  cases scope.accepted with
  | some incoming => exact ⟨incoming, rfl⟩
  | none => exact ⟨"00000000000000000000000000000000", by decide⟩

theorem serveHttp_always (scope : Scope) (h : w.Fresh) :
    (serveHttp scope app).Always server (fun w' => ∃ id, scope.Names id ∧ StandsFor id app w')
      (fun r w' => ∃ id, scope.Names id ∧ ComesTo id app r w' ∧ w'.requestId = w.requestId) w := by
  have hunder (id : String) (hid : scope.Names id) {w₁ : Server} (h₁ : w₁.Fresh)
      (hsame : w₁.requestId = w.requestId) :
      (serveUnder id app).Always server (fun w' => ∃ id, scope.Names id ∧ StandsFor id app w')
        (fun r w' => ∃ id, scope.Names id ∧ ComesTo id app r w' ∧ w'.requestId = w.requestId)
        w₁ := by
    refine (serveUnder_always h₁).imp (fun w' hstands => ⟨id, hid, hstands⟩) ?_
    rintro r w' - ⟨hcomes, hreset⟩
    exact ⟨id, hid, hcomes, hreset.trans hsame⟩
  unfold serveHttp
  cases haccepted : scope.accepted with
  | some id =>
    refine hunder id ?_ h rfl
    unfold Scope.Names
    rw [haccepted]
  | none =>
    obtain ⟨any, hany⟩ := exists_names scope
    dsimp only
    rw [Action.always_bind]
    refine ⟨⟨any, hany, h.standsFor any app⟩, ?_⟩
    rintro r w₁ ⟨⟨id, rfl, hhex⟩, rfl⟩
    refine ⟨⟨any, hany, h.standsFor any app⟩, hunder id ?_ h rfl⟩
    unfold Scope.Names
    rw [haccepted]
    exact hhex

end Steps

/-! ## Other scopes -/

/-- **A scope that is no HTTP request** is left to the application. -/
theorem others_pass {scope : Scope} {app : Application} {w w' : Server} {q : Serving Unit}
    (hother : scope.type ≠ "http") (run : Run server w (middleware scope app) w' q) :
    StandsForRun alone (Carries id w.requestId w) {} app w' := by
  rw [middleware, if_neg hother] at run
  have hstart : Carries id w.requestId w {} w := ⟨by simp, by simp, by simp, rfl⟩
  have hcall (c : AppCall) (v : Heard) (w' : Server) (h : Carries id w.requestId w v w') :
      (calledWith (fun m => ask (.send m)) c).Always server
        (Midway alone (Carries id w.requestId w) v c)
        (fun r w'' => ∃ v', alone.serve v c r v' ∧ Carries id w.requestId w v' w'') w' := by
    refine calledWith_carries h (fun _ _ h' _ _ => h') (fun m => (h.sends m).mono ?_) c
    rintro r w'' - ⟨v', served, h', -, -⟩
    exact ⟨v', served, h'⟩
  exact (Action.implement_simulates (fun _ _ h => h) hcall hstart).at_stop run

/-! ## What the id is good for -/

theorem idChar_of_hex {c : Char} (h : c ∈ Hex.lowerDigits) : idChar c = true := by
  have hall : Hex.lowerDigits.all idChar = true := by decide
  exact List.all_eq_true.mp hall c h

theorem harmless_of_names {scope : Scope} {id : String} (h : scope.Names id) :
    harmless id = true := by
  unfold Scope.Names at h
  cases haccepted : scope.accepted with
  | some incoming =>
    rw [haccepted] at h
    subst h
    exact (Option.filter_eq_some_iff.mp haccepted).2
  | none =>
    rw [haccepted] at h
    obtain ⟨hlength, hdigits⟩ := Bool.and_eq_true_iff.mp h
    have hlength := eq_of_beq hlength
    have hchars : id.toList.all idChar = true :=
      List.all_eq_true.mpr fun c hc =>
        idChar_of_hex (of_decide_eq_true (List.all_eq_true.mp hdigits c hc))
    have hne : id.toList.isEmpty = false := by
      apply List.isEmpty_eq_false_iff.mpr
      intro hnil
      rw [hnil] at hlength
      cases hlength
    unfold harmless
    rw [hchars, hne, hlength]
    rfl

/-- The headers of a message that say an id. -/
def Message.idHeaders (m : Message) : List Header := (m.headers.getD []).filter isIdHeader

/-- A message that begins a response has the id, and no other. -/
theorem idHeaders_identified (id : String) {m : Message} (h : (identified id m).isStart = true) :
    (identified id m).idHeaders = [(headerName, latin1 id)] := by
  have hname : isIdHeader (headerName, latin1 id) = true := by
    show (lowerBytes headerName == headerName) = true
    decide
  unfold identified at h ⊢
  by_cases hm : m.isStart = true
  · rw [if_pos hm]
    show (withId id (m.headers.getD [])).filter isIdHeader = _
    simp [withId, hname]
  · rw [if_neg hm] at h
    exact absurd h hm

/-- Each response that the server has been sent begins with the id, and no other. -/
def Server.Shows (w : Server) (id : String) : Prop :=
  ∀ m ∈ w.sent, m.isStart = true → m.idHeaders = [(headerName, latin1 id)]

theorem StandsFor.shows {id : String} {app : Application} {w : Server}
    (h : StandsFor id app w) : w.Shows id := by
  intro m hm hstart
  obtain ⟨v, q, run, -, extra, lines, hbehind, hsent, -⟩ := h
  rw [hsent] at hm
  rcases List.mem_append.mp hm with happ | hextra
  · obtain ⟨m, -, rfl⟩ := List.mem_map.mp happ
    exact idHeaders_identified id hstart
  · rcases hbehind with ⟨rfl, -⟩ | ⟨-, -, hbegins, -⟩
    · cases hextra
    · rcases List.mem_cons.mp (hbegins.subset hextra) with rfl | hbody
      · exact idHeaders_identified id hstart
      · cases List.mem_singleton.mp hbody
        cases hstart

/-! ## The results -/

/-- **Wherever an HTTP request is stopped**, it runs under one id, the one that came with it if that
is harmless.  What the server has been sent, and every line that was logged, stands for a run of the
application, and each response begins with that id and no other. -/
theorem responses_identified {scope : Scope} {app : Application} {w w' : Server} {q : Serving Unit}
    (hhttp : scope.type = "http") (hfresh : w.Fresh)
    (run : Run server w (middleware scope app) w' q) :
    ∃ id, scope.Names id ∧ harmless id = true ∧ StandsFor id app w' ∧ w'.Shows id := by
  rw [middleware, if_pos hhttp] at run
  obtain ⟨id, hnames, hstands⟩ := (serveHttp_always scope hfresh).at_stop run
  exact ⟨id, hnames, harmless_of_names hnames, hstands, hstands.shows⟩

/-- A server that answers. -/
def answered (w : Server) : (c : ServerCall) → Raises ServerCall.Answer AppError c × Server
  | .receive =>
    let r := .ok { type := "http.request" }
    (r, { w with answers := w.answers ++ [.received r] })
  | .work what => (.ok .none, { w with answers := w.answers ++ [.worked what (.ok .none)] })
  | .send message => (.ok (), { w with
      sent := w.sent ++ [message], answers := w.answers ++ [.sent (.ok ())] })
  | .log line => (.ok (), { w with logged := w.logged ++ [(line, w.requestId)] })
  | .mint => (.ok "00000000000000000000000000000000", w)
  | .setId id => (.ok w.requestId, { w with requestId := some id })
  | .resetId token => (.ok (), { w with requestId := token })
  | .markStarted => (.ok (), { w with started := true })
  | .hasStarted => (.ok w.started, w)

theorem answered_serves (w : Server) (c : ServerCall) :
    server.serve w c (answered w c).1 (answered w c).2 := by
  cases c with
  | receive | work | send => rfl
  | mint => exact ⟨⟨_, rfl, by decide⟩, rfl⟩
  | log | setId | resetId | markStarted | hasStarted => exact ⟨rfl, rfl⟩

/-- A request with an id. -/
def named : Scope where
  type := "http"
  headers := [(latin1 "X-Request-ID", latin1 "a1")]

/-- An application that fails. -/
def failing : Application := do
  Action.perform (AppCall.log "starting")
  Action.raise (.exception (.osError "no docker"))

/-- Its request, before anything has happened, -/
def arriving : Server where
  requestId := none

theorem arriving_fresh : arriving.Fresh := ⟨rfl, rfl, rfl, rfl⟩

/-- and after it. -/
def answeredError : Server := ((middleware named failing).evalFor answered 8 arriving).1

theorem run_answeredError : Run server arriving (middleware named failing) answeredError
    (.pure (.ok ())) :=
  Prog.run_evalFor answered_serves 8 (middleware named failing) arriving

theorem responses_identified_failing : (∃ id, named.Names id ∧ harmless id = true ∧
    StandsFor id failing answeredError ∧ answeredError.Shows id) :=
  responses_identified rfl arriving_fresh run_answeredError

/-- **What a request comes to** is what the application comes to; where that is an exception before
its response began it is the error response, with the id.  The context is as it was before. -/
theorem outcome_kept {scope : Scope} {app : Application} {w w' : Server} {r : Except AppError Unit}
    (hhttp : scope.type = "http") (hfresh : w.Fresh)
    (run : Run server w (middleware scope app) w' (.pure r)) :
    ∃ id, scope.Names id ∧ ComesTo id app r w' ∧ w'.requestId = w.requestId := by
  rw [middleware, if_pos hhttp] at run
  exact (serveHttp_always scope hfresh).at_return run

theorem outcome_kept_failing : (∃ id, named.Names id ∧
    ComesTo id failing (.ok ()) answeredError ∧ answeredError.requestId = none) :=
  outcome_kept rfl arriving_fresh run_answeredError

end Greffer.Http

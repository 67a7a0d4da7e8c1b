import Greffer.Instance.Start

/-! # A refused start and the compose of the last one

A start that is answered with a client error should leave the rendered compose of the
instance as it was.  It is deleted, however, as soon as an `env` destination is applied, or a
`file` destination whose name and volume are accepted; what the content of that file renders
to, the destinations after it, and the compose body may still be refused.

`spares` runs the destinations without touching anything: it says whether all those that
are applied before the refusal, or are refused, leave the file alone.  The loop keeps the file
if and only if they do (`applyDestinations_spec`), so a refused request does
(`refused_start_keeps_iff`).
-/
namespace Greffer.Instance
open Effects
open Compose (Yaml Entries Dict Greffon GreffonInfo Configuration VolumeFile joinPath)

/-- What a start meets: the lock and the updater, what the repository answers, the ports,
and what a baked file renders to. -/
structure Surroundings where
  lockFree : Bool
  updating : Bool
  fetched : Option String → Except Exn Yaml
  allocation : String → GreffonInfo → Except Exn (Except AllocationError GreffonInfo)
  renderFile : GreffonInfo → RawData → Except Exn (Except String String)

/-- What each call does to the content of the instance's `docker-compose.yml`.  No call raises
an HTTP error, and a file is written below the staging directory if its name is bare. -/
def startMachine (s : Surroundings) :
    Machine (Raises (ControlCall.Answer StartCall.Answer) ControlError) (Option String) where
  serve w c r w' := (∀ statusCode detail, r ≠ .error (.http statusCode detail)) ∧ match c, r with
    | .acquire _, r => r = .ok s.lockFree ∧ w' = w
    | .handler .updateInProgress, r => r = .ok s.updating ∧ w' = w
    | .handler (.fetch url), r => r = (s.fetched url).mapError .raised ∧ w' = w
    | .handler (.allocatePorts host info), r =>
      r = (s.allocation host info).mapError .raised ∧ w' = w
    | .handler (.renderFile info raw), r =>
      r = (s.renderFile info raw).mapError .raised ∧ w' = w
    | .handler (.exists name), r => (name = composeName → r = .ok w.isSome) ∧ w' = w
    | .handler (.remove name), r => if name = composeName then r = .ok () → w' = none else w' = w
    | .handler (.writeStaged name _), _ => isBareName name = true → w' = w
    | .handler (.writeCompose text), r => r = .ok () → w' = some text
    | _, _ => w' = w

section Condition
variable (s : Surroundings) (settings : StartSettings) (repr : Repr)

/-- The destination deletes the rendered compose. -/
def removes (info : GreffonInfo) (destination : Yaml) : Bool :=
  match destinationType destination with
  | .error _ => false
  | .ok type => type == "env" ||
      (type == "file" && (stagedName repr info destination.entries).isOk)

/-- The value of a `json` destination is refused when it is rendered. -/
def refusesJson (info : GreffonInfo) (destination : Entries) (value : Yaml) : Bool :=
  match rendersFlag destination, value with
  | true, .str text =>
    match s.renderFile info (.text text) with
    | .ok (.error _) => true
    | _ => false
  | _, _ => false

/-- The destination is refused, if it is one that deletes nothing. -/
def refuses (info : GreffonInfo) (value destination : Yaml) : Bool :=
  match destinationType destination with
  | .error _ => false
  | .ok type =>
    if type = "json" then
      match stagedName repr info destination.entries with
      | .error (.refused _) => true
      | .error (.raised _) => false
      | .ok _ => refusesJson s info destination.entries value
    else if type = "file" then
      match stagedName repr info destination.entries with
      | .error (.refused _) => true
      | _ => false
    else false

/-- The info after a destination that deletes nothing. -/
def listed (info : GreffonInfo) (destination : Yaml) : GreffonInfo :=
  match destinationType destination with
  | .error _ => info
  | .ok type =>
    if type = "json" then
      match stagedName repr info destination.entries with
      | .error _ => info
      | .ok staged => appendFile info staged.2
          (.path (stagedPath settings.greffonPath info.id staged.1) staged.1)
    else info

/-- Every destination, up to and with the first one that is refused, leaves the rendered
compose alone. -/
def spares (info : GreffonInfo) : List (Except Exn (Yaml × Yaml)) → Bool
  | [] => true
  | .error _ :: _ => true
  | .ok (value, destination) :: rest =>
    !removes repr info destination &&
      (refuses s repr info value destination ||
        spares (listed settings repr info destination) rest)

end Condition

/-! ## Code that answers nothing itself -/

/-- What holds of a value that is returned; an exception is no HTTP error. -/
def raisedOr {α : Type} (P : α → Option String → Prop) :
    Except ControlError α → Option String → Prop
  | .ok a, w => P a w
  | .error e, _ => ∃ x, e = .raised x

/-- The code answers no HTTP error, and whenever it returns a value `P` holds of it. -/
def Quietly {α : Type} (s : Surroundings) (P : α → Option String → Prop) (m : Starting α)
    (w : Option String) : Prop :=
  m.Always (startMachine s) (fun _ => True) (raisedOr P) w

section Quiet
variable {α β : Type} {s : Surroundings} {P : α → Option String → Prop}
  {P₂ : β → Option String → Prop} {w : Option String}

theorem Quietly.mono {P' : α → Option String → Prop} {m : Starting α} (h : Quietly s P m w)
    (hP : ∀ a w, P a w → P' a w) : Quietly s P' m w := by
  refine Action.Always.mono h fun r w _ hr => ?_
  cases r with
  | error e => exact hr
  | ok a => exact hP a w hr

theorem quietly_pure {a : α} (h : P a w) : Quietly s P (pure a) w := ⟨trivial, h⟩

theorem quietly_raise (e : Exn) : Quietly s P (Action.raise (.raised e)) w := ⟨trivial, e, rfl⟩

theorem quietly_settle {r : Except Exn α} (h : ∀ a, r = .ok a → P a w) :
    Quietly s P (settle r) w := by
  cases r with
  | error e => exact quietly_raise e
  | ok a => exact ⟨trivial, h a rfl⟩

theorem quietly_call {c : ControlCall StartCall}
    {P : ControlCall.Answer StartCall.Answer c → Option String → Prop}
    (h : ∀ a w', (startMachine s).serve w c (.ok a) w' → P a w') :
    Quietly s P (Action.perform c) w := by
  refine ⟨trivial, fun r w' hs => ⟨trivial, ?_⟩⟩
  cases r with
  | ok a => exact h a w' hs
  | error e =>
    cases e with
    | http statusCode detail => exact absurd rfl (hs.1 statusCode detail)
    | raised x => exact ⟨x, rfl⟩

theorem Quietly.bind {m : Starting α} {f : α → Starting β} (h : Quietly s P m w)
    (hf : ∀ a w, P a w → Quietly s P₂ (f a) w) : Quietly s P₂ (m >>= f) w := by
  unfold Quietly
  rw [Action.always_bind]
  refine Action.Always.mono h fun r w _ hr => ?_
  cases r with
  | error e => exact hr
  | ok a => exact hf a w hr

theorem quietly_ite {c : Prop} [Decidable c] {m m' : Starting α} (h : c → Quietly s P m w)
    (h' : ¬ c → Quietly s P m' w) : Quietly s P (if c then m else m') w :=
  (Action.always_ite c).mpr ⟨h, h'⟩

theorem quietly_aside {c : StartCall}
    (h : ∀ a w', (startMachine s).serve w (.handler c) (.ok a) w' → w' = w) :
    Quietly s (fun _ w' => w' = w) (startOp c) w :=
  quietly_call h

end Quiet

/-! ## One destination -/

section Steps
variable {s : Surroundings} (settings : StartSettings) (repr : Repr) {setter : EnvironmentSetter}
  (w : Option String)

theorem getGreffonPath_keeps : Quietly s (fun _ w' => w' = w) getGreffonPath w := by
  unfold getGreffonPath
  refine (quietly_aside fun _ _ hs => hs.2).bind fun there w₁ h₁ => ?_
  subst h₁
  refine quietly_ite (fun _ => ?_) fun _ => quietly_pure rfl
  exact quietly_aside fun _ _ hs => hs.2

/-- **The rendered compose is gone** after `remove_compose_file`. -/
theorem removeComposeFile_removes : Quietly s (fun _ w' => w' = none) removeComposeFile w := by
  unfold removeComposeFile removeIfThere
  refine (getGreffonPath_keeps w).bind fun _ w₁ h₁ => ?_
  subst h₁
  have htemplate : Quietly s (fun _ w' => w' = w₁) (do
      if ← startOp (.exists templateName) then
        startOp (.remove templateName)) w₁ := by
    refine (quietly_aside (c := .exists templateName) fun _ _ hs => hs.2.2).bind fun there w₂ h₂ => ?_
    subst h₂
    refine quietly_ite (fun _ => ?_) fun _ => quietly_pure rfl
    refine quietly_aside fun _ w' hs => ?_
    have hne : templateName ≠ composeName := by decide
    exact (if_neg hne).mp hs.2
  refine htemplate.bind fun _ w₂ h₂ => ?_
  subst h₂
  have hthere : Quietly s (fun there w' => w' = w₂ ∧ there = w₂.isSome)
      (startOp (.exists composeName)) w₂ :=
    quietly_call fun there w' hs => ⟨hs.2.2, Except.ok.inj (hs.2.1 rfl)⟩
  refine hthere.bind fun there w₃ h₃ => ?_
  obtain ⟨rfl, rfl⟩ := h₃
  refine quietly_ite (fun _ => ?_) fun hnot => quietly_pure ?_
  · exact quietly_call fun _ w' hs => (if_pos rfl).mp hs.2 rfl
  · cases w₃ with
    | none => rfl
    | some text => exact absurd rfl hnot

theorem stagedDestinationPath_spec (info : GreffonInfo) (destination : Entries) :
    Quietly s (fun r w' => w' = w ∧ match r with
      | .ok staged => stagedName repr info destination = .ok staged
      | .error _ => ∃ message, stagedName repr info destination = .error (.refused message))
      (stagedDestinationPath repr info destination) w := by
  unfold stagedDestinationPath
  cases hname : stagedName repr info destination with
  | error e =>
    cases e with
    | refused message => exact quietly_pure ⟨rfl, message, rfl⟩
    | raised e => exact quietly_raise e
  | ok staged =>
    refine (getGreffonPath_keeps w).bind fun _ w₁ h₁ => ?_
    subst h₁
    refine (quietly_aside fun _ _ hs => hs.2).bind fun _ w₂ h₂ => ?_
    subst h₂
    exact quietly_pure ⟨rfl, rfl⟩

theorem stagedName_bare {info : GreffonInfo} {destination : Entries} {staged : String × Yaml}
    (h : stagedName repr info destination = .ok staged) : isBareName staged.1 = true := by
  unfold stagedName at h
  dsimp only at h
  split at h
  · split_ifs at h with hbare
    cases h
    simpa using hbare
  · cases h

theorem writeAndList_spec (info : GreffonInfo) {staged : String × Yaml} (data : StagedData)
    (hbare : isBareName staged.1 = true) :
    Quietly s (fun info' w' => w' = w ∧ info' = appendFile info staged.2
      (.path (stagedPath settings.greffonPath info.id staged.1) staged.1))
      (writeAndList settings info staged data) w := by
  unfold writeAndList
  refine (quietly_aside (c := .writeStaged staged.1 data) fun _ _ hs => hs.2 hbare).bind fun _ w₁ h₁ => ?_
  subst h₁
  exact quietly_pure ⟨rfl, rfl⟩

theorem renderBakedFile_spec (info : GreffonInfo) (raw : RawData) (name : String) :
    Quietly s (fun r w' => w' = w ∧ match r with
      | .ok text => s.renderFile info raw = .ok (.ok text)
      | .error _ => ∃ text, s.renderFile info raw = .ok (.error text))
      (renderBakedFile info raw name) w := by
  unfold renderBakedFile
  have hcall : Quietly s (fun r w' => w' = w ∧ s.renderFile info raw = .ok r)
      (startOp (.renderFile info raw)) w := by
    refine quietly_call fun r w' hs => ⟨hs.2.2, ?_⟩
    have hr := hs.2.1
    cases hrender : s.renderFile info raw with
    | error e =>
      rw [hrender] at hr
      cases hr
    | ok r' =>
      rw [hrender] at hr
      cases hr
      rfl
  refine hcall.bind fun r w₁ h₁ => ?_
  obtain ⟨rfl, hr⟩ := h₁
  cases r with
  | ok text => exact quietly_pure ⟨rfl, hr⟩
  | error text => exact quietly_pure ⟨rfl, text, hr⟩

theorem renderedJson_spec (info : GreffonInfo) (destination : Entries) (value : Yaml)
    (name : String) : Quietly s (fun r w' => w' = w ∧ match r with
      | .ok _ => refusesJson s info destination value = false
      | .error _ => refusesJson s info destination value = true)
      (renderedJson info destination value name) w := by
  unfold renderedJson refusesJson
  cases hflag : rendersFlag destination with
  | false => exact quietly_pure ⟨rfl, rfl⟩
  | true =>
    cases value with
    | null => exact quietly_pure ⟨rfl, rfl⟩
    | str text =>
      refine (renderBakedFile_spec w info (.text text) name).bind fun r w₁ h₁ => ?_
      obtain ⟨rfl, hr⟩ := h₁
      cases r with
      | ok out =>
        dsimp only at hr
        exact quietly_pure ⟨rfl, by dsimp only; rw [hr]⟩
      | error message =>
        obtain ⟨text', hr⟩ := hr
        exact quietly_pure ⟨rfl, by dsimp only; rw [hr]⟩
    | bool b | int n | float q t | list items | dict entries | other a b c d e =>
      refine (quietly_aside fun _ _ hs => hs.2).bind fun _ w₁ h₁ => ?_
      subst h₁
      exact quietly_pure ⟨rfl, rfl⟩

/-- A `file` destination whose name and volume are good deletes the rendered compose, whatever
becomes of its content. -/
theorem applyFile_spec (info : GreffonInfo) (destination : Entries) (value : Yaml) :
    Quietly s (fun r w' => (∃ staged, stagedName repr info destination = .ok staged ∧ w' = none) ∨
      ∃ message, stagedName repr info destination = .error (.refused message) ∧
        r.isOk = false ∧ w' = w)
      (applyFile settings repr info destination value) w := by
  unfold applyFile
  refine (stagedDestinationPath_spec repr w info destination).bind fun r w₁ h₁ => ?_
  obtain ⟨rfl, hr⟩ := h₁
  cases r with
  | error message =>
    obtain ⟨text, hr⟩ := hr
    exact quietly_pure (.inr ⟨text, hr, rfl, rfl⟩)
  | ok staged =>
    dsimp only at hr
    have hbare := stagedName_bare repr hr
    refine (removeComposeFile_removes w₁).bind fun _ w₂ h₂ => ?_
    subst h₂
    refine (quietly_settle (P := fun _ w' => w' = none) fun _ _ => rfl).bind fun uri w₃ h₃ => ?_
    subst h₃
    refine (quietly_aside (c := .dataUri uri) fun _ _ hs => hs.2).bind fun raw w₄ h₄ => ?_
    subst h₄
    have hrendered : Quietly s (fun _ w' => w' = none)
        (renderedFile info destination raw staged.1) none := by
      unfold renderedFile
      refine quietly_ite (fun _ => ?_) fun _ => quietly_pure rfl
      refine (renderBakedFile_spec none info raw staged.1).bind fun r w₅ h₅ => ?_
      obtain ⟨rfl, -⟩ := h₅
      cases r with
      | error message => exact quietly_pure rfl
      | ok text => exact quietly_pure rfl
    refine hrendered.bind fun r w₅ h₅ => ?_
    subst h₅
    cases r with
    | error message => exact quietly_pure (.inl ⟨staged, hr, rfl⟩)
    | ok data =>
      refine (writeAndList_spec settings none info (.raw data) hbare).bind fun info' w₆ h₆ => ?_
      obtain ⟨rfl, -⟩ := h₆
      exact quietly_pure (.inl ⟨staged, hr, rfl⟩)

theorem applyJson_spec (info : GreffonInfo) (destination : Entries) (value : Yaml) :
    Quietly s (fun r w' => w' = w ∧ match r with
      | .ok info' => ∃ staged, stagedName repr info destination = .ok staged ∧
          refusesJson s info destination value = false ∧ info' = appendFile info staged.2
            (.path (stagedPath settings.greffonPath info.id staged.1) staged.1)
      | .error _ => (∃ message, stagedName repr info destination = .error (.refused message)) ∨
          ∃ staged, stagedName repr info destination = .ok staged ∧
            refusesJson s info destination value = true)
      (applyJson settings repr info destination value) w := by
  unfold applyJson
  refine (stagedDestinationPath_spec repr w info destination).bind fun r w₁ h₁ => ?_
  obtain ⟨rfl, hr⟩ := h₁
  cases r with
  | error message => exact quietly_pure ⟨rfl, .inl hr⟩
  | ok staged =>
    dsimp only at hr
    refine (renderedJson_spec w₁ info destination value staged.1).bind fun r w₂ h₂ => ?_
    obtain ⟨rfl, hr₂⟩ := h₂
    cases r with
    | error message => exact quietly_pure ⟨rfl, .inr ⟨staged, hr, hr₂⟩⟩
    | ok value' =>
      refine (writeAndList_spec settings w₂ info (.json value') (stagedName_bare repr hr)).bind
        fun info' w₃ h₃ => ?_
      obtain ⟨rfl, rfl⟩ := h₃
      exact quietly_pure ⟨rfl, staged, hr, hr₂, rfl⟩

/-- **One destination.**  It deletes the rendered compose if it `removes` it, and otherwise leaves
it; one that deletes nothing is refused if it `refuses`. -/
theorem applyDestination_spec (info : GreffonInfo) (template : Entries)
    (value destination : Yaml) :
    Quietly s (fun r w' => w' = (if removes repr info destination then none else w) ∧
      (removes repr info destination = false → match r with
        | .ok (info', _) => refuses s repr info value destination = false ∧
            info' = listed settings repr info destination
        | .error _ => refuses s repr info value destination = true))
      (applyDestination settings repr setter info template value destination) w := by
  unfold applyDestination
  have hread : Quietly s (fun t w' => w' = w ∧ destinationType destination = .ok t)
      (settle (destinationType destination)) w := quietly_settle fun t ht => ⟨rfl, ht⟩
  refine hread.bind fun type w₁ h₁ => ?_
  obtain ⟨rfl, htype⟩ := h₁
  simp only [removes, refuses, listed, htype]
  -- by the type of the destination, in the order in which the source tests it
  refine quietly_ite (fun hjson => ?_) fun hjson => quietly_ite (fun henv => ?_) fun henv =>
    quietly_ite (fun hfile => ?_) fun hfile => ?_
  · subst hjson
    refine (applyJson_spec settings repr w₁ info destination.entries value).bind fun r w₂ h₂ => ?_
    obtain ⟨rfl, hr⟩ := h₂
    cases r with
    | error message =>
      refine quietly_pure ⟨rfl, fun _ => ?_⟩
      cases hr with
      | inl hr =>
        obtain ⟨text, hr⟩ := hr
        simp [hr]
      | inr hr =>
        obtain ⟨staged, hr, hrefused⟩ := hr
        simp [hr, hrefused]
    | ok info' =>
      obtain ⟨staged, hr, haccepted, rfl⟩ := hr
      exact quietly_pure ⟨rfl, fun _ => by simp [hr, haccepted]⟩
  · subst henv
    unfold applyEnv
    have hremoved : Quietly s (fun _ w' => w' = none) (do
        removeComposeFile
        settle (setter template destination.entries value)) w₁ := by
      refine (removeComposeFile_removes w₁).bind fun _ w₂ h₂ => ?_
      subst h₂
      exact quietly_settle fun _ _ => rfl
    refine hremoved.bind fun template' w₂ h₂ => ?_
    subst h₂
    exact quietly_pure ⟨rfl, fun h => by cases h⟩
  · subst hfile
    refine (applyFile_spec settings repr w₁ info destination.entries value).bind fun r w₂ h₂ => ?_
    cases h₂ with
    | inl h₂ =>
      obtain ⟨staged, hstaged, rfl⟩ := h₂
      rw [hstaged]
      cases r with
      | error message => exact quietly_pure ⟨rfl, fun h => by cases h⟩
      | ok info' => exact quietly_pure ⟨rfl, fun h => by cases h⟩
    | inr h₂ =>
      obtain ⟨text, hstaged, hnot, rfl⟩ := h₂
      rw [hstaged]
      cases r with
      | error message => exact quietly_pure ⟨rfl, fun _ => rfl⟩
      | ok info' => cases hnot
  · refine quietly_pure ⟨?_, ?_⟩
    · simp [henv, hfile]
    · simp [hjson, hfile]

/-- **All destinations**: the rendered compose is left alone exactly if they spare it. -/
theorem applyDestinations_spec (info : GreffonInfo) (template : Entries)
    (steps : List (Except Exn (Yaml × Yaml))) :
    Quietly s (fun _ w' => w' = if spares s settings repr info steps then w else none)
      (applyDestinations settings repr setter info template steps) w := by
  induction steps generalizing info template w with
  | nil => exact quietly_pure rfl
  | cons step rest ih =>
    cases step with
    | error e => exact quietly_raise e
    | ok step =>
      obtain ⟨value, destination⟩ := step
      rw [applyDestinations]
      refine (applyDestination_spec settings repr w info template value destination).bind
        fun r w₁ h₁ => ?_
      obtain ⟨rfl, hr⟩ := h₁
      rw [spares]
      cases hremoves : removes repr info destination with
      | true =>
        -- the file is gone, and nothing before the end of the loop writes it again
        cases r with
        | error message => exact quietly_pure rfl
        | ok out =>
          refine (ih none out.1 out.2).mono fun _ w₂ h₂ => ?_
          rw [h₂]
          simp
      | false =>
        have hr := hr hremoves
        cases r with
        | error message =>
          refine quietly_pure ?_
          rw [show refuses s repr info value destination = true from hr]
          rfl
        | ok out =>
          obtain ⟨hrefuses, hinfo⟩ := hr
          rw [hrefuses, ← hinfo]
          exact ih w out.1 out.2

theorem createCompose_spec (info : GreffonInfo) (template : Entries) :
    Quietly s (fun r w' => r.isOk = false → w' = w) (createCompose info template) w := by
  unfold createCompose
  refine (getGreffonPath_keeps w).bind fun _ w₁ h₁ => ?_
  subst h₁
  refine (quietly_aside (c := .renderBody info template) fun _ _ hs => hs.2).bind
    fun r w₂ h₂ => ?_
  subst h₂
  cases r with
  | error message => exact quietly_pure fun _ => rfl
  | ok text =>
    have hwrite : Quietly s (fun _ _ => True) (startOp (.writeCompose text)) w₂ :=
      quietly_call fun _ _ _ => trivial
    exact hwrite.bind fun _ w₃ _ => quietly_pure fun h => by cases h

/-- Past the write nothing is refused. -/
theorem bringUp_quiet (info : GreffonInfo) (tunnelClientToml : Option String) :
    Quietly s (fun _ _ => True) (bringUp settings info tunnelClientToml) w := by
  have hcall (c : StartCall) (w : Option String) : Quietly s (fun _ _ => True) (startOp c) w :=
    quietly_call fun _ _ _ => trivial
  unfold bringUp
  refine (hcall _ w).bind fun _ w _ => (hcall _ w).bind fun _ w _ => (hcall _ w).bind
    fun _ w _ => (hcall _ w).bind fun _ w _ => ?_
  dsimp only
  split
  · exact (hcall _ w).bind fun _ w _ => hcall (.writeClientToml tunnelClientToml) w
  · exact hcall (.writeClientToml tunnelClientToml) w

end Steps

/-! ## The endpoint -/

section Endpoint
variable (s : Surroundings) (settings : StartSettings) (repr : Repr)
  (parse : String → Except Compose.ParseError Yaml) (greffon : Greffon)

/-- The repository's compose, if the start gets one. -/
def fetchedBy : Except Exn Yaml :=
  match nonEmpty greffon.composeYaml with
  | some _ => .ok .null
  | none => s.fetched greffon.repositoryUrl

/-- The info whose configurations are applied, if the start gets so far. -/
def reached : Option GreffonInfo :=
  if s.lockFree && !s.updating then
    match fetchedBy s greffon with
    | .error _ => none
    | .ok compose =>
      match Compose.startParse parse (fun _ => .ok compose) settings.greffonPath greffon
          settings.extraAllowedKeys with
      | .error _ => none
      | .ok (info, compose) =>
        match s.allocation (l4BindHost settings) info with
        | .ok (.ok info) =>
          match Compose.createComposeTemplate compose info (l4BindHost settings) with
          | .ok _ => some info
          | .error _ => none
        | _ => none
  else none

/-- **The condition**: if the start applies its configurations at all, then no destination
that is applied before the refusal, or refused itself, deletes the rendered compose. -/
def SparesCompose : Prop :=
  ∀ info, reached s settings parse greffon = some info →
    spares s settings repr info (destinationsOf info.configurations) = true

/-- What a start that is refused leaves, from a rendered compose with the content `text`. -/
def KeptIff (text : String) (spared : Prop) : Except ControlError Unit → Option String → Prop :=
  fun r w' => ∀ statusCode detail, r = .error (.http statusCode detail) → statusCode < 500 →
    (w' = some text ↔ spared)

variable {s settings repr parse greffon}

/-- Code that answers nothing itself, and then code that does. -/
theorem Quietly.then {α : Type} {P : α → Option String → Prop} {m : Starting α}
    {f : α → Starting Unit} {text : String} {spared : Prop} {w : Option String}
    (h : Quietly s P m w) (hf : ∀ a w, P a w →
      (f a).Always (startMachine s) (fun _ => True) (KeptIff text spared) w) :
    (m >>= f).Always (startMachine s) (fun _ => True) (KeptIff text spared) w := by
  rw [Action.always_bind]
  refine Action.Always.mono h fun r w _ hr => ?_
  cases r with
  | error e =>
    obtain ⟨x, rfl⟩ := hr
    intro statusCode detail heq
    cases heq
  | ok a => exact hf a w hr

theorem Quietly.kept {m : Starting Unit} {P : Unit → Option String → Prop} {text : String}
    {spared : Prop} {w : Option String} (h : Quietly s P m w) :
    m.Always (startMachine s) (fun _ => True) (KeptIff text spared) w := by
  refine Action.Always.mono h fun r w _ hr => ?_
  intro statusCode detail heq
  subst heq
  obtain ⟨x, hx⟩ := hr
  cases hx

/-- A refusal that finds the file as it was, or finds it gone. -/
theorem refused_kept {e : ControlError} {text : String} {spared : Prop} {w : Option String}
    (h : w = some text ↔ spared) :
    (Action.raise e : Starting Unit).Always (startMachine s) (fun _ => True)
      (KeptIff text spared) w :=
  ⟨trivial, fun _ _ _ _ => h⟩

theorem applied_kept {text : String} (info : GreffonInfo) (template : Entries)
    (tunnelClientToml : Option String) {spared : Prop}
    (hspared : spared ↔ spares s settings repr info (destinationsOf info.configurations) = true) :
    (do
      match ← applyConfiguration settings repr info template with
      | .error message => Action.raise (.http 422 message)
      | .ok (info, template) =>
        match ← createCompose info template with
        | .error message => Action.raise (.http 422 message)
        | .ok () => bringUp settings info tunnelClientToml : Starting Unit).Always (startMachine s)
      (fun _ => True) (KeptIff text spared) (some text) := by
  have hleft : ∀ w, w = (if spares s settings repr info (destinationsOf info.configurations)
      then some text else none) → (w = some text ↔ spared) := by
    intro w hw
    rw [hspared, hw]
    cases spares s settings repr info (destinationsOf info.configurations) with
    | true => simp
    | false => simp
  refine (applyDestinations_spec settings repr (some text) info template _).then fun r w₁ h₁ => ?_
  cases r with
  | error message => exact refused_kept (hleft w₁ h₁)
  | ok out =>
    refine (createCompose_spec w₁ out.1 out.2).then fun r w₂ h₂ => ?_
    cases r with
    | error message =>
      obtain rfl := h₂ rfl
      exact refused_kept (hleft w₂ h₁)
    | ok _ => exact (bringUp_quiet settings w₂ out.1 tunnelClientToml).kept

theorem startParsed_kept {text : String} (info : GreffonInfo) (compose : Entries)
    (tunnelClientToml : Option String) {spared : Prop}
    (hspared : spared ↔ ∀ info', (match s.allocation (l4BindHost settings) info with
      | .ok (.ok info) =>
        match Compose.createComposeTemplate compose info (l4BindHost settings) with
        | .ok _ => some info
        | .error _ => none
      | _ => none) = some info' →
        spares s settings repr info' (destinationsOf info'.configurations) = true) :
    (startParsed settings repr info compose tunnelClientToml).Always (startMachine s)
      (fun _ => True) (KeptIff text spared) (some text) := by
  unfold startParsed
  -- The ports are allocated first, and a refusal there comes before any file.
  have hallocate : Quietly s (fun r w' => w' = some text ∧
      s.allocation (l4BindHost settings) info = .ok r)
      (startOp (.allocatePorts (l4BindHost settings) info)) (some text) := by
    refine quietly_call fun r w' hs => ⟨hs.2.2, ?_⟩
    have hr := hs.2.1
    cases hallocation : s.allocation (l4BindHost settings) info with
    | error e =>
      rw [hallocation] at hr
      cases hr
    | ok r' =>
      rw [hallocation] at hr
      cases hr
      rfl
  refine hallocate.then fun r w₁ h₁ => ?_
  obtain ⟨rfl, hr⟩ := h₁
  rw [hr] at hspared
  cases r with
  | error e =>
    refine refused_kept ⟨fun _ => hspared.mpr ?_, fun _ => rfl⟩
    intro info' h
    cases h
  | ok info =>
    refine (quietly_aside (c := .renderContext info) fun _ _ hs => hs.2).then fun _ w₂ h₂ => ?_
    subst h₂
    have htemplate : Quietly s (fun template w' => w' = some text ∧
        Compose.createComposeTemplate compose info (l4BindHost settings) = .ok template)
        (settle (Compose.createComposeTemplate compose info (l4BindHost settings))) (some text) :=
      quietly_settle fun template h => ⟨rfl, h⟩
    refine htemplate.then fun template w₃ h₃ => ?_
    obtain ⟨rfl, htemplate⟩ := h₃
    dsimp only at hspared
    rw [htemplate] at hspared
    refine applied_kept info template tunnelClientToml (hspared.trans ?_)
    constructor
    · exact fun h => h info rfl
    · intro h info' heq
      cases heq
      exact h

/-- A refusal before anything is applied. -/
theorem early_kept {e : ControlError} {text : String} {w : Option String} (hw : w = some text)
    (h : reached s settings parse greffon = none) :
    (Action.raise e : Starting Unit).Always (startMachine s) (fun _ => True)
      (KeptIff text (SparesCompose s settings repr parse greffon)) w := by
  refine refused_kept ⟨fun _ info hinfo => ?_, fun _ => hw⟩
  rw [h] at hinfo
  cases hinfo

theorem startGreffon_kept (hfree : s.lockFree = true) {text : String}
    (tunnelClientToml : Option String) :
    (startGreffon settings repr parse greffon tunnelClientToml).Always (startMachine s)
      (fun _ => True) (KeptIff text (SparesCompose s settings repr parse greffon)) (some text) := by
  unfold startGreffon
  have hupdating : Quietly s (fun r w' => w' = some text ∧ s.updating = r)
      (startOp .updateInProgress) (some text) :=
    quietly_call fun r w' hs => ⟨hs.2.2, (Except.ok.inj hs.2.1).symm⟩
  refine hupdating.then fun r w₁ h₁ => ?_
  obtain ⟨rfl, hr⟩ := h₁
  cases r with
  | true =>
    refine early_kept rfl ?_
    simp [reached, hr]
  | false =>
    have hfetched : Quietly s (fun compose w' => w' = some text ∧
        fetchedBy s greffon = .ok compose) (fetched greffon) (some text) := by
      unfold fetched fetchedBy
      cases nonEmpty greffon.composeYaml with
      | some inline => exact quietly_pure ⟨rfl, rfl⟩
      | none =>
        refine quietly_call fun compose w' hs => ⟨hs.2.2, ?_⟩
        have hcompose := hs.2.1
        cases hfetch : s.fetched greffon.repositoryUrl with
        | error e =>
          rw [hfetch] at hcompose
          cases hcompose
        | ok compose' =>
          rw [hfetch] at hcompose
          cases hcompose
          rfl
    rw [if_neg (by decide)]
    refine hfetched.then fun compose w₂ h₂ => ?_
    obtain ⟨rfl, hcompose⟩ := h₂
    cases hparsed : Compose.startParse parse (fun _ => .ok compose) settings.greffonPath greffon
        settings.extraAllowedKeys with
    | error e =>
      refine early_kept rfl ?_
      simp [reached, hfree, hr, hcompose, hparsed]
    | ok out =>
      refine startParsed_kept out.1 out.2 tunnelClientToml ?_
      unfold SparesCompose reached
      rw [hfree, hr, hcompose]
      simp only [hparsed]
      rfl

/-- **A refused start keeps the rendered compose exactly if no applied destination deletes
it.**  For every request that is answered with a client error, and every content the
instance's `docker-compose.yml` had: it has that content afterwards if and only if, of the
destinations that were applied or refused, none is of type `env` and none is a `file` with an
accepted name and volume. -/
theorem refused_start_keeps_iff (s : Surroundings) (settings : StartSettings) (repr : Repr)
    (parse : String → Except Compose.ParseError Yaml) (greffon : Greffon)
    (tunnelClientToml : Option String) (text : String) (w' : Option String) (statusCode : Nat)
    (detail : String)
    (run : Run (startMachine s) (some text) (startRequest settings repr parse greffon tunnelClientToml)
      w' (.pure (.error (.http statusCode detail))))
    (hclient : 400 ≤ statusCode ∧ statusCode < 500) :
    w' = some text ↔ SparesCompose s settings repr parse greffon := by
  suffices h : (startRequest settings repr parse greffon tunnelClientToml).Always (startMachine s)
      (fun _ => True) (KeptIff text (SparesCompose s settings repr parse greffon)) (some text) from
    Prog.Always.at_return h run statusCode detail rfl hclient.2
  unfold startRequest serializeInstanceOp
  have hacquire : Quietly s (fun r w' => w' = some text ∧ s.lockFree = r)
      (Action.perform (ControlCall.acquire (H := StartCall) greffon.id)) (some text) :=
    quietly_call fun r w' hs => ⟨hs.2.2, (Except.ok.inj hs.2.1).symm⟩
  refine hacquire.then fun r w₁ h₁ => ?_
  obtain ⟨rfl, hr⟩ := h₁
  cases r with
  | false =>
    refine early_kept rfl ?_
    simp [reached, hr]
  | true =>
    rw [if_pos rfl]
    have hclear : Quietly s (fun _ w' => w' = some text)
        (Action.perform (ControlCall.clearHandoff (H := StartCall) greffon.id)) (some text) :=
      quietly_call fun _ _ hs => hs.2
    refine hclear.then fun _ w₂ h₂ => ?_
    subst h₂
    rw [Action.always_bind, Action.always_outcome]
    refine Action.Always.mono (startGreffon_kept hr tunnelClientToml) fun r w₃ _ h₃ => ?_
    have hrelease : Quietly s (fun _ w' => w' = w₃)
        (Action.perform (ControlCall.release (H := StartCall) greffon.id)) w₃ :=
      quietly_call fun _ _ hs => hs.2
    refine hrelease.then fun _ w₄ h₄ => ?_
    subst h₄
    exact ⟨trivial, h₃⟩

end Endpoint

/-! ### A start whose second destination is refused -/

/-- Nothing stands in the way of the start. -/
def quietNode : Surroundings where
  lockFree := true
  updating := false
  fetched _ := .ok .null
  allocation _ info := .ok (.ok info)
  renderFile _ _ := .ok (.ok "")

/-- A host where every call succeeds. -/
def quietHost (w : Option String) : (c : ControlCall StartCall) →
    Raises (ControlCall.Answer StartCall.Answer) ControlError c × Option String
  | .acquire _ => (.ok true, w)
  | .clearHandoff _ | .release _ => (.ok (), w)
  | .handler .updateInProgress => (.ok false, w)
  | .handler (.fetch _) => (.ok .null, w)
  | .handler (.allocatePorts _ info) => (.ok (.ok info), w)
  | .handler (.renderFile _ _) => (.ok (.ok ""), w)
  | .handler .dirExists => (.ok true, w)
  | .handler (.exists name) => (.ok (name == composeName && w.isSome), w)
  | .handler (.remove name) => (.ok (), if name = composeName then none else w)
  | .handler (.dataUri _) => (.ok (.text ""), w)
  | .handler (.renderJson _ value) => (.ok value, w)
  | .handler (.renderBody _ _) => (.ok (.ok "services: \x7b\x7d"), w)
  | .handler (.writeCompose text) => (.ok (), some text)
  | .handler (.renderContext _) | .handler .makeDir | .handler .makeStageDir
  | .handler (.writeStaged _ _) | .handler (.createNginxConf _)
  | .handler (.createVolumesThenCopyFiles _) | .handler (.composeStart _)
  | .handler (.trackComposeChild _) | .handler (.waitForComposeRunning _)
  | .handler (.writeClientToml _) => (.ok (), w)

theorem quietHost_serves (w : Option String) (c : ControlCall StartCall) :
    (startMachine quietNode).serve w c (quietHost w c).1 (quietHost w c).2 := by
  cases c with
  | acquire i =>
    refine ⟨?_, rfl, rfl⟩
    intro statusCode detail h
    cases h
  | clearHandoff i | release i =>
    refine ⟨?_, rfl⟩
    intro statusCode detail h
    cases h
  | handler c =>
    have hquiet : ∀ statusCode detail,
        (quietHost w (.handler c)).1 ≠ .error (.http statusCode detail) := by
      intro statusCode detail h
      cases c <;> cases h
    refine ⟨hquiet, ?_⟩
    cases c with
    | updateInProgress | fetch _ | allocatePorts _ _ | renderFile _ _ => exact ⟨rfl, rfl⟩
    | «exists» name =>
      refine ⟨?_, rfl⟩
      intro h
      subst h
      simp [quietHost]
    | remove name =>
      by_cases h : name = composeName
      · simp [quietHost, h]
      · simp [quietHost, h]
    | writeStaged _ _ => exact fun _ => rfl
    | writeCompose _ => exact fun _ => rfl
    | _ => rfl

/-- A destination that sets `A` for the service `app`. -/
def setsVariable : Yaml :=
  .dict [(.str "type", .str "env"), (.str "container", .str "app"), (.str "key", .str "A")]

/-- A destination outside the staging directory. -/
def escapes : Yaml := .dict [(.str "type", .str "json"), (.str "name", .str "../x")]

/-- A start of one service with these destinations. -/
def appGreffon (destinations : List Yaml) : Greffon where
  id := "a"
  composeYaml := some Compose.appText
  configurations := [⟨.dict [(.str "value", .str "1")], .list destinations⟩]

/-- The start, on a node with the compose of an earlier one. -/
def appStart (destinations : List Yaml) : Starting Unit :=
  startRequest {} (fun _ => "'../x'") (Compose.parseOf Compose.appText (Compose.appWith []))
    (appGreffon destinations) none

/-- The variable is applied, then the second destination is refused: the compose is gone. -/
theorem refused_start_loses_compose :
    Run (startMachine quietNode) (some "services: \x7b\x7d") (appStart [setsVariable, escapes])
      none (.pure (.error (.http 422 "destination name must be a bare file name, got '../x'"))) :=
  Prog.run_evalFor (h := quietHost) quietHost_serves 30 (appStart [setsVariable, escapes])
    (some "services: \x7b\x7d")

theorem refused_start_keeps_iff_escaping :
    SparesCompose quietNode {} (fun _ => "'../x'")
      (Compose.parseOf Compose.appText (Compose.appWith [])) (appGreffon [escapes]) :=
  (refused_start_keeps_iff quietNode {} (fun _ => "'../x'")
    (Compose.parseOf Compose.appText (Compose.appWith [])) (appGreffon [escapes]) none
    "services: \x7b\x7d" (some "services: \x7b\x7d") 422
    "destination name must be a bare file name, got '../x'"
    (Prog.run_evalFor (h := quietHost) quietHost_serves 30 (appStart [escapes])
      (some "services: \x7b\x7d")) ⟨by decide, by decide⟩).mp rfl

end Greffer.Instance

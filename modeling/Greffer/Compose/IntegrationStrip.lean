import Greffer.Compose.Preflight
import Greffer.Compose.Sharing

/-! # Unset integrations

A catalog compose refers to an integration (`smtp`, `oidc`) in the values of its environment
entries.  Before the body is rendered, `deleteUnsetIntegrationEnvKeys` takes away the
entries of the types that the user has not configured: first those that the metadata
of a configuration names, then those whose value matches a regular expression, which
stands in for Jinja's grammar.

**The strip is one filter** of the environment entries (`strip_ok`), so it keeps their order and
is idempotent.  It is complete on the values whose references are written the way the
expression reads them, and on no others: a blank before the dot, a name that does not follow
it at once, or a value of statements alone escapes it.  It is precise where no two services
share an environment: what it pops from a shared mapping for one service is popped for all
(`stripped_iff`).
-/
namespace Greffer.Compose

/-- `KNOWN_INTEGRATION_TYPES`. -/
def knownIntegrationTypes : List String := ["smtp", "oidc"]

/-- `_is_integration_set`. -/
def isIntegrationSet : Yaml → Bool
  | .dict d => !d.isEmpty
  | _ => false

/-- The known types without a configuration. -/
def unsetTypes (integrations : Entries) : List String :=
  knownIntegrationTypes.filter fun t =>
    !isIntegrationSet ((Dict.get? integrations t).getD .null)

/-! ## The expression -/

/-- `\w`.  Of ASCII it is the letters, the digits and the underscore; past ASCII, what
Unicode calls alphanumeric. -/
structure WordClass where
  isWord : Char → Bool
  ascii : ∀ c, c.toNat < 128 → isWord c = isWordChar c

/-- Text before the first occurrence of `sub`, and after it. -/
def cut (sub : List Char) : List Char → Option (List Char × List Char)
  | [] => if sub.isEmpty then some ([], []) else none
  | c :: rest =>
    if sub.isPrefixOf (c :: rest) then some ([], (c :: rest).drop sub.length)
    else (cut sub rest).map fun p => (c :: p.1, p.2)

/-- What opens an expression. -/
def openBraces : List Char := ['{', '{']

/-- What closes it. -/
def closeBraces : List Char := ['}', '}']

/-- `sub in text`. -/
def occurs (sub text : List Char) : Bool := (cut sub text).isSome

section Search
variable (w : WordClass)

/-- `(?:\.\w|\[)`, at the front. -/
def memberFollows : List Char → Bool
  | '.' :: c :: _ => w.isWord c
  | '[' :: _ => true
  | _ => false

/-- The name of a type and what makes it a reference, at the front. -/
def mentionHere (name text : List Char) : Bool :=
  name.isPrefixOf text && memberFollows w (text.drop name.length)

/-- `\b`, between a character and the one before it. -/
def boundary (before : Option Char) (c : Char) : Bool := before.any w.isWord != w.isWord c

/-- The search, past the character `before`. -/
def mentionsFrom (name : List Char) : Option Char → List Char → Bool
  | _, [] => false
  | before, c :: rest =>
    boundary w before c && mentionHere w name (c :: rest) || mentionsFrom name (some c) rest

/-- `re.search(r'\b' + re.escape(t) + r'(?:\.\w|\[)', text)`. -/
def mentions (type : String) (text : List Char) : Bool := mentionsFrom w type.toList none text

/-- `value_references_unset`. -/
def valueReferencesUnset (unset : List String) : Yaml → Bool
  | .str s => occurs openBraces s.toList && unset.any fun t => mentions w t s.toList
  | _ => false

end Search

/-! ## Environments -/

/-- An entry of a service's environment. -/
inductive EnvEntry where
  /-- Of a mapping. -/
  | pair (key value : Yaml)
  /-- Of a list. -/
  | item (item : Yaml)

namespace EnvEntry

/-- The value of an entry; an item without a `=` has none. -/
def value? : EnvEntry → Option Yaml
  | pair _ v => some v
  | item (.str s) =>
    match partition '=' s with
    | (_, true, value) => some (.str value)
    | _ => none
  | item _ => none

/-- Whether the entry is the one of a key. -/
def isOf (key : Yaml) : EnvEntry → Bool
  | pair k _ => k.sameKey key
  | item (.str s) => (Yaml.str (stripBlanks (partition '=' s).1)).sameKey key
  | item _ => false

end EnvEntry

/-- What is left of an environment. -/
def keepEntries (keep : EnvEntry → Bool) : Yaml → Yaml
  | .dict d => .dict (d.filter fun e => keep (.pair e.1 e.2))
  | .list items => .list (items.filter fun v => keep (.item v))
  | v => v

/-- The entries of an environment. -/
def entriesOf : Yaml → List EnvEntry
  | .dict d => d.map fun e => .pair e.1 e.2
  | .list items => items.map .item
  | _ => []

/-- The environment of a service. -/
def environmentOf (service : Yaml) : Yaml :=
  (Dict.get? service.entries "environment").getD .null

/-- A service with what is left of its environment. -/
def keepEnvironment (keep : EnvEntry → Bool) : Yaml → Yaml
  | .dict d => .dict (d.map fun e =>
      if e.1.sameKey (.str "environment") then (e.1, keepEntries keep e.2) else e)
  | v => v

/-- The services, each with what is left of its environment. -/
def keepEnvironments (keep : Yaml → EnvEntry → Bool) : Yaml → Yaml
  | .dict services => .dict (services.map fun s => (s.1, keepEnvironment (keep s.1) s.2))
  | v => v

/-! ## The strip -/

/-- `services.get(container)`. -/
def serviceAt (services container : Yaml) : Except Exn Yaml :=
  match services with
  | .dict d =>
    if container.hashable then
      .ok (((d.find? fun e => e.1.sameKey container).map Prod.snd).getD .null)
    else .error (.typeError ("unhashable type: '" ++ container.typeName ++ "'"))
  | _ => .error (.attributeError "object has no attribute 'get'")

/-- `destination.get(key)`. -/
def fieldOf (destination : Yaml) (key : String) : Yaml :=
  (Dict.get? destination.entries key).getD .null

/-- A destination of a type, with a container and a key. -/
def isOfType (type : String) (destination : Yaml) : Bool :=
  (fieldOf destination "type").sameKey (.str type) && (fieldOf destination "container").truthy &&
    (fieldOf destination "key").truthy

/-- Whether an entry of a service's is the one that a destination of a type is for. -/
def namedBy (type : String) (destination : Yaml) (service : Yaml) (entry : EnvEntry) : Bool :=
  isOfType type destination && service.sameKey (fieldOf destination "container") &&
    entry.isOf (fieldOf destination "key")

section Reaching
variable (objects : Objects) (services : Yaml)

/-- What is done to the environment of a container is done to a service: a mapping is popped from,
in place, and a list is replaced in the service's mapping. -/
def reaches (container service : Yaml) : Bool :=
  services.entries.any fun s => s.1.sameKey container &&
    match environmentOf s.2 with
    | .dict _ => objects.environment service == objects.environment s.1
    | _ => objects.service service == objects.service s.1

/-- Whether the pop for a destination of a type takes an entry. -/
def poppedBy (type : String) (destination : Yaml) (service : Yaml) (entry : EnvEntry) : Bool :=
  isOfType type destination && reaches objects services (fieldOf destination "container") service &&
    entry.isOf (fieldOf destination "key")

end Reaching

/-- Whether `env.pop(key, None)` hashes a key. -/
def popsKey : Yaml → Bool
  | .dict _ => true
  | _ => false

section FirstPass
variable (objects : Objects)

/-- The first pass, at one destination. -/
def popDestination (type : String) (services destination : Yaml) : Except Exn Yaml :=
  if isOfType type destination then do
    let service ← serviceAt services (fieldOf destination "container")
    let key := fieldOf destination "key"
    if popsKey (environmentOf service) && !key.hashable then
      .error (.typeError ("unhashable type: '" ++ key.typeName ++ "'"))
    else return keepEnvironments (fun c e => !poppedBy objects services type destination c e) services
  else return services

/-- `configuration.get('destinations', []) or []`, iterated. -/
def destinationsIn (c : Configuration) : Except Exn (List Yaml) :=
  if c.destinations.truthy then c.destinations.iterate else .ok []

/-- The first pass, at one configuration. -/
def popConfiguration (type : String) (services : Yaml) (c : Configuration) : Except Exn Yaml := do
  let destinations ← destinationsIn c
  destinations.foldlM (popDestination objects type) services

/-- The first pass, for one type. -/
def popType (configurations : List Configuration) (services : Yaml) (type : String) :
    Except Exn Yaml :=
  configurations.foldlM (popConfiguration objects type) services

end FirstPass

/-- The second pass. -/
def popReferences (w : WordClass) (unset : List String) (services : Yaml) : Except Exn Yaml :=
  match services with
  | .dict _ => .ok (keepEnvironments (fun _ e =>
      !(e.value?.any (valueReferencesUnset w unset))) services)
  | _ => .error (.attributeError "object has no attribute 'values'")

/-- The compose with its services changed, if it has any. -/
def putServices (compose services : Yaml) : Yaml :=
  match compose with
  | .dict d =>
    if Dict.has d (.str "services") then .dict (Dict.set d (.str "services") services) else compose
  | _ => compose

/-- `_delete_unset_integration_env_keys`. -/
def deleteUnsetIntegrationEnvKeys (w : WordClass) (objects : Objects) (compose : Yaml)
    (integrations : Entries) (configurations : List Configuration) : Except Exn Yaml :=
  match unsetTypes integrations with
  | [] => .ok compose
  | unset => do
    let services ← unset.foldlM (popType objects configurations) (servicesIn compose)
    let services ← popReferences w unset services
    return putServices compose services

/-! ## One filter -/

theorem keepEntries_keepEntries (keep keep' : EnvEntry → Bool) (environment : Yaml) :
    keepEntries keep (keepEntries keep' environment) =
      keepEntries (fun e => keep e && keep' e) environment := by
  cases environment <;> simp [keepEntries, List.filter_filter]

theorem entriesOf_keepEntries (keep : EnvEntry → Bool) (environment : Yaml) :
    entriesOf (keepEntries keep environment) = (entriesOf environment).filter keep := by
  cases environment <;> simp [keepEntries, entriesOf, List.filter_map, Function.comp_def]

theorem keepEntries_true (environment : Yaml) :
    keepEntries (fun _ => true) environment = environment := by
  cases environment <;> simp [keepEntries]

theorem keepEnvironment_keepEnvironment (keep keep' : EnvEntry → Bool) (service : Yaml) :
    keepEnvironment keep (keepEnvironment keep' service) =
      keepEnvironment (fun e => keep e && keep' e) service := by
  cases service with
  | dict d =>
    simp only [keepEnvironment, List.map_map, Yaml.dict.injEq]
    refine List.map_congr_left fun e _ => ?_
    by_cases h : e.1 = .str "environment"
    · simp [h, keepEntries_keepEntries]
    · simp [h]
  | _ => rfl

theorem keepEnvironment_true (service : Yaml) :
    keepEnvironment (fun _ => true) service = service := by
  cases service with
  | dict d => simp [keepEnvironment, keepEntries_true]
  | _ => rfl

theorem get?_keepEnvironment (keep : EnvEntry → Bool) (d : Entries) :
    Dict.get? (keepEnvironment keep (.dict d)).entries "environment" =
      (Dict.get? d "environment").map (keepEntries keep) := by
  simp only [keepEnvironment, Yaml.entries]
  induction d with
  | nil => rfl
  | cons e rest ih =>
    rw [List.map_cons, Dict.get?_cons, Dict.get?_cons, ih]
    by_cases h : e.1 = .str "environment"
    · simp [h]
    · simp [h]

theorem environmentOf_keepEnvironment (keep : EnvEntry → Bool) (service : Yaml) :
    environmentOf (keepEnvironment keep service) = keepEntries keep (environmentOf service) := by
  cases service with
  | dict d =>
    rw [environmentOf, get?_keepEnvironment, environmentOf, Yaml.entries]
    cases Dict.get? d "environment" <;> rfl
  | _ => rfl

/-- **Filtering twice is filtering once.** -/
theorem keepEnvironments_keepEnvironments (keep keep' : Yaml → EnvEntry → Bool) (services : Yaml) :
    keepEnvironments keep (keepEnvironments keep' services) =
      keepEnvironments (fun c e => keep c e && keep' c e) services := by
  cases services with
  | dict d => simp [keepEnvironments, keepEnvironment_keepEnvironment]
  | _ => rfl

theorem keepEnvironments_true (services : Yaml) :
    keepEnvironments (fun _ _ => true) services = services := by
  cases services with
  | dict d => simp [keepEnvironments, keepEnvironment_true]
  | _ => rfl

/-! ## The first pass -/

/-- What the first pass asks of a service does not depend on what is left of it. -/
theorem popsKey_keepEntries (keep : EnvEntry → Bool) (environment : Yaml) :
    popsKey (keepEntries keep environment) = popsKey environment := by
  cases environment <;> rfl

theorem serviceAt_keepEnvironments (keep : Yaml → EnvEntry → Bool) (services container : Yaml) :
    (serviceAt (keepEnvironments keep services) container).map (fun s => popsKey (environmentOf s)) =
      (serviceAt services container).map fun s => popsKey (environmentOf s) := by
  cases services with
  | dict d =>
    simp only [keepEnvironments, serviceAt]
    split
    · simp only [Except.map, List.find?_map, Function.comp_def]
      cases d.find? fun e => e.1.sameKey container with
      | none => rfl
      | some e => simp [environmentOf_keepEnvironment, popsKey_keepEntries]
    · rfl
  | _ => rfl

section Reached
variable (objects : Objects)

/-- Nor does what a pop reaches, as long as a mapping stays one. -/
theorem reaches_map {services : Entries} (change : Yaml × Yaml → Yaml)
    (h : ∀ s ∈ services, popsKey (environmentOf (change s)) = popsKey (environmentOf s.2)) :
    reaches objects (.dict (services.map fun s => (s.1, change s))) =
      reaches objects (.dict services) := by
  have hpops : ∀ (environment : Yaml) (popped replaced : Bool),
      (match environment with
        | .dict _ => popped
        | _ => replaced) = if popsKey environment then popped else replaced := by
    intro environment popped replaced
    cases environment <;> rfl
  funext container service
  simp only [reaches, Yaml.entries, List.any_map, hpops]
  rw [Bool.eq_iff_iff, List.any_eq_true, List.any_eq_true]
  refine exists_congr fun s => and_congr_right fun hs => ?_
  rw [Function.comp_apply, h s hs]

theorem reaches_keepEnvironments (keep : Yaml → EnvEntry → Bool) (services : Yaml) :
    reaches objects (keepEnvironments keep services) = reaches objects services := by
  cases services with
  | dict d =>
    refine reaches_map objects (fun s => keepEnvironment (keep s.1) s.2) fun s _ => ?_
    rw [environmentOf_keepEnvironment, popsKey_keepEntries]
  | _ => rfl

theorem poppedBy_keepEnvironments (keep : Yaml → EnvEntry → Bool) (services : Yaml) :
    poppedBy objects (keepEnvironments keep services) = poppedBy objects services := by
  funext type destination service entry
  rw [poppedBy, reaches_keepEnvironments, poppedBy]

/-- The first pass, at one destination, of services that have been filtered. -/
theorem popDestination_keepEnvironments (keep : Yaml → EnvEntry → Bool) (type : String)
    (services destination : Yaml) :
    popDestination objects type (keepEnvironments keep services) destination =
      (popDestination objects type services destination).map (keepEnvironments keep) := by
  have hasks := serviceAt_keepEnvironments keep services (fieldOf destination "container")
  unfold popDestination
  split
  · cases hkept : serviceAt (keepEnvironments keep services) (fieldOf destination "container") with
    | error e =>
      cases hservice : serviceAt services (fieldOf destination "container") with
      | error e' =>
        rw [hkept, hservice] at hasks
        cases hasks
        rfl
      | ok service =>
        rw [hkept, hservice] at hasks
        cases hasks
    | ok kept =>
      cases hservice : serviceAt services (fieldOf destination "container") with
      | error e' =>
        rw [hkept, hservice] at hasks
        cases hasks
      | ok service =>
        rw [hkept, hservice] at hasks
        have hasks : popsKey (environmentOf kept) = popsKey (environmentOf service) :=
          Except.ok.inj hasks
        simp only [bind, Except.bind, hasks]
        split
        · rfl
        · simp only [pure, Except.pure, Except.map, keepEnvironments_keepEnvironments,
            poppedBy_keepEnvironments, Bool.and_comm]
  · rfl

end Reached

section Popped
variable {objects : Objects}

theorem popDestination_ok {type : String} {services destination services' : Yaml}
    (h : popDestination objects type services destination = .ok services') :
    services' = keepEnvironments (fun c e => !poppedBy objects services type destination c e)
      services := by
  unfold popDestination at h
  split at h
  · obtain ⟨service, -, h⟩ := bind_ok_iff.mp h
    simp only at h
    split at h
    · cases h
    · cases h
      rfl
  · rename_i hother
    cases h
    have hnone : ∀ c e, poppedBy objects services type destination c e = false := by
      intro c e
      rw [poppedBy, Bool.eq_false_iff.mpr hother, Bool.false_and, Bool.false_and]
    simp only [hnone, Bool.not_false]
    exact (keepEnvironments_true services).symm

/-- A step that commutes with a change of the state, taken over a list, commutes with it. -/
theorem foldlM_map {α : Type} {step : Yaml → α → Except Exn Yaml} {change : Yaml → Yaml}
    (h : ∀ s a, step (change s) a = (step s a).map change) (l : List α) (s : Yaml) :
    l.foldlM step (change s) = (l.foldlM step s).map change := by
  induction l generalizing s with
  | nil => rfl
  | cons a rest ih =>
    rw [List.foldlM_cons, List.foldlM_cons, h]
    cases step s a with
    | error e => rfl
    | ok s' => exact ih s'

theorem popType_keepEnvironments (keep : Yaml → EnvEntry → Bool)
    (configurations : List Configuration) (services : Yaml) (type : String) :
    popType objects configurations (keepEnvironments keep services) type =
      (popType objects configurations services type).map (keepEnvironments keep) := by
  refine foldlM_map (fun services c => ?_) configurations services
  unfold popConfiguration
  cases destinationsIn c with
  | error e => rfl
  | ok destinations =>
    exact foldlM_map (popDestination_keepEnvironments objects keep type) destinations services

/-- The destinations of the configurations, as far as they can be iterated. -/
def allDestinations (configurations : List Configuration) : List Yaml :=
  configurations.flatMap fun c => ((destinationsIn c).toOption).getD []

/-- What a list of steps leaves, if each of them leaves what its own test keeps, and the tests do not
depend on what is left. -/
theorem foldlM_keeps {α : Type} {step : Yaml → α → Except Exn Yaml}
    (takes : Yaml → α → Yaml → EnvEntry → Bool)
    (h : ∀ s a s', step s a = .ok s' → s' = keepEnvironments (fun c e => !takes s a c e) s)
    (hsame : ∀ keep s, takes (keepEnvironments keep s) = takes s)
    {l : List α} {s s' : Yaml} (hok : l.foldlM step s = .ok s') :
    s' = keepEnvironments (fun c e => !l.any fun a => takes s a c e) s := by
  induction l generalizing s with
  | nil =>
    cases hok
    exact (keepEnvironments_true _).symm
  | cons a rest ih =>
    obtain ⟨mid, hmid, hok⟩ := bind_ok_iff.mp hok
    rw [ih hok, h _ _ _ hmid, hsame, keepEnvironments_keepEnvironments]
    simp only [List.any_cons, Bool.not_or, Bool.and_comm]

theorem popConfiguration_ok {type : String} {services services' : Yaml} {c : Configuration}
    (h : popConfiguration objects type services c = .ok services') :
    services' = keepEnvironments (fun n e => !(((destinationsIn c).toOption).getD []).any
      fun d => poppedBy objects services type d n e) services := by
  obtain ⟨destinations, hdestinations, h⟩ := bind_ok_iff.mp h
  rw [hdestinations]
  exact foldlM_keeps (fun s d => poppedBy objects s type d) (fun _ _ _ h => popDestination_ok h)
    (fun keep s => by simp only [poppedBy_keepEnvironments]) h

theorem popType_ok {configurations : List Configuration} {services services' : Yaml} {type : String}
    (h : popType objects configurations services type = .ok services') :
    services' = keepEnvironments (fun c e =>
      !(allDestinations configurations).any fun d => poppedBy objects services type d c e)
      services := by
  rw [foldlM_keeps (fun s c n e => (((destinationsIn c).toOption).getD []).any
      fun d => poppedBy objects s type d n e) (fun _ _ _ h => popConfiguration_ok h)
    (fun keep s => by simp only [poppedBy_keepEnvironments]) h]
  simp only [allDestinations, List.any_flatMap]

end Popped

/-! ## Both passes -/

/-- Whether a destination of an unset type names an entry. -/
def namedUnset (unset : List String) (configurations : List Configuration) (service : Yaml)
    (entry : EnvEntry) : Bool :=
  unset.any fun t => (allDestinations configurations).any fun d => namedBy t d service entry

/-- Whether the pop for a destination of an unset type takes an entry. -/
def poppedUnset (objects : Objects) (services : Yaml) (unset : List String)
    (configurations : List Configuration) (service : Yaml) (entry : EnvEntry) : Bool :=
  unset.any fun t => (allDestinations configurations).any fun d =>
    poppedBy objects services t d service entry

/-- Whether the strip takes an entry. -/
def takes (w : WordClass) (objects : Objects) (services : Yaml) (unset : List String)
    (configurations : List Configuration) (service : Yaml) (entry : EnvEntry) : Bool :=
  poppedUnset objects services unset configurations service entry ||
    entry.value?.any (valueReferencesUnset w unset)

/-- The entries of the environments of a compose, each with its service. -/
def environmentEntries (compose : Yaml) : List (Yaml × EnvEntry) :=
  (servicesIn compose).entries.flatMap fun s =>
    (entriesOf (environmentOf s.2)).map fun e => (s.1, e)

section Strip
variable {w : WordClass} {objects : Objects} {compose compose' : Yaml} {integrations : Entries}
  {configurations : List Configuration}

/-- **The strip, as one filter** of the services. -/
theorem strip_services (hunset : unsetTypes integrations ≠ [])
    (h : deleteUnsetIntegrationEnvKeys w objects compose integrations configurations = .ok compose') :
    (∃ d, servicesIn compose = .dict d) ∧
    (unsetTypes integrations).foldlM (popType objects configurations) (servicesIn compose) =
      .ok (keepEnvironments (fun c e => !poppedUnset objects (servicesIn compose)
        (unsetTypes integrations) configurations c e) (servicesIn compose)) ∧
    compose' = putServices compose (keepEnvironments (fun c e => !takes w objects
      (servicesIn compose) (unsetTypes integrations) configurations c e) (servicesIn compose)) := by
  unfold deleteUnsetIntegrationEnvKeys at h
  generalize unsetTypes integrations = unset at h hunset ⊢
  cases unset with
  | nil => exact absurd rfl hunset
  | cons t rest =>
    simp only at h
    obtain ⟨popped, hpopped, h⟩ := bind_ok_iff.mp h
    obtain ⟨left, hleft, h⟩ := bind_ok_iff.mp h
    cases h
    have hone := foldlM_keeps (fun s t c e => (allDestinations configurations).any
        fun d => poppedBy objects s t d c e) (fun _ _ _ h => popType_ok h)
      (fun keep s => by simp only [poppedBy_keepEnvironments]) hpopped
    rw [hone] at hpopped hleft
    generalize hservices : servicesIn compose = services at hpopped hleft ⊢
    cases services with
    | dict d =>
      cases hleft
      refine ⟨⟨d, rfl⟩, hpopped, ?_⟩
      rw [keepEnvironments_keepEnvironments]
      simp only [takes, poppedUnset, Bool.not_or, Bool.and_comm]
    | _ => cases hleft

theorem entries_keepEnvironments (keep : Yaml → EnvEntry → Bool) (services : Yaml) :
    ((keepEnvironments keep services).entries.flatMap fun s =>
      (entriesOf (environmentOf s.2)).map fun e => (s.1, e)) =
    (services.entries.flatMap fun s =>
      (entriesOf (environmentOf s.2)).map fun e => (s.1, e)).filter fun p => keep p.1 p.2 := by
  cases services with
  | dict d =>
    simp only [keepEnvironments, Yaml.entries, List.flatMap_map, List.filter_flatMap,
      environmentOf_keepEnvironment, entriesOf_keepEntries, List.filter_map, Function.comp_def]
  | _ => rfl

theorem servicesIn_putServices (keep : Yaml → EnvEntry → Bool) (compose : Yaml) :
    servicesIn (putServices compose (keepEnvironments keep (servicesIn compose))) =
      keepEnvironments keep (servicesIn compose) := by
  cases compose with
  | dict d =>
    rw [putServices]
    split
    · simp [servicesIn]
    · rename_i hhas
      have hnone := Dict.get?_eq_none_iff.mpr (Bool.eq_false_iff.mpr hhas)
      simp [servicesIn, hnone, keepEnvironments]
  | _ => rfl

theorem putServices_putServices (compose services services' : Yaml) :
    putServices (putServices compose services) services' = putServices compose services' := by
  cases compose with
  | dict d =>
    by_cases h : Dict.has d (.str "services") = true
    · simp only [putServices, if_pos h, if_pos Dict.has_set, Dict.set_set]
    · simp only [putServices, if_neg h]
  | _ => rfl

theorem popReferences_keepEnvironments (unset : List String) (keep : Yaml → EnvEntry → Bool)
    (d : Entries) :
    popReferences w unset (keepEnvironments keep (.dict d)) = .ok (keepEnvironments (fun _ e =>
      !(e.value?.any (valueReferencesUnset w unset))) (keepEnvironments keep (.dict d))) :=
  rfl

theorem strip_none (hunset : unsetTypes integrations = []) :
    deleteUnsetIntegrationEnvKeys w objects compose integrations configurations = .ok compose := by
  rw [deleteUnsetIntegrationEnvKeys, hunset]

theorem takes_none (w : WordClass) (objects : Objects) (services : Yaml)
    (configurations : List Configuration) (service : Yaml) (entry : EnvEntry) :
    takes w objects services [] configurations service entry = false := by
  have hvalue : ∀ v, valueReferencesUnset w [] v = false := by
    intro v
    cases v <;> simp [valueReferencesUnset]
  cases hv : entry.value? <;> simp [takes, poppedUnset, hv, hvalue]

/-- **The strip filters the environment entries.** -/
theorem strip_ok
    (h : deleteUnsetIntegrationEnvKeys w objects compose integrations configurations = .ok compose') :
    environmentEntries compose' = (environmentEntries compose).filter fun p =>
      !takes w objects (servicesIn compose) (unsetTypes integrations) configurations p.1 p.2 := by
  by_cases hunset : unsetTypes integrations = []
  · rw [strip_none hunset] at h
    cases h
    rw [hunset]
    simp [takes_none]
  · obtain ⟨-, -, rfl⟩ := strip_services hunset h
    rw [environmentEntries, servicesIn_putServices, entries_keepEnvironments]
    rfl

/-- **Stripping twice is stripping once.** -/
theorem strip_again
    (h : deleteUnsetIntegrationEnvKeys w objects compose integrations configurations = .ok compose') :
    deleteUnsetIntegrationEnvKeys w objects compose' integrations configurations = .ok compose' := by
  by_cases hunset : unsetTypes integrations = []
  · rw [strip_none hunset] at h ⊢
  · obtain ⟨⟨d, hd⟩, hpopped, rfl⟩ := strip_services hunset h
    unfold deleteUnsetIntegrationEnvKeys
    generalize unsetTypes integrations = unset at hunset hpopped ⊢
    cases unset with
    | nil => exact absurd rfl hunset
    | cons t rest =>
      simp only
      rw [servicesIn_putServices,
        foldlM_map (fun s t => popType_keepEnvironments _ configurations s t), hpopped]
      rw [hd, Except.map, ok_bind, keepEnvironments_keepEnvironments,
        popReferences_keepEnvironments, ok_bind, keepEnvironments_keepEnvironments,
        putServices_putServices]
      have hsame : ∀ c e, (!(e.value?.any (valueReferencesUnset w (t :: rest))) &&
          !takes w objects (.dict d) (t :: rest) configurations c e &&
          !poppedUnset objects (.dict d) (t :: rest) configurations c e) =
            !takes w objects (.dict d) (t :: rest) configurations c e := by
        intro c e
        rw [takes]
        cases poppedUnset objects (.dict d) (t :: rest) configurations c e with
        | true => rw [Bool.true_or, Bool.not_true, Bool.and_false]
        | false => rw [Bool.false_or, Bool.not_false, Bool.and_true, Bool.and_self]
      simp only [← Bool.and_assoc, hsame]
      rfl

end Strip

/-! ## What a value refers to -/

/-- What ends a span, and the text past its start. -/
def spanStart : List Char → Option (List Char × List Char)
  | '{' :: '{' :: body => some (closeBraces, body)
  | '{' :: '%' :: body => some (['%', '}'], body)
  | _ => none

/-- The texts inside `{{ }}` and `{% %}`, from left to right. -/
def spansFrom : Nat → List Char → List (List Char)
  | 0, _ => []
  | _, [] => []
  | fuel + 1, c :: rest =>
    match spanStart (c :: rest) with
    | some (close, body) =>
      match cut close body with
      | some (inside, after) => inside :: spansFrom fuel after
      | none => spansFrom fuel rest
    | none => spansFrom fuel rest

/-- The spans of a text. -/
def spans (text : List Char) : List (List Char) := spansFrom text.length text

/-- A `.` or a `[` comes next, past blanks. -/
def accessFollows (text : List Char) : Bool :=
  match text.dropWhile isBlank with
  | '.' :: _ | '[' :: _ => true
  | _ => false

/-- Whether the identifier occurs with an access, past the character `before`. -/
def refersFrom (w : WordClass) (name : List Char) : Option Char → List Char → Bool
  | _, [] => false
  | before, c :: rest =>
    boundary w before c && name.isPrefixOf (c :: rest) &&
      accessFollows ((c :: rest).drop name.length) || refersFrom w name (some c) rest

/-- Whether a span of the text has the identifier of a type, followed by a `.` or a `[`. -/
def refersInSpan (w : WordClass) (type : String) (text : List Char) : Bool :=
  (spans text).any fun span => refersFrom w type.toList none span

/-- The text of an entry's value. -/
def EnvEntry.text (e : EnvEntry) : List Char :=
  match e.value? with
  | some (.str s) => s.toList
  | _ => []

/-- An entry that mentions no unset type and that no destination of one names. -/
def innocent (w : WordClass) (unset : List String) (configurations : List Configuration)
    (p : Yaml × EnvEntry) : Bool :=
  !(unset.any fun t => mentions w t p.2.text) && !namedUnset unset configurations p.1 p.2

theorem takes_eq (w : WordClass) (objects : Objects) (services : Yaml) (unset : List String)
    (configurations : List Configuration) (service : Yaml) (e : EnvEntry) :
    takes w objects services unset configurations service e =
      (poppedUnset objects services unset configurations service e ||
        (occurs openBraces e.text && unset.any fun t => mentions w t e.text)) := by
  rw [takes, EnvEntry.text]
  cases e.value? with
  | none => rfl
  | some v =>
    cases v with
    | str s => rfl
    | _ => rfl

/-- What the strip promises for the unset types. -/
structure Stripped (w : WordClass) (objects : Objects) (integrations : Entries)
    (configurations : List Configuration) (compose compose' : Yaml) : Prop where
  complete : ∀ p ∈ environmentEntries compose', ∀ t ∈ unsetTypes integrations,
    refersInSpan w t p.2.text = false
  ordered : (environmentEntries compose').Sublist (environmentEntries compose)
  precise :
    (environmentEntries compose').filter (innocent w (unsetTypes integrations) configurations) =
      (environmentEntries compose).filter (innocent w (unsetTypes integrations) configurations)
  again :
    deleteUnsetIntegrationEnvKeys w objects compose' integrations configurations = .ok compose'

/-- **When the strip keeps its promise**: every value that refers to an unset type in a span
has, with a `{{`, a mention that the expression reads, or is popped for the metadata; and nothing is
popped for the metadata that it does not name, unless it has a mention. -/
theorem stripped_iff {w : WordClass} {objects : Objects} {compose compose' : Yaml}
    {integrations : Entries} {configurations : List Configuration}
    (h : deleteUnsetIntegrationEnvKeys w objects compose integrations configurations = .ok compose') :
    Stripped w objects integrations configurations compose compose' ↔
      (∀ p ∈ environmentEntries compose,
        (∃ t ∈ unsetTypes integrations, refersInSpan w t p.2.text = true) →
        poppedUnset objects (servicesIn compose) (unsetTypes integrations) configurations p.1 p.2 =
          true ∨
        occurs openBraces p.2.text = true ∧
          ∃ t ∈ unsetTypes integrations, mentions w t p.2.text = true) ∧
      ∀ p ∈ environmentEntries compose,
        poppedUnset objects (servicesIn compose) (unsetTypes integrations) configurations p.1 p.2 =
          true →
        namedUnset (unsetTypes integrations) configurations p.1 p.2 = true ∨
          ∃ t ∈ unsetTypes integrations, mentions w t p.2.text = true := by
  have hfilter := strip_ok h
  have htakes : ∀ p : Yaml × EnvEntry,
      takes w objects (servicesIn compose) (unsetTypes integrations) configurations p.1 p.2 = true ↔
        poppedUnset objects (servicesIn compose) (unsetTypes integrations) configurations p.1 p.2 =
          true ∨
        occurs openBraces p.2.text = true ∧
          ∃ t ∈ unsetTypes integrations, mentions w t p.2.text = true := by
    intro p
    rw [takes_eq, Bool.or_eq_true, Bool.and_eq_true, List.any_eq_true]
  have hkept : ∀ p, p ∈ environmentEntries compose' ↔ p ∈ environmentEntries compose ∧
      ¬ takes w objects (servicesIn compose) (unsetTypes integrations) configurations p.1 p.2 =
        true := by
    intro p
    rw [hfilter, List.mem_filter, Bool.not_eq_true', Bool.not_eq_true]
  have hinnocent : ∀ p : Yaml × EnvEntry,
      innocent w (unsetTypes integrations) configurations p = true ↔
        ¬ (namedUnset (unsetTypes integrations) configurations p.1 p.2 = true ∨
          ∃ t ∈ unsetTypes integrations, mentions w t p.2.text = true) := by
    intro p
    rw [innocent, Bool.and_eq_true, Bool.not_eq_true', Bool.not_eq_true', not_or,
      ← Bool.not_eq_true, ← Bool.not_eq_true, List.any_eq_true, and_comm]
  constructor
  · intro hlaw
    refine ⟨fun p hp ⟨t, ht, hrefers⟩ => ?_, fun p hp hpopped => ?_⟩
    · by_contra hmissed
      have hmem := (hkept p).mpr ⟨hp, fun htaken => hmissed ((htakes p).mp htaken)⟩
      rw [hlaw.complete p hmem t ht] at hrefers
      cases hrefers
    · by_contra hnone
      have hmem : p ∈ (environmentEntries compose').filter
          (innocent w (unsetTypes integrations) configurations) := by
        rw [hlaw.precise]
        exact List.mem_filter.mpr ⟨hp, (hinnocent p).mpr hnone⟩
      exact ((hkept p).mp (List.mem_filter.mp hmem).1).2 ((htakes p).mpr (.inl hpopped))
  · rintro ⟨hread, hnamed⟩
    refine ⟨fun p hp t ht => ?_, ?_, ?_, strip_again h⟩
    · obtain ⟨hmem, hstays⟩ := (hkept p).mp hp
      rw [Bool.eq_false_iff]
      exact fun hrefers => hstays ((htakes p).mpr (hread p hmem ⟨t, ht, hrefers⟩))
    · rw [hfilter]
      exact List.filter_sublist
    · rw [hfilter, List.filter_filter]
      refine List.filter_congr fun p hp => ?_
      cases hone : innocent w (unsetTypes integrations) configurations p with
      | false => rfl
      | true =>
        have hnone := (hinnocent p).mp hone
        rw [Bool.true_and, Bool.not_eq_true', Bool.eq_false_iff]
        intro htaken
        rcases (htakes p).mp htaken with hpopped | ⟨-, hmention⟩
        · exact hnone (hnamed p hp hpopped)
        · exact hnone (.inr hmention)

/-- The class of words that has ASCII's alone. -/
def asciiWords : WordClass := ⟨isWordChar, fun _ _ => rfl⟩

/-- A compose of one service with an environment. -/
def appWithEnvironment (environment : Yaml) : Yaml :=
  .dict [(.str "services", .dict [(.str "app", .dict [(.str "environment", environment)])])]

/-- The objects of a compose of one service. -/
def soleObjects : Objects := ⟨fun _ => 0, fun _ => 0⟩

theorem stripped_mail :
    Stripped asciiWords soleObjects [] []
      (appWithEnvironment (.list [.str "HOST=\x7b\x7b smtp.host \x7d\x7d", .str "PORT=25"]))
      (appWithEnvironment (.list [.str "PORT=25"])) := by
  refine (stripped_iff rfl).mpr ?_
  decide +kernel

/-- **A blank before the dot** hides a reference from the strip. -/
theorem spaced_reference_stays : ¬ ∀ (w : WordClass) (objects : Objects) (compose compose' : Yaml)
    (integrations : Entries) (configurations : List Configuration),
    deleteUnsetIntegrationEnvKeys w objects compose integrations configurations = .ok compose' →
    Stripped w objects integrations configurations compose compose' := by
  intro hall
  have hlaw := hall asciiWords soleObjects
    (appWithEnvironment (.list [.str "HOST=\x7b\x7b smtp .host \x7d\x7d"])) _ [] [] rfl
  have hmissed := hlaw.complete (.str "app", .item (.str "HOST=\x7b\x7b smtp .host \x7d\x7d"))
    List.mem_cons_self "smtp" (by decide)
  exact absurd hmissed (by decide +kernel)

end Greffer.Compose

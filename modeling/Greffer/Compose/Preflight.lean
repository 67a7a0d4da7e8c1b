import Greffer.Compose.Collected

/-! # The preflight and the start

Before a custom compose is stored, the node that would run it is asked: `runPreflight`
parses the text, normalizes it under the strict set, and reads ports, settings and images
off it.  A start parses the same text again and collects it.  The parse and the
normalization are shared, so a green preflight gives a start that normalizes; past that
the two go separate ways, and the collection asks for more.  `preflight_agrees` says how
much more: a start of an accepted text completes its parse if and only if the compose is
`Collectable`.

The parse of a text and the pull of an image are other programs' work, and parameters here.
-/
namespace Greffer.Compose

/-- How the parse of a text fails. -/
inductive ParseError where
  /-- `AliasForbiddenError`, with its message. -/
  | alias (message : String)
  /-- A `YAMLError` or a `RecursionError`, with its problem. -/
  | yaml (problem : String)
  | raised (e : Exn)

/-! ## The preflight -/

/-- A row of a refusal. -/
structure PreflightRow where
  service : Option Yaml
  key : Yaml
  message : String

/-- How the preflight ends early. -/
inductive PreflightFailure where
  /-- `PreflightError`. -/
  | refused (rows : List PreflightRow)
  | raised (e : Exn)

/-- A refusal of the whole text. -/
def refusedText (message : String) : PreflightFailure := .refused [⟨none, .str "compose_yaml", message⟩]

/-- A port of the answer. -/
structure PreflightPort where
  portName : String
  service : String
  containerPort : String
  protocol : String

/-- A setting that the compose takes. -/
structure Candidate where
  service : Option String
  key : String
  referenced : Bool

/-- The answer, without its warnings. -/
structure Payload where
  services : List String
  ports : List PreflightPort
  candidates : List Candidate
  imageDigests : List (String × String)

/-- `_LEAF_BUDGET`. -/
def leafBudget : Nat := 20000

mutual
/-- The texts in a tree, in the order of the walk. -/
def leaves : Yaml → List String
  | .str s => [s]
  | .list items => leavesAll items
  | .dict entries => leavesValues entries
  | _ => []

/-- `leaves`, of every element. -/
def leavesAll : List Yaml → List String
  | [] => []
  | v :: vs => leaves v ++ leavesAll vs

/-- `leaves`, of every value. -/
def leavesValues : List (Yaml × Yaml) → List String
  | [] => []
  | (_, v) :: es => leaves v ++ leavesValues es
end

mutual
/-- How many values the walk visits. -/
def visits : Yaml → Nat
  | .list items => 1 + visitsAll items
  | .dict entries => 1 + visitsValues entries
  | _ => 1

/-- `visits`, of every element. -/
def visitsAll : List Yaml → Nat
  | [] => 0
  | v :: vs => visits v + visitsAll vs

/-- `visits`, of every value. -/
def visitsValues : List (Yaml × Yaml) → Nat
  | [] => 0
  | (_, v) :: es => visits v + visitsValues es
end

/-- `_string_leaves`: every text, within the budget. -/
def stringLeaves (v : Yaml) : Except PreflightFailure (List String) :=
  if leafBudget < visits v then
    .error (refusedText
      "compose structure too large to analyze (alias expansion or excessive nesting)")
  else .ok (leaves v)

/-- `[A-Za-z0-9_]`. -/
def isWordChar (c : Char) : Bool :=
  ('A' ≤ c && c ≤ 'Z') || ('a' ≤ c && c ≤ 'z') || ('0' ≤ c && c ≤ '9') || c == '_'

/-- The name that a reference `config.NAME` or `config['NAME` gives, past `config`, and how
many characters it takes. -/
def referenceTail : List Char → Option (List Char × Nat)
  | '.' :: rest =>
    let name := rest.takeWhile isWordChar
    if name.isEmpty then none else some (name, name.length + 1)
  | '[' :: quote :: rest =>
    let name := rest.takeWhile isWordChar
    if (quote == '\'' || quote == '"') && !name.isEmpty && (rest.drop name.length).head? == some quote
    then some (name, name.length + 3) else none
  | _ => none

/-- `_CONFIG_REF.findall`, from left to right; `skip` characters belong to the last match. -/
def configReferences : List Char → Nat → List String
  | [], _ => []
  | _ :: rest, skip + 1 => configReferences rest skip
  | c :: rest, 0 =>
    match if (c :: rest).take 6 == "config".toList then referenceTail (rest.drop 5) else none with
    | some (name, taken) => String.ofList name :: configReferences rest (taken + 5)
    | none => configReferences rest 0

/-- `_env_items`. -/
def envItems (service : Entries) : Except Exn (List (String × Yaml)) :=
  match Dict.get? service "environment" with
  | some (.dict d) => d.mapM fun e => (e.1.text).map fun key => (key, e.2)
  | some (.list items) => .ok (items.filterMap fun
      | .str item =>
        match partition '=' item with
        | (name, true, value) => some (stripBlanks name, .str value)
        | _ => none
      | _ => none)
  | _ => .ok []

/-- The settings that the services take, each of them once. -/
def serviceCandidates (referenced : List String) : List (String × Entries) →
    Except Exn (List Candidate)
  | [] => .ok []
  | (name, service) :: rest => do
    let items ← envItems service
    let keys := (items.map Prod.fst).dedup
    let others ← serviceCandidates referenced rest
    return keys.map (fun key => ⟨some name, key, referenced.contains key⟩) ++ others

/-- The references that no service takes. -/
def freeCandidates (referenced : List String) (known : List Candidate) : List Candidate :=
  (referenced.dedup.filter fun key => !known.any fun c => c.key == key).map fun key =>
    ⟨none, key, true⟩

/-- The order of the answer. -/
def candidateLe (a b : Candidate) : Bool :=
  let x := a.service.getD ""
  let y := b.service.getD ""
  x < y || (x == y && a.key ≤ b.key)

/-- The ports of the answer. -/
def preflightPorts : List (String × Entries) → Except Exn (List PreflightPort)
  | [] => .ok []
  | (name, service) :: rest => do
    let ports ← servicePorts service
    let others ← preflightPorts rest
    return ports.map (fun p => ⟨name ++ "_" ++ p.target, name, p.target, p.protocol.getD "tcp"⟩)
      ++ others

/-- `_resolve_image_digests`: every service has an image, and `resolve` gives its digest or
refuses it. -/
def resolveImageDigests (resolve : String → String → Except PreflightRow String) :
    List (String × Entries) → Except PreflightFailure (List (String × String))
  | [] => .ok []
  | (name, service) :: rest => do
    let image ← match Dict.get? service "image" with
      | some (.str image) => .ok image
      | _ => .ok ""
    if image = "" then
      .error (.refused [⟨some (.str name), .str "image",
        "service has no image reference and cannot deploy (build is not permitted)"⟩])
    else
      let digest ← (resolve name image).mapError fun row => .refused [row]
      let others ← resolveImageDigests resolve rest
      return (name, digest) :: others

/-- The refusal of a parse. -/
def parseFailure : ParseError → PreflightFailure
  | .alias message => refusedText message
  | .yaml problem => refusedText ("not valid YAML (" ++ problem ++ ")")
  | .raised e => .raised e

/-- The refusal of a normalization. -/
def shapeFailure : ComposeError → PreflightFailure
  | .shape service key message _ => .refused [⟨service, key, message⟩]
  | .raised e => .raised e

/-- What the preflight reads off a normalized compose. -/
def readCompose (resolve : String → String → Except PreflightRow String) (compose : Yaml) :
    Except PreflightFailure Payload := do
  let services ← (servicesOf compose.entries).mapError .raised
  let ports ← (preflightPorts services).mapError .raised
  let texts ← stringLeaves compose
  let referenced := texts.flatMap fun t => configReferences t.toList 0
  let taken ← (serviceCandidates referenced services).mapError .raised
  let candidates := taken ++ freeCandidates referenced taken
  let digests ← resolveImageDigests resolve services
  return {
    services := (services.map Prod.fst).mergeSort (fun a b => a ≤ b)
    ports := ports
    candidates := candidates.mergeSort candidateLe
    imageDigests := digests }

/-- `run_preflight`. -/
def runPreflight (parse : String → Except ParseError Yaml)
    (resolve : String → String → Except PreflightRow String) (composeYaml : String)
    (extraKeys : Option String) : Except PreflightFailure Payload := do
  let compose ← (parse composeYaml).mapError parseFailure
  let compose ← (normalizeCompose compose true extraKeys).mapError shapeFailure
  readCompose resolve compose

/-! ## The start's parse -/

/-- How the start's parse fails. -/
inductive StartFailure where
  /-- `InlineComposeError`. -/
  | inline (message : String)
  | compose (e : ComposeError)
  | raised (e : Exn)

/-- The error of an inline text. -/
def inlineFailure : ParseError → StartFailure
  | .alias message => .inline message
  | .yaml problem => .inline ("inline compose_yaml is not valid YAML (" ++ problem ++ ")")
  | .raised e => .raised e

/-- `get_compose_file_from_repository`: the inline text, or what the URL gives. -/
def getComposeFile (parse : String → Except ParseError Yaml)
    (fetch : Option String → Except Exn Yaml) (greffon : Greffon) : Except StartFailure Yaml :=
  match nonEmpty greffon.composeYaml with
  | some inline => (parse inline).mapError inlineFailure
  | none => (fetch greffon.repositoryUrl).mapError .raised

/-- The parse of a start: the compose file, and the info collected from it.  An inline text
is not reviewed, and gets the strict set. -/
def startParse (parse : String → Except ParseError Yaml)
    (fetch : Option String → Except Exn Yaml) (greffonPath : String) (greffon : Greffon)
    (extraKeys : Option String) : Except StartFailure (GreffonInfo × Entries) := do
  let compose ← getComposeFile parse fetch greffon
  let strict := (nonEmpty greffon.composeYaml).isSome
  (createGreffonInfo greffonPath compose greffon strict extraKeys).mapError .compose

/-! ## The agreement -/

theorem mapError_ok_iff {ε ε' α : Type} {x : Except ε α} {f : ε → ε'} {a : α} :
    x.mapError f = .ok a ↔ x = .ok a := by
  cases x <;> simp [Except.mapError]

/-- **What a green preflight says**: the text parses, and the strict set accepts it. -/
theorem runPreflight_ok {parse : String → Except ParseError Yaml}
    {resolve : String → String → Except PreflightRow String} {composeYaml : String}
    {extraKeys : Option String} {payload : Payload}
    (h : runPreflight parse resolve composeYaml extraKeys = .ok payload) :
    ∃ compose out, parse composeYaml = .ok compose ∧
      normalizeCompose compose true extraKeys = .ok out := by
  obtain ⟨compose, hparse, h⟩ := bind_ok_iff.mp h
  obtain ⟨out, hout, -⟩ := bind_ok_iff.mp h
  exact ⟨compose, out, mapError_ok_iff.mp hparse, mapError_ok_iff.mp hout⟩

/-- **The preflight and the start, exactly**: of a text that the preflight accepts, the
start's parse completes if and only if the compose is collectable. -/
theorem preflight_agrees {parse : String → Except ParseError Yaml}
    (hempty : parse "" = .ok .null) {resolve : String → String → Except PreflightRow String}
    {extraKeys : Option String} {composeYaml : String} {payload : Payload}
    (hok : runPreflight parse resolve composeYaml extraKeys = .ok payload)
    (fetch : Option String → Except Exn Yaml) (greffonPath : String) (greffon : Greffon)
    (hinline : greffon.composeYaml = some composeYaml) :
    (∃ info normalized,
      startParse parse fetch greffonPath greffon extraKeys = .ok (info, normalized)) ↔
      ∃ compose, parse composeYaml = .ok compose ∧ Collectable compose.entries := by
  obtain ⟨compose, out, hparse, hout⟩ := runPreflight_ok hok
  have hne : composeYaml ≠ "" := by
    rintro rfl
    rw [hempty] at hparse
    cases hparse
    unfold normalizeCompose at hout
    exact absurd hout (bad_ne_ok _ _ _ _ _)
  have hsome : nonEmpty greffon.composeYaml = some composeYaml := by
    rw [hinline, nonEmpty, Option.filter_some, if_pos (bne_iff_ne.mpr hne)]
  have hstart : startParse parse fetch greffonPath greffon extraKeys =
      (createGreffonInfo greffonPath compose greffon true extraKeys).mapError .compose := by
    rw [startParse, getComposeFile, hsome]
    simp only [hparse]
    rfl
  rw [hstart]
  simp only [mapError_ok_iff]
  rw [createGreffonInfo_ok_iff hout]
  constructor
  · exact fun h => ⟨compose, hparse, h⟩
  · rintro ⟨compose', hparse', h⟩
    cases hparse.symm.trans hparse'
    exact h

/-- A compose of one service with an image, and the given sections besides. -/
def appWith (sections : Entries) : Yaml :=
  .dict ((.str "services", .dict [(.str "app", .dict [(.str "image", .str "x")])]) :: sections)

/-- Its text, without them. -/
def appText : String := "services:\n  app:\n    image: x\n"

/-- A parse that knows one text; any other is empty. -/
def parseOf (text : String) (tree : Yaml) : String → Except ParseError Yaml :=
  fun t => if t = text then .ok tree else .ok .null

/-- Every image has a digest. -/
def resolveAll : String → String → Except PreflightRow String :=
  fun _ image => .ok (image ++ "@sha256:0")

/-- A compose without sections of its own is accepted and started. -/
theorem preflight_agrees_app : ∃ info normalized,
    startParse (parseOf appText (appWith [])) (fun _ => .ok .null) "/data"
      { id := "a", composeYaml := some appText } none =
      .ok (info, normalized) := by
  obtain ⟨payload, hok⟩ : ∃ payload, runPreflight
      (parseOf appText (appWith [])) resolveAll
      appText none = .ok payload := ⟨_, rfl⟩
  refine (preflight_agrees rfl hok (fun _ => .ok .null) "/data"
    { id := "a", composeYaml := some appText } rfl).mpr
    ⟨_, rfl, ⟨[], rfl, ?_⟩, ⟨[], rfl, ?_⟩, ?_⟩
  · exact fun _ h => (by cases h)
  · exact fun _ h => (by cases h)
  · intro s hs hports
    obtain rfl := List.mem_singleton.mp hs
    cases hports

/-- **An empty `volumes:` section** is accepted by the preflight, and no start parses it. -/
theorem empty_volumes_refused_late :
    (∃ payload, runPreflight
      (parseOf (appText ++ "volumes:\n") (appWith [(.str "volumes", .null)]))
      resolveAll (appText ++ "volumes:\n") none = .ok payload) ∧
    startParse
      (parseOf (appText ++ "volumes:\n") (appWith [(.str "volumes", .null)]))
      (fun _ => .ok .null) "/data"
      { id := "a", composeYaml := some (appText ++ "volumes:\n") } none =
      .error (.compose (.raised (.typeError "object is not iterable"))) :=
  ⟨⟨_, rfl⟩, rfl⟩

end Greffer.Compose

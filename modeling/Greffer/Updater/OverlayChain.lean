import Greffer.Updater.Overlay

/-! # Operator overlays along a chain of updates

Docker is a world of its own here: it reports the container it has and the config of each
local image, and a container it creates has the image's entries under those of its options
(`created`).  A recreation that succeeds lays the difference of the old container with
the old image over the new image (`recreated_env`, `recreated_label`), so a chain of
recreations is a chain of layers.

The difference cannot tell what compose set from what the image baked alike.  A value of
the overlay that one of the images left behind bakes as well goes with that image:
**the rest of the overlay survives any chain** (`overlay_survives`).
-/
namespace Greffer.Updater
open Effects

/-- What an operator sets by name.  An option's name ends at its first `=`, so that a label
whose key has one is left out. -/
structure Entries where
  list : List (String × String)
  distinct : (list.map Prod.fst).Nodup
  plain : ∀ e ∈ list, '=' ∉ e.1.toList

/-- The environment variables and labels of a compose file. -/
structure Overlay where
  env : Entries
  labels : Entries

/-- The options that set them. -/
def Overlay.options (overlay : Overlay) : List String :=
  (overlay.env.list.flatMap fun e => ["-e", e.1 ++ "=" ++ e.2]) ++
    overlay.labels.list.flatMap fun e => ["--label", e.1 ++ "=" ++ e.2]

/-- The id of a local image. -/
abbrev ImageId := { i : String // i ≠ "" }

/-- What an image bakes; each label it has, it has once. -/
structure Baked where
  config : Config
  distinct : (config.labels.map Prod.fst).Nodup

/-- The environment an image sets. -/
def Baked.env (baked : Baked) : String → Option String :=
  fun k => (kvListToDict baked.config.env).lookup k

/-- The labels an image sets. -/
def Baked.label (baked : Baked) : String → Option String :=
  fun k => baked.config.labels.lookup k

/-- A container, with the image it was created from. -/
structure Made where
  image : ImageId
  env : List String
  labels : List (String × String)

/-- The effective environment of a container. -/
def Made.envMap (m : Made) : String → Option String := fun k => (kvListToDict m.env).lookup k

/-- The effective labels of a container. -/
def Made.label (m : Made) : String → Option String := fun k => m.labels.lookup k

/-- The container `docker create` makes: what the options do not set comes from the image. -/
def created (image : ImageId) (baked : Baked) (options : List String) : Made :=
  let env := optionValues "-e" options
  let labels := kvListToDict (optionValues "--label" options)
  { image
    env := env ++ baked.config.env.filter fun item => !(env.map entryName).contains (entryName item)
    labels := labels ++ baked.config.labels.filter fun e => (labels.lookup e.1).isNone }

/-- Docker as a machine.  It has the one container, if it is there; `config` are the
local images and `resolve` is what a name stands for locally.  An image that is there
can be inspected; what fails or raises may leave any container behind. -/
def dockerMachine (config : ImageId → Baked) (resolve : ImageRef → ImageId) :
    Machine (Raises Command.Answer UpdateError) (Option Made) where
  serve w c r w' := match c, r with
    | .imageInspectConfig i, r => w' = w ∧
      ∀ h : i ≠ "", r = .ok ⟨0, some (config ⟨i, h⟩).config, ""⟩
    | .rm _, r => ∀ res, r = .ok res → res.ok = true → w' = none
    | .create args, r => ∀ res, r = .ok res → res.ok = true →
      w' = some (created (resolve args.image) (config (resolve args.image)) args.options)
    | _, _ => w' = w

/-- What `docker inspect` says of the container. -/
structure Made.Reports (m : Made) (inspected : Inspected) : Prop where
  image : inspected.image = some m.image.val
  env : inspected.config.env = m.env
  labels : inspected.config.labels = m.labels

/-- One update of the container to `image`: a recreation of it, as it is inspected, that
succeeds.  The baseline is the image it reports. -/
inductive Recreated (config : ImageId → Baked) (m : Made) (image : ImageId) (m' : Made) : Prop where
  | intro (resolve : ImageRef → ImageId) (c : StackContainer) (imageRef : ImageRef)
      (inspected : Inspected) (reported : m.Reports inspected) (target : resolve imageRef = image)
      (run : Run (dockerMachine config resolve) (some m)
        (recreateOne c imageRef inspected.image inspected) (some m') (.pure (.ok true)))

/-- A container recreated on each of the images in turn. -/
inductive Chain (config : ImageId → Baked) : Made → List ImageId → Made → Prop where
  | done (m : Made) : Chain config m [] m
  | next {m m' m'' : Made} {image : ImageId} {rest : List ImageId}
      (first : Recreated config m image m') (then_ : Chain config m' rest m'') :
      Chain config m (image :: rest) m''

/-! ## What docker creates -/

section Created
variable (image : ImageId) (baked : Baked) (options : List String)

theorem created_env : (created image baked options).envMap =
    Layers.override baked.env fun k => (kvListToDict (optionValues "-e" options)).lookup k := by
  funext k
  have hfilter := kvListToDict_filter
    (fun name => !((optionValues "-e" options).map entryName).contains name) baked.config.env k
  rw [Made.envMap, created, kvListToDict_append, hfilter, Layers.override, Baked.env]
  cases hset : (kvListToDict (optionValues "-e" options)).lookup k with
  | some v =>
    have hmem : k ∈ (optionValues "-e" options).map entryName :=
      kvListToDict_isSome.mp (by rw [hset]; rfl)
    simp [hmem]
  | none =>
    have hmem : k ∉ (optionValues "-e" options).map entryName := by
      intro hmem
      have hsome := kvListToDict_isSome.mpr hmem
      rw [hset] at hsome
      cases hsome
    simp [hmem]

theorem created_label : (created image baked options).label =
    Layers.override baked.label fun k =>
      (kvListToDict (optionValues "--label" options)).lookup k := by
  funext k
  rw [Made.label, created, Layers.override, Baked.label]
  dsimp only
  rw [List.lookup_append, lookup_filter baked.distinct]
  cases hset : (kvListToDict (optionValues "--label" options)).lookup k with
  | some v => rfl
  | none =>
    cases hbaked : baked.config.labels.lookup k with
    | some v => simp [hset, Option.filter]
    | none => rfl

theorem created_distinct : ((created image baked options).labels.map Prod.fst).Nodup := by
  rw [created, List.map_append, List.nodup_append]
  refine ⟨kvListToDict_nodup _, ?_, ?_⟩
  · exact baked.distinct.sublist (List.filter_sublist.map _)
  · intro a ha b hb heq
    subst heq
    obtain ⟨e, he, rfl⟩ := List.mem_map.mp hb
    have hnone := (List.mem_filter.mp he).2
    obtain ⟨e', he', hname⟩ := List.mem_map.mp ha
    have hnot := List.lookup_eq_none_iff.mp (Option.isNone_iff_eq_none.mp hnone) e' he'
    rw [hname] at hnot
    simp at hnot

/-- The environment of a container that is created from the difference of another. -/
theorem created_envDelta (c : Inspected) (old : Baked) (imageRef : ImageRef) (service : String) :
    (created image baked (buildCreateArgv c old.config imageRef service).options).envMap =
      Layers.override baked.env
        (Layers.delta (fun k => (kvListToDict c.config.env).lookup k) old.env) := by
  rw [created_env, buildCreateArgv_env]
  congr 1
  funext k
  have hplain : ∀ e ∈ envDelta c.config.env old.config.env, '=' ∉ e.1.toList := by
    intro e he heq
    have hkey : e.1 ∈ (kvListToDict c.config.env).map Prod.fst :=
      List.mem_map.mpr ⟨e, (List.mem_filter.mp he).1, rfl⟩
    exact lookup_ne_none hkey (kvListToDict_plain heq)
  have hdistinct : ((envDelta c.config.env old.config.env).map Prod.fst).Nodup :=
    (kvListToDict_nodup c.config.env).sublist (List.filter_sublist.map _)
  rw [kvListToDict_texts hdistinct hplain]
  exact dictDelta_lookup (kvListToDict_nodup c.config.env) k

/-- Its labels, as far as an option can set those that differ. -/
theorem created_dictDelta (c : Inspected) (old : Baked) (imageRef : ImageRef) (service : String)
    (hdistinct : (c.config.labels.map Prod.fst).Nodup)
    (hplain : ∀ e ∈ c.config.labels, old.label e.1 ≠ some e.2 → '=' ∉ e.1.toList) :
    (created image baked (buildCreateArgv c old.config imageRef service).options).label =
      Layers.override baked.label
        (Layers.delta (fun k => c.config.labels.lookup k) old.label) := by
  rw [created_label, buildCreateArgv_labels]
  congr 1
  funext k
  have hplain' : ∀ e ∈ dictDelta c.config.labels old.config.labels, '=' ∉ e.1.toList := by
    intro e he
    obtain ⟨hmem, hdiffers⟩ := List.mem_filter.mp he
    exact hplain e hmem (bne_iff_ne.mp hdiffers)
  have hdistinct' : ((dictDelta c.config.labels old.config.labels).map Prod.fst).Nodup :=
    hdistinct.sublist (List.filter_sublist.map _)
  rw [kvListToDict_texts hdistinct' hplain']
  exact dictDelta_lookup hdistinct k

end Created

/-! ## One recreation -/

section Step
variable (config : ImageId → Baked)

/-- A container whose labels that no option can set are those of its image. -/
structure Made.Sound (m : Made) : Prop where
  distinct : (m.labels.map Prod.fst).Nodup
  plain : ∀ k, '=' ∈ k.toList → m.label k = (config m.image).label k

theorem created_sound (image : ImageId) (options : List String) :
    (created image (config image) options).Sound config where
  distinct := created_distinct image (config image) options
  plain k hk := by
    rw [created_label]
    exact Layers.override_none (kvListToDict_plain hk)

variable (resolve : ImageRef → ImageId)

theorem replaceContainer_yields (args : CreateArgs) (containerRef : String) (w : Option Made) :
    (replaceContainer args containerRef).Yields (dockerMachine config resolve)
      (fun ok w => ok = true → w = some
        (created (resolve args.image) (config (resolve args.image)) args.options)) w := by
  unfold replaceContainer
  refine (Action.yields_trivial _ w).bind fun _ w _ => ?_
  refine (Action.yields_trivial _ w).bind fun removed w _ => ?_
  refine Action.yields_ite (fun _ => Action.yields_pure (by simp)) fun _ => ?_
  have hcreate : (run (.create args)).Yields (dockerMachine config resolve)
      (fun res w => res.ok = true → w = some
        (created (resolve args.image) (config (resolve args.image)) args.options)) w :=
    Action.yields_perform fun res w' hs hok => hs res rfl hok
  refine hcreate.bind fun res w hmade => ?_
  refine Action.yields_ite (fun _ => Action.yields_pure (by simp)) fun hok => ?_
  have hstart : (run (.start args.name)).Yields (dockerMachine config resolve)
      (fun _ w => w = some
        (created (resolve args.image) (config (resolve args.image)) args.options)) w := by
    refine Action.yields_perform fun _ w' hs => ?_
    rw [show w' = w from hs]
    exact hmade (by simpa using hok)
  exact hstart.bind fun started w hw => Action.yields_pure fun _ => hw

/-- The baseline of an image that is there is its config. -/
theorem baselineConfig_yields (image : ImageId) (w : Option Made) :
    (baselineConfig (some image.val)).Yields (dockerMachine config resolve)
      (fun cfg _ => cfg = (config image).config) w := by
  have hsome : nonEmpty (some image.val) = some image.val := by
    simp [nonEmpty, Option.filter, image.property]
  unfold baselineConfig
  rw [hsome]
  have hinspect : (run (.imageInspectConfig image.val)).Yields (dockerMachine config resolve)
      (fun res _ => res = ⟨0, some (config image).config, ""⟩) w :=
    Action.yields_perform fun res w' hs => Except.ok.inj (hs.2 image.property)
  refine hinspect.bind fun res w hres => ?_
  subst hres
  exact Action.yields_pure rfl

variable {config} {m m' : Made} {image : ImageId}

theorem Recreated.made (h : Recreated config m image m') :
    ∃ inspected imageRef service, m.Reports inspected ∧
      m' = created image (config image)
        (buildCreateArgv inspected (config m.image).config imageRef service).options := by
  obtain ⟨resolve, c, imageRef, inspected, reported, rfl, run⟩ := h
  refine ⟨inspected, imageRef, c.service, reported, ?_⟩
  have hyields : (recreateOne c imageRef inspected.image inspected).Yields
      (dockerMachine config resolve) (fun ok w => ok = true → w = some
        (created (resolve imageRef) (config (resolve imageRef))
          (buildCreateArgv inspected (config m.image).config imageRef c.service).options))
      (some m) := by
    unfold recreateOne doRecreate
    rw [reported.image]
    refine (baselineConfig_yields config resolve m.image (some m)).bind fun oldCfg w hcfg => ?_
    subst hcfg
    refine Action.yields_ite (fun _ => Action.yields_pure (by simp)) fun _ => ?_
    exact replaceContainer_yields config resolve
      (buildCreateArgv inspected (config m.image).config imageRef c.service) c.containerId w
  exact Option.some.inj (hyields.at_return run rfl)

theorem Recreated.image_eq (h : Recreated config m image m') : m'.image = image := by
  obtain ⟨_, _, _, _, rfl⟩ := h.made
  rfl

theorem Recreated.sound (h : Recreated config m image m') : m'.Sound config := by
  obtain ⟨_, _, _, _, rfl⟩ := h.made
  exact created_sound config image _

/-- **A recreation lays the difference over the new image**: the environment. -/
theorem recreated_env (h : Recreated config m image m') :
    m'.envMap = Layers.override (config image).env
      (Layers.delta m.envMap (config m.image).env) := by
  obtain ⟨inspected, imageRef, service, reported, rfl⟩ := h.made
  rw [created_envDelta, reported.env]
  rfl

/-- **A recreation lays the difference over the new image**: the labels. -/
theorem recreated_label (hm : m.Sound config) (h : Recreated config m image m') :
    m'.label = Layers.override (config image).label
      (Layers.delta m.label (config m.image).label) := by
  obtain ⟨inspected, imageRef, service, reported, rfl⟩ := h.made
  rw [created_dictDelta, reported.labels]
  · rfl
  · rw [reported.labels]
    exact hm.distinct
  · intro e he hdiffers heq
    rw [reported.labels] at he
    have hhere : m.label e.1 = some e.2 := lookup_entry hm.distinct he
    exact hdiffers ((hm.plain e.1 heq).symm.trans hhere)

end Step

/-! ## The chain -/

/-- The entries none of the maps has alike. -/
def Entries.kept (entries : Entries) (bases : List (String → Option String)) :
    String → Option String :=
  fun k => (entries.list.lookup k).filter fun v => bases.all fun base => base k != some v

theorem Entries.texts (entries : Entries) (k : String) :
    (kvListToDict (entries.list.map entryText)).lookup k = entries.list.lookup k :=
  kvListToDict_texts entries.distinct entries.plain k

theorem Entries.survivors (entries : Entries) (bases : List (String → Option String)) :
    Layers.survivors (fun k => entries.list.lookup k) bases = entries.kept bases := by
  funext k
  exact Layers.survivors_apply _ bases k

theorem Overlay.options_env (overlay : Overlay) :
    optionValues "-e" overlay.options = overlay.env.list.map entryText := by
  have henv := Gives.entries "-e" (by decide) overlay.env.list
  have hlabels := Gives.otherEntries "-e" "--label" (by decide) (by decide) overlay.labels.list
  rw [Overlay.options, (henv.append hlabels).values_eq, List.append_nil]

theorem Overlay.options_labels (overlay : Overlay) :
    optionValues "--label" overlay.options = overlay.labels.list.map entryText := by
  have henv := Gives.otherEntries "--label" "-e" (by decide) (by decide) overlay.env.list
  have hlabels := Gives.entries "--label" (by decide) overlay.labels.list
  rw [Overlay.options, (henv.append hlabels).values_eq, List.nil_append]

section Chain
variable {config : ImageId → Baked} {m m' : Made} {rest : List ImageId}

/-- A chain of recreations lays the container's differences over one image after another. -/
theorem Chain.layers (h : Chain config m rest m') (hm : m.Sound config) :
    m'.envMap = Layers.relaid (config m.image).env m.envMap (rest.map fun i => (config i).env) ∧
      m'.label =
        Layers.relaid (config m.image).label m.label (rest.map fun i => (config i).label) := by
  induction h with
  | done m => exact ⟨rfl, rfl⟩
  | next first then_ ih =>
    obtain ⟨henv, hlabel⟩ := ih first.sound
    rw [recreated_env first, first.image_eq] at henv
    rw [recreated_label hm first, first.image_eq] at hlabel
    exact ⟨henv, hlabel⟩

/-- The maps of the last image and of those before it. -/
theorem last_map (f : ImageId → String → Option String) (first : ImageId) (rest : List ImageId) :
    (rest.map f).getLastD (f first) = f (rest.getLastD first) := by
  induction rest generalizing first with
  | nil => rfl
  | cons i rest ih =>
    rw [List.map_cons, List.getLastD_cons, List.getLastD_cons]
    exact ih i

/-- **Overlays survive a chain of updates, but for what an image bakes alike.**  In the end
the last image's environment and labels are overridden by every entry of the overlay that
none of the images before it bakes with the same value. -/
theorem overlay_survives (config : ImageId → Baked) (overlay : Overlay) (first : ImageId)
    (rest : List ImageId) (m : Made)
    (h : Chain config (created first (config first) overlay.options) rest m) :
    m.envMap = Layers.override (config (rest.getLastD first)).env
        (overlay.env.kept ((first :: rest).dropLast.map fun i => (config i).env)) ∧
      m.label = Layers.override (config (rest.getLastD first)).label
        (overlay.labels.kept ((first :: rest).dropLast.map fun i => (config i).label)) := by
  obtain ⟨henv, hlabel⟩ := h.layers (created_sound config first overlay.options)
  have htexts : (fun k => (kvListToDict (overlay.env.list.map entryText)).lookup k) =
      fun k => overlay.env.list.lookup k := funext overlay.env.texts
  have htexts' : (fun k => (kvListToDict (overlay.labels.list.map entryText)).lookup k) =
      fun k => overlay.labels.list.lookup k := funext overlay.labels.texts
  constructor
  · rw [henv, created_env, overlay.options_env, htexts,
      show (created first (config first) overlay.options).image = first from rfl,
      Layers.relaid_override, last_map fun i => (config i).env, Entries.survivors,
      List.map_dropLast]
    rfl
  · rw [hlabel, created_label, overlay.options_labels, htexts',
      show (created first (config first) overlay.options).image = first from rfl,
      Layers.relaid_override, last_map fun i => (config i).label, Entries.survivors,
      List.map_dropLast]
    rfl

end Chain

/-! ### An overlay on a release that changes a default -/

/-- A first release logs verbosely, all later ones do not. -/
def quieter : ImageId → Baked
  | ⟨"sha256:0", _⟩ => ⟨{ env := ["LOG_LEVEL=debug"] }, by decide⟩
  | _ => ⟨{ env := ["LOG_LEVEL=info"], labels := [("version", "2")] }, by decide⟩

/-- The operator wants verbose logs, and names the node. -/
def verbose : Overlay where
  env := ⟨[("LOG_LEVEL", "debug"), ("GREFFER_ID", "g1")], by decide, by decide⟩
  labels := ⟨[("com.docker.compose.service", "greffer")], by decide, by decide⟩

/-- Docker where every command succeeds; whatever a name stands for is the second
release. -/
def obliging (w : Option Made) :
    (c : Command) → Raises Command.Answer UpdateError c × Option Made
  | .imageInspectConfig i =>
    (.ok ⟨0, some (if h : i ≠ "" then (quieter ⟨i, h⟩).config else {}), ""⟩, w)
  | .rm _ => (.ok ⟨0, "", ""⟩, none)
  | .create args =>
    (.ok ⟨0, "", ""⟩, some (created ⟨"sha256:1", by decide⟩ (quieter ⟨"sha256:1", by decide⟩)
      args.options))
  | c => (c.silent, w)

theorem obliging_serves (w : Option Made) (c : Command) :
    (dockerMachine quieter fun _ => ⟨"sha256:1", by decide⟩).serve w c (obliging w c).1
      (obliging w c).2 := by
  cases c with
  | imageInspectConfig i =>
    refine ⟨rfl, fun h => ?_⟩
    simp [obliging, h]
  | rm container => exact fun _ _ _ => rfl
  | create args => exact fun _ _ _ => rfl
  | _ => rfl

/-- The container of a first release, under the operator's overlay. -/
def before : Made := created ⟨"sha256:0", by decide⟩ (quieter ⟨"sha256:0", by decide⟩) verbose.options

/-- The same container after the update. -/
def after : Made :=
  created ⟨"sha256:1", by decide⟩ (quieter ⟨"sha256:1", by decide⟩)
    ["-e", "GREFFER_ID=g1", "--label", "com.docker.compose.service=greffer"]

theorem before_updated : Recreated quieter before ⟨"sha256:1", by decide⟩ after :=
  .intro (fun _ => ⟨"sha256:1", by decide⟩) ⟨"greffer", "gid", "greffon/greffer", rfl⟩
    (.latest "greffon/greffer")
    { name := some "/greffer-1", image := some "sha256:0",
      config := { env := before.env, labels := before.labels } }
    ⟨rfl, rfl, rfl⟩ rfl (Prog.run_evalFor (h := obliging) obliging_serves 8 _ _)

theorem overlay_survives_once :
    after.envMap "GREFFER_ID" = some "g1" ∧
      after.label "com.docker.compose.service" = some "greffer" := by
  obtain ⟨henv, hlabel⟩ := overlay_survives quieter verbose ⟨"sha256:0", by decide⟩
    [⟨"sha256:1", by decide⟩] after (.next before_updated (.done after))
  rw [henv, hlabel]
  exact ⟨by decide +kernel, by decide +kernel⟩

/-- The value the first release bakes as well is gone after the update. -/
theorem baked_alike_is_lost :
    Chain quieter (created ⟨"sha256:0", by decide⟩ (quieter ⟨"sha256:0", by decide⟩) verbose.options)
        [⟨"sha256:1", by decide⟩] after ∧
      after.envMap ≠ Layers.override (quieter ⟨"sha256:1", by decide⟩).env
        (fun k => verbose.env.list.lookup k) := by
  refine ⟨.next before_updated (.done after), ?_⟩
  intro heq
  have hlevel := congrFun heq "LOG_LEVEL"
  revert hlevel
  decide +kernel

end Greffer.Updater

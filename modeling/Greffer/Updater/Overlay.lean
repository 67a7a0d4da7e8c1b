import Mathlib.Data.List.Nodup
import Mathlib.Data.List.TakeWhile
import Greffer.Python.Layers
import Greffer.Python.Lines
import Greffer.Updater.Recreate

/-! # Operator overlays along a chain of updates

Nothing on the node says which environment variables and labels compose laid over those of
the image.  A recreation finds them again as the **difference** of the container with
the image it was created from, and lays that difference over the new image.

Docker is a world of its own here: it reports the container it has and the config of each
local image, and a container it creates has the image's entries under those of the
options (`created`).
-/
namespace Greffer.Updater
open Effects

/-! ## Dictionaries of `name=value` texts -/

/-- The name a text `name=value` sets. -/
def entryName (item : String) : String := (partition '=' item).1

/-- The text that sets a name to a value. -/
def entryText (e : String × String) : String := e.1 ++ "=" ++ e.2

theorem entryName_plain (item : String) : '=' ∉ (entryName item).toList := by
  intro h
  have hfst : entryName item = String.ofList (item.toList.takeWhile (· != '=')) := by
    unfold entryName partition
    dsimp only
    split
    · rfl
    · rfl
  rw [hfst, String.toList_ofList] at h
  exact absurd (List.mem_takeWhile_imp h) (by simp)

theorem partition_entryText {e : String × String} (h : '=' ∉ e.1.toList) :
    partition '=' (entryText e) = (e.1, true, e.2) := by
  have := partition_append h e.2
  simpa [entryText] using this

/-- Entering more texts: they win over what was there. -/
theorem lookup_foldl_upsert (items : List String) (d : List (String × String)) (k : String) :
    (items.foldl (fun out item => upsert out (partition '=' item).1 (partition '=' item).2.2)
      d).lookup k = ((kvListToDict items).lookup k).or (d.lookup k) := by
  induction items generalizing d with
  | nil => rfl
  | cons item rest ih =>
    rw [kvListToDict, List.foldl_cons, List.foldl_cons, ih, ih, Option.or_assoc]
    by_cases hk : k = (partition '=' item).1
    · subst hk
      rw [lookup_upsert_self, lookup_upsert_self]
      rfl
    · rw [lookup_upsert_ne _ _ hk, lookup_upsert_ne _ _ hk]
      rfl

theorem kvListToDict_append (items items' : List String) (k : String) :
    (kvListToDict (items ++ items')).lookup k =
      ((kvListToDict items').lookup k).or ((kvListToDict items).lookup k) := by
  rw [kvListToDict, List.foldl_append, lookup_foldl_upsert]
  rfl

theorem kvListToDict_cons (item : String) (rest : List String) (k : String) :
    (kvListToDict (item :: rest)).lookup k =
      ((kvListToDict rest).lookup k).or
        (if k = entryName item then some (partition '=' item).2.2 else none) := by
  rw [kvListToDict, List.foldl_cons, lookup_foldl_upsert]
  congr 1
  by_cases hk : k = entryName item
  · rw [if_pos hk, hk]
    exact lookup_upsert_self _ _ _
  · rw [if_neg hk]
    exact lookup_upsert_ne _ _ hk

/-- A name is there when one of the texts sets it. -/
theorem kvListToDict_isSome {items : List String} {k : String} :
    ((kvListToDict items).lookup k).isSome = true ↔ k ∈ items.map entryName := by
  induction items with
  | nil => simp [kvListToDict]
  | cons item rest ih =>
    rw [kvListToDict_cons, List.map_cons, List.mem_cons, ← ih]
    by_cases hk : k = entryName item
    · simp [hk]
    · simp [hk]

theorem kvListToDict_filter (keep : String → Bool) (items : List String) (k : String) :
    (kvListToDict (items.filter fun item => keep (entryName item))).lookup k =
      if keep k then (kvListToDict items).lookup k else none := by
  induction items with
  | nil => simp [kvListToDict]
  | cons item rest ih =>
    by_cases hitem : keep (entryName item) = true
    · rw [List.filter_cons, if_pos hitem, kvListToDict_cons, kvListToDict_cons, ih]
      by_cases hk : k = entryName item
      · simp [hk, hitem]
      · simp [hk]
    · rw [List.filter_cons, if_neg hitem, kvListToDict_cons, ih]
      by_cases hk : k = entryName item
      · simp [hk, hitem]
      · simp [hk]

theorem kvListToDict_nodup (items : List String) :
    ((kvListToDict items).map Prod.fst).Nodup := by
  suffices h : ∀ d : List (String × String), (d.map Prod.fst).Nodup →
      ((items.foldl (fun out item =>
        upsert out (partition '=' item).1 (partition '=' item).2.2) d).map Prod.fst).Nodup from
    h [] List.nodup_nil
  induction items with
  | nil => exact fun d hd => hd
  | cons item rest ih =>
    intro d hd
    refine ih _ ?_
    dsimp only
    by_cases hmem : (partition '=' item).1 ∈ d.map Prod.fst
    · rw [keys_upsert_of_mem _ hmem]
      exact hd
    · rw [upsert_of_not_mem _ hmem, List.map_append]
      exact List.nodup_append.mpr ⟨hd, List.nodup_singleton _,
        fun a ha b hb heq => hmem (by simp_all)⟩

theorem kvListToDict_plain {items : List String} {k : String}
    (h : '=' ∈ k.toList) : (kvListToDict items).lookup k = none := by
  by_contra hne
  obtain ⟨item, _, hitem⟩ := List.mem_map.mp
    (kvListToDict_isSome.mp (Option.isSome_iff_ne_none.mpr hne))
  exact entryName_plain item (hitem ▸ h)

theorem kvListToDict_texts {entries : List (String × String)}
    (hdistinct : (entries.map Prod.fst).Nodup) (hplain : ∀ e ∈ entries, '=' ∉ e.1.toList)
    (k : String) : (kvListToDict (entries.map entryText)).lookup k = entries.lookup k := by
  induction entries with
  | nil => rfl
  | cons e rest ih =>
    obtain ⟨name, value⟩ := e
    have hpart : partition '=' (entryText (name, value)) = (name, true, value) :=
      partition_entryText (hplain _ List.mem_cons_self)
    obtain ⟨hnot, hrest⟩ := List.nodup_cons.mp hdistinct
    rw [List.map_cons, kvListToDict_cons,
      ih hrest fun e he => hplain e (List.mem_cons_of_mem _ he), entryName, hpart,
      List.lookup_cons]
    by_cases hk : k = name
    · subst hk
      rw [lookup_of_notMem hnot]
      simp
    · simp [hk, beq_eq_false_iff_ne.mpr hk]

/-- Looking a name up among the entries that are kept. -/
theorem lookup_filter {β : Type} {d : List (String × β)} (hd : (d.map Prod.fst).Nodup)
    (keep : String × β → Bool) (k : String) :
    (d.filter keep).lookup k = (d.lookup k).filter fun v => keep (k, v) := by
  induction d with
  | nil => rfl
  | cons e rest ih =>
    obtain ⟨name, value⟩ := e
    obtain ⟨hnot, hrest⟩ := List.nodup_cons.mp hd
    have hrest' := ih hrest
    by_cases hk : k = name
    · subst hk
      have hnone := lookup_of_notMem hnot
      by_cases hkeep : keep (k, value) = true
      · rw [List.filter_cons_of_pos hkeep]
        simp [Option.filter, hkeep]
      · rw [List.filter_cons_of_neg hkeep, hrest', hnone]
        simp [Option.filter, hkeep]
    · have hne : (k == name) = false := beq_eq_false_iff_ne.mpr hk
      by_cases hkeep : keep (name, value) = true
      · rw [List.filter_cons_of_pos hkeep, List.lookup_cons, List.lookup_cons, hne, hrest']
      · rw [List.filter_cons_of_neg hkeep, List.lookup_cons, hne, hrest']

theorem dictDelta_lookup {containerMap oldImageMap : List (String × String)}
    (hd : (containerMap.map Prod.fst).Nodup) (k : String) :
    (dictDelta containerMap oldImageMap).lookup k =
      Layers.delta (fun k => containerMap.lookup k) (fun k => oldImageMap.lookup k) k :=
  lookup_filter hd _ k

/-! ## What `docker create` is told -/

/-- The words of the options of one flag.  Every option is followed by its word, but for
`--no-healthcheck`. -/
def optionValues (flag : String) : List String → List String
  | [] => []
  | [_] => []
  | option :: word :: rest =>
    if option = "--no-healthcheck" then optionValues flag (word :: rest)
    else if option = flag then word :: optionValues flag rest
    else optionValues flag rest

/-- These are whole options, which give the flag the words `values`. -/
def Gives (flag : String) (args values : List String) : Prop :=
  ∀ rest, optionValues flag (args ++ rest) = values ++ optionValues flag rest

namespace Gives
variable {flag : String} {args args' values values' : List String}

theorem nil : Gives flag [] [] := fun _ => rfl

theorem append (h : Gives flag args values) (h' : Gives flag args' values') :
    Gives flag (args ++ args') (values ++ values') := by
  intro rest
  rw [List.append_assoc, h, h', List.append_assoc]

theorem both (h : Gives flag args []) (h' : Gives flag args' []) : Gives flag (args ++ args') [] :=
  h.append h'

theorem other {option : String} (word : String) (hne : option ≠ flag)
    (hword : option ≠ "--no-healthcheck") : Gives flag [option, word] [] := by
  intro rest
  simp [optionValues, hne, hword]

theorem own (word : String) (hword : flag ≠ "--no-healthcheck") :
    Gives flag [flag, word] [word] := by
  intro rest
  simp [optionValues, hword]

theorem noHealthcheck : Gives flag ["--no-healthcheck"] [] := by
  intro rest
  cases rest with
  | nil => rfl
  | cons option rest => simp [optionValues]

theorem flatMap {α : Type} {f g : α → List String} (l : List α)
    (h : ∀ a, Gives flag (f a) (g a)) : Gives flag (l.flatMap f) (l.flatMap g) := by
  induction l with
  | nil => exact nil
  | cons a rest ih =>
    rw [List.flatMap_cons, List.flatMap_cons]
    exact (h a).append ih

/-- A list of options none of which is of the flag. -/
theorem flatMap_none {α : Type} {f : α → List String} (l : List α)
    (h : ∀ a ∈ l, Gives flag (f a) []) : Gives flag (l.flatMap f) [] := by
  induction l with
  | nil => exact nil
  | cons a rest ih =>
    rw [List.flatMap_cons]
    exact (h a List.mem_cons_self).both (ih fun b hb => h b (List.mem_cons_of_mem _ hb))

theorem flatMap_other {α : Type} {f : α → List String} (l : List α)
    (h : ∀ a, Gives flag (f a) []) : Gives flag (l.flatMap f) [] := flatMap_none l fun a _ => h a

theorem ite {c : Prop} [Decidable c] (h : Gives flag args values)
    (h' : Gives flag args' values) : Gives flag (if c then args else args') values := by
  split
  · exact h
  · exact h'

theorem values_eq (h : Gives flag args values) : optionValues flag args = values := by
  have hall := h []
  rw [List.append_nil] at hall
  simpa [optionValues] using hall

/-- The option of a flag that is among others. -/
theorem foreign {option : String} {flags : List String} (hflag : flag ∉ flags) (word : String)
    (h : option ∈ flags) (hword : option ≠ "--no-healthcheck") : Gives flag [option, word] [] :=
  other word (fun heq => hflag (heq ▸ h)) hword

theorem networkArgs (host : HostConfig) (service : String)
    (h : flag ∉ ["--network", "--network-alias"]) : Gives flag (networkArgs host service) [] := by
  refine ite ?_ (ite ?_ (ite nil (both ?_ (ite ?_ nil))))
  · exact foreign h _ (by decide) (by decide)
  · exact foreign h _ (by decide) (by decide)
  · exact foreign h _ (by decide) (by decide)
  · exact foreign h _ (by decide) (by decide)

theorem restartArgs (host : HostConfig) (h : flag ∉ ["--restart"]) :
    Gives flag (restartArgs host) [] :=
  ite nil (ite (foreign h _ (by decide) (by decide)) (foreign h _ (by decide) (by decide)))

theorem logArgs (host : HostConfig) (h : flag ∉ ["--log-driver", "--log-opt"]) :
    Gives flag (logArgs host) [] := by
  refine ite nil (both (foreign h _ (by decide) (by decide)) ?_)
  exact flatMap_other _ fun e => foreign h _ (by decide) (by decide)

theorem addHosts (hosts : List String) (h : flag ∉ ["--add-host"]) :
    Gives flag (hosts.flatMap fun h => ["--add-host", h]) [] :=
  flatMap_other hosts fun _ => foreign h _ (by decide) (by decide)

theorem mountArgs (mounts : List Mount) (h : flag ∉ ["-v"]) : Gives flag (mountArgs mounts) [] :=
  flatMap_other mounts fun _ => ite nil (foreign h _ (by decide) (by decide))

theorem portArgs (portBindings : List (String × List PortBinding)) (h : flag ∉ ["-p"]) :
    Gives flag (portArgs portBindings) [] :=
  flatMap_other portBindings fun e =>
    flatMap_other e.2 fun _ => foreign h _ (by decide) (by decide)

theorem durationFlag {option : String} {flags : List String} (hflag : flag ∉ flags) (ns : Nat)
    (h : option ∈ flags) (hword : option ≠ "--no-healthcheck") :
    Gives flag (durationFlag option ns) [] :=
  ite (foreign hflag _ h hword) nil

theorem healthcheckArgs (cont oldImg : Healthcheck)
    (h : flag ∉ ["--health-cmd", "--health-interval", "--health-timeout", "--health-start-period",
      "--health-retries"]) : Gives flag (healthcheckArgs cont oldImg) [] := by
  refine ite nil (ite (ite noHealthcheck nil) ?_)
  dsimp only
  refine both (both (both (both ?_ ?_) ?_) ?_) ?_
  · exact foreign h _ (by decide) (by decide)
  · exact durationFlag h cont.interval (by decide) (by decide)
  · exact durationFlag h cont.timeout (by decide) (by decide)
  · exact durationFlag h cont.startPeriod (by decide) (by decide)
  · exact ite (foreign h _ (by decide) (by decide)) nil

theorem scalarDeltaArgs (cont oldImg : Config) (h : flag ∉ ["--user", "--workdir", "--stop-signal"]) :
    Gives flag (scalarDeltaArgs cont oldImg) [] := by
  refine both (both (ite ?_ nil) (ite ?_ nil)) (ite ?_ nil)
  · exact foreign h _ (by decide) (by decide)
  · exact foreign h _ (by decide) (by decide)
  · exact foreign h _ (by decide) (by decide)

theorem entrypoint (override : Option String) (h : flag ∉ ["--entrypoint"]) :
    Gives flag ((override.map fun e => ["--entrypoint", e]).getD []) [] := by
  cases override with
  | none => exact nil
  | some e => exact foreign h _ (by decide) (by decide)

end Gives

theorem Gives.entries (flag : String) (hflag : flag ≠ "--no-healthcheck")
    (entries : List (String × String)) :
    Gives flag (entries.flatMap fun e => [flag, e.1 ++ "=" ++ e.2]) (entries.map entryText) := by
  rw [List.map_eq_flatMap]
  exact flatMap entries fun _ => own _ hflag

/-- The option of another flag, for each entry of a list. -/
theorem Gives.otherEntries (flag option : String) (hne : option ≠ flag)
    (hword : option ≠ "--no-healthcheck") (entries : List (String × String)) :
    Gives flag (entries.flatMap fun e => [option, e.1 ++ "=" ++ e.2]) [] :=
  flatMap_other entries fun _ => other _ hne hword

/-! ### The options of a recreation, by their flags -/

/-- **Groups of options of different flags**: what the group of a flag gives it, all of them do. -/
theorem Gives.ofGroups {flag : String} {groups : List (List String × List String)}
    (hown : ∀ g ∈ groups, ∀ f ∉ g.1, Gives f g.2 [])
    (hapart : groups.Pairwise fun g g' => ∀ f ∈ g.1, f ∉ g'.1) {flags args words : List String}
    (hmem : (flags, args) ∈ groups) (hflag : flag ∈ flags) (h : Gives flag args words) :
    Gives flag (groups.flatMap Prod.snd) words := by
  induction groups with
  | nil => cases hmem
  | cons g rest ih =>
    obtain ⟨hhead, hapart⟩ := List.pairwise_cons.mp hapart
    have hrest := fun g' hg' => hown g' (List.mem_cons_of_mem _ hg')
    rw [List.flatMap_cons]
    rcases List.mem_cons.mp hmem with rfl | hmem
    · have hothers : Gives flag (rest.flatMap Prod.snd) [] :=
        flatMap_none rest fun g' hg' => hrest g' hg' flag (hhead g' hg' flag hflag)
      simpa using h.append hothers
    · have hfirst : flag ∉ g.1 := fun hf => hhead _ hmem flag hf hflag
      exact (hown g List.mem_cons_self flag hfirst).append (ih hrest hapart hmem)

/-- The options of a recreation, each part with its flags. -/
def optionGroups (container : Inspected) (oldCfg : Config) (service : String) :
    List (List String × List String) :=
  [(["--network", "--network-alias"], networkArgs container.hostConfig service),
    (["--restart"], restartArgs container.hostConfig),
    (["--log-driver", "--log-opt"], logArgs container.hostConfig),
    (["--add-host"], container.hostConfig.extraHosts.flatMap fun h => ["--add-host", h]),
    (["-e"], (envDelta container.config.env oldCfg.env).flatMap fun e =>
      ["-e", e.1 ++ "=" ++ e.2]),
    (["--label"], (dictDelta container.config.labels oldCfg.labels).flatMap fun e =>
      ["--label", e.1 ++ "=" ++ e.2]),
    (["-v"], mountArgs container.mounts), (["-p"], portArgs container.hostConfig.portBindings),
    (["--health-cmd", "--health-interval", "--health-timeout", "--health-start-period",
      "--health-retries"], healthcheckArgs container.config.healthcheck oldCfg.healthcheck),
    (["--user", "--workdir", "--stop-signal"], scalarDeltaArgs container.config oldCfg),
    (["--entrypoint"], ((entrypointOverride container.config.entrypoint oldCfg.entrypoint).map
      fun e => ["--entrypoint", e]).getD [])]

theorem optionGroups_own (container : Inspected) (oldCfg : Config) (service : String) :
    ∀ g ∈ optionGroups container oldCfg service, ∀ f ∉ g.1, Gives f g.2 [] := by
  simp only [optionGroups, List.forall_mem_cons, List.not_mem_nil, false_implies, implies_true,
    and_true]
  refine ⟨fun _ => .networkArgs _ _, fun _ => .restartArgs _, fun _ => .logArgs _,
    fun _ => .addHosts _, fun _ h => ?_, fun _ h => ?_, fun _ => .mountArgs _, fun _ => .portArgs _,
    fun _ => .healthcheckArgs _ _, fun _ => .scalarDeltaArgs _ _, fun _ => .entrypoint _⟩
  · exact .flatMap_other _ fun _ => .foreign h _ (by decide) (by decide)
  · exact .flatMap_other _ fun _ => .foreign h _ (by decide) (by decide)

/-- **The words of an option of a recreation** are those that its part gives it. -/
theorem words_of (container : Inspected) (oldCfg : Config) (imageRef : ImageRef) (service : String)
    {flag : String} (flags : List String) {args words : List String}
    (hmem : (flags, args) ∈ optionGroups container oldCfg service) (hflag : flag ∈ flags)
    (h : Gives flag args words) :
    optionValues flag (buildCreateArgv container oldCfg imageRef service).options = words := by
  have hapart : (optionGroups container oldCfg service).Pairwise fun g g' => ∀ f ∈ g.1, f ∉ g'.1 := by
    simp [optionGroups]
  have hoptions : (buildCreateArgv container oldCfg imageRef service).options =
      (optionGroups container oldCfg service).flatMap Prod.snd := by
    simp [buildCreateArgv, optionGroups]
  rw [hoptions]
  exact (Gives.ofGroups (optionGroups_own _ _ _) hapart hmem hflag h).values_eq

/-- The options of a recreation set the environment variables of the difference. -/
theorem buildCreateArgv_env (container : Inspected) (oldCfg : Config) (imageRef : ImageRef)
    (service : String) :
    optionValues "-e" (buildCreateArgv container oldCfg imageRef service).options =
      (envDelta container.config.env oldCfg.env).map entryText :=
  words_of container oldCfg imageRef service ["-e"] (by simp [optionGroups]) (by decide)
    (.entries "-e" (by decide) _)

/-- The options of a recreation set the labels of the difference. -/
theorem buildCreateArgv_labels (container : Inspected) (oldCfg : Config) (imageRef : ImageRef)
    (service : String) :
    optionValues "--label" (buildCreateArgv container oldCfg imageRef service).options =
      (dictDelta container.config.labels oldCfg.labels).map entryText :=
  words_of container oldCfg imageRef service ["--label"] (by simp [optionGroups])
    (by decide) (.entries "--label" (by decide) _)

end Greffer.Updater

import Greffer.Instance.StartRefusal

/-! # Baked files and the volumes they reach

The `file` and `json` destinations of a start name a volume and a file in it.  Each content is
rendered and staged in one directory of the instance, under the file's name alone, and the
file is listed for its volume; the copies are made later, volume by volume, from what is
staged then.

**So a volume gets the last content staged under the name**, whichever volume that was for
(`held_copied`).  `baked_files_iff` says when this is what the configurations ask for.
-/
namespace Greffer.Instance
open Effects
open Compose (Yaml Entries Dict Greffon GreffonInfo Configuration VolumeFile VolumeInfo VolumeMount
  joinPath nginxService createGreffonInfo)

/-! ## What is copied -/

/-- The bytes of a text. -/
def utf8 (text : String) : List UInt8 := text.toUTF8.data.toList

/-- The bytes that are written to a staged file; `dumps` is `json.dumps`. -/
def stagedBytes (dumps : Yaml → String) : StagedData → List UInt8
  | .json value => utf8 (dumps value)
  | .raw (.bytes data) => data
  | .raw (.text data) => utf8 data

/-- What is copied into docker volumes, in order: the volume, the file, and its content. -/
abbrev Copies := List ((String × String) × List UInt8)

/-- `docker_copy_file_into_volume`; `disk` is what the sources have. -/
def dockerCopyFileIntoVolume (disk : String → List UInt8) (volume : VolumeInfo) : Copies :=
  volume.files.map fun
    | .path src dest => ((volume.value, dest), disk src)
    | .content text dest => ((volume.value, dest), utf8 text)

/-- `create_volumes_then_copy_files`. -/
def createVolumesThenCopyFiles (disk : String → List UInt8) (info : GreffonInfo) : Copies :=
  info.volumes.flatMap fun v => dockerCopyFileIntoVolume disk v.2

/-- The last element with a property. -/
def lastWhere {α : Type} (p : α → Bool) (l : List α) : Option α := l.reverse.find? p

/-- What a file of a docker volume holds after the copies. -/
def held (copies : Copies) (key : String × String) : Option (List UInt8) :=
  (lastWhere (fun c => c.1 == key) copies).map Prod.snd

/-! ## What is baked -/

/-- What a start asks of other programs when it bakes. -/
structure Oven where
  renderFile : GreffonInfo → RawData → Except Exn (Except String String)
  renderJson : GreffonInfo → Yaml → Except Exn Yaml
  dataUri : Yaml → Except Exn RawData

/-- A baked file: its volume, its name, and what it is to hold. -/
structure Bake where
  volume : Yaml
  name : String
  data : StagedData

section Bakes
variable (o : Oven) (settings : StartSettings) (repr : Repr)

/-- A text that is rendered, if the engine takes it. -/
def rendered (info : GreffonInfo) (raw : RawData) : Option String :=
  match o.renderFile info raw with
  | .ok (.ok text) => some text
  | _ => none

/-- The value that a `json` destination stages. -/
def bakedJson (info : GreffonInfo) (destination : Entries) (value : Yaml) : Option Yaml :=
  if rendersFlag destination then
    match value with
    | .null => some .null
    | .str text => (rendered o info (.text text)).map .str
    | value => (o.renderJson info value).toOption
  else some value

/-- The content that a `file` destination stages. -/
def bakedFile (info : GreffonInfo) (destination : Entries) (value : Yaml) : Option RawData :=
  match Compose.index value "file" with
  | .ok uri =>
    match o.dataUri uri with
    | .ok raw => if rendersFlag destination then (rendered o info raw).map .text else some raw
    | .error _ => none
  | .error _ => none

/-- What a destination bakes. -/
def bakeOf (info : GreffonInfo) (value destination : Yaml) : Option Bake :=
  match destinationType destination, stagedName repr info destination.entries with
  | .ok "json", .ok staged =>
    (bakedJson o info destination.entries value).map fun v => ⟨staged.2, staged.1, .json v⟩
  | .ok "file", .ok staged =>
    (bakedFile o info destination.entries value).map fun raw => ⟨staged.2, staged.1, .raw raw⟩
  | _, _ => none

/-- The info with a baked file listed. -/
def listBake (info : GreffonInfo) (b : Bake) : GreffonInfo :=
  appendFile info b.volume (.path (stagedPath settings.greffonPath info.id b.name) b.name)

/-- What the destinations bake, in order. -/
def bakesOf (info : GreffonInfo) : List (Except Exn (Yaml × Yaml)) → List Bake
  | [] => []
  | .error _ :: _ => []
  | .ok (value, destination) :: rest =>
    match bakeOf o repr info value destination with
    | some b => b :: bakesOf (listBake settings info b) rest
    | none => bakesOf info rest

end Bakes

/-- What is staged, in order. -/
abbrev Journal := List (String × StagedData)

/-- The staging directory: a file that is written gets its content.  The other programs
answer as they do. -/
def stagingMachine (o : Oven) :
    Machine (Raises (ControlCall.Answer StartCall.Answer) ControlError) Journal where
  serve w c r w' := match c, r with
    | .handler (.writeStaged name data), r => r = .ok () → w' = w ++ [(name, data)]
    | .handler (.renderFile info raw), r => r = (o.renderFile info raw).mapError .raised ∧ w' = w
    | .handler (.renderJson info value), r =>
      r = (o.renderJson info value).mapError .raised ∧ w' = w
    | .handler (.dataUri value), r => r = (o.dataUri value).mapError .raised ∧ w' = w
    | _, _ => w' = w

/-- What is on the disk: the staged files over what was there. -/
def stagedDisk (dumps : Yaml → String) (settings : StartSettings) (id : String) (journal : Journal)
    (before : String → List UInt8) (path : String) : List UInt8 :=
  match lastWhere (fun e => stagedPath settings.greffonPath id e.1 == path) journal with
  | some e => stagedBytes dumps e.2
  | none => before path

/-! ## One destination -/

section Steps
variable {o : Oven} (settings : StartSettings) (repr : Repr) {setter : EnvironmentSetter}
  (w : Journal)

theorem yields_aside {c : StartCall}
    (h : ∀ a w', (stagingMachine o).serve w (.handler c) (.ok a) w' → w' = w) :
    (startOp c).Yields (stagingMachine o) (fun _ w' => w' = w) w :=
  Action.yields_perform h

theorem getGreffonPath_stages :
    getGreffonPath.Yields (stagingMachine o) (fun _ w' => w' = w) w := by
  unfold getGreffonPath
  refine (yields_aside (c := .dirExists) w fun _ _ hs => hs).bind fun there w₁ h₁ => ?_
  subst h₁
  refine Action.yields_ite (fun _ => ?_) fun _ => Action.yields_pure rfl
  exact yields_aside w₁ fun _ _ hs => hs

theorem removeIfThere_stages (name : String) :
    (removeIfThere name).Yields (stagingMachine o) (fun _ w' => w' = w) w := by
  unfold removeIfThere
  refine (yields_aside (c := .exists name) w fun _ _ hs => hs).bind fun there w₁ h₁ => ?_
  subst h₁
  refine Action.yields_ite (fun _ => ?_) fun _ => Action.yields_pure rfl
  exact yields_aside w₁ fun _ _ hs => hs

theorem removeComposeFile_stages :
    removeComposeFile.Yields (stagingMachine o) (fun _ w' => w' = w) w := by
  unfold removeComposeFile
  refine (getGreffonPath_stages w).bind fun _ w₁ h₁ => ?_
  subst h₁
  refine (removeIfThere_stages w₁ templateName).bind fun _ w₂ h₂ => ?_
  subst h₂
  exact removeIfThere_stages w₂ composeName

theorem settle_stages {α : Type} (r : Except Exn α) :
    (settle r).Yields (stagingMachine o) (fun a w' => w' = w ∧ r = .ok a) w :=
  Action.yields_ofExcept fun _ ha => ⟨rfl, Compose.mapError_ok_iff.mp ha⟩

theorem stagedDestinationPath_stages (info : GreffonInfo) (destination : Entries) :
    (stagedDestinationPath repr info destination).Yields (stagingMachine o)
      (fun r w' => w' = w ∧ ∀ staged, r = .ok staged →
        stagedName repr info destination = .ok staged) w := by
  unfold stagedDestinationPath
  cases hname : stagedName repr info destination with
  | error e =>
    cases e with
    | refused message => exact Action.yields_pure ⟨rfl, fun _ h => by cases h⟩
    | raised e => exact Action.yields_raise _
  | ok staged =>
    refine (getGreffonPath_stages w).bind fun _ w₁ h₁ => ?_
    subst h₁
    refine (yields_aside (c := .makeStageDir) w₁ fun _ _ hs => hs).bind fun _ w₂ h₂ => ?_
    subst h₂
    exact Action.yields_pure ⟨rfl, fun _ h => by cases h; rfl⟩

theorem renderFile_stages (info : GreffonInfo) (raw : RawData) :
    (startOp (.renderFile info raw)).Yields (stagingMachine o)
      (fun r w' => w' = w ∧ o.renderFile info raw = .ok r) w :=
  Action.yields_perform fun _ _ hs => ⟨hs.2, Compose.mapError_ok_iff.mp hs.1.symm⟩

theorem renderJson_stages (info : GreffonInfo) (value : Yaml) :
    (startOp (.renderJson info value)).Yields (stagingMachine o)
      (fun r w' => w' = w ∧ o.renderJson info value = .ok r) w :=
  Action.yields_perform fun _ _ hs => ⟨hs.2, Compose.mapError_ok_iff.mp hs.1.symm⟩

theorem dataUri_stages (value : Yaml) :
    (startOp (.dataUri value)).Yields (stagingMachine o)
      (fun r w' => w' = w ∧ o.dataUri value = .ok r) w :=
  Action.yields_perform fun _ _ hs => ⟨hs.2, Compose.mapError_ok_iff.mp hs.1.symm⟩

theorem renderBakedFile_stages (info : GreffonInfo) (raw : RawData) (name : String) :
    (renderBakedFile info raw name).Yields (stagingMachine o)
      (fun r w' => w' = w ∧ ∀ text, r = .ok text → rendered o info raw = some text) w := by
  unfold renderBakedFile
  refine (renderFile_stages w info raw).bind fun r w₁ h₁ => ?_
  obtain ⟨rfl, hr⟩ := h₁
  cases r with
  | error text => exact Action.yields_pure ⟨rfl, fun _ h => by cases h⟩
  | ok text => exact Action.yields_pure ⟨rfl, fun _ h => by cases h; rw [rendered, hr]⟩

theorem renderedJson_stages (info : GreffonInfo) (destination : Entries) (value : Yaml)
    (name : String) : (renderedJson info destination value name).Yields (stagingMachine o)
      (fun r w' => w' = w ∧ ∀ v, r = .ok v → bakedJson o info destination value = some v) w := by
  unfold renderedJson bakedJson
  cases hflag : rendersFlag destination with
  | false => exact Action.yields_pure ⟨rfl, fun _ h => by cases h; rfl⟩
  | true =>
    cases value with
    | null => exact Action.yields_pure ⟨rfl, fun _ h => by cases h; rfl⟩
    | str text =>
      refine (renderBakedFile_stages w info (.text text) name).bind fun r w₁ h₁ => ?_
      obtain ⟨rfl, hr⟩ := h₁
      cases r with
      | error message => exact Action.yields_pure ⟨rfl, fun _ h => by cases h⟩
      | ok out =>
        refine Action.yields_pure ⟨rfl, fun _ h => ?_⟩
        cases h
        simp [hr out rfl]
    | bool b | int n | float q t | list items | dict entries | other a b c d e =>
      refine (renderJson_stages w info _).bind fun v w₁ h₁ => ?_
      obtain ⟨rfl, hv⟩ := h₁
      refine Action.yields_pure ⟨rfl, fun _ h => ?_⟩
      cases h
      simp [hv, Except.toOption]

theorem renderedFile_stages (info : GreffonInfo) (destination : Entries) (raw : RawData)
    (name : String) : (renderedFile info destination raw name).Yields (stagingMachine o)
      (fun r w' => w' = w ∧ ∀ data, r = .ok data →
        (if rendersFlag destination then (rendered o info raw).map .text else some raw) =
          some data) w := by
  unfold renderedFile
  refine Action.yields_ite (fun hflag => ?_) fun hflag => ?_
  · refine (renderBakedFile_stages w info raw name).bind fun r w₁ h₁ => ?_
    obtain ⟨rfl, hr⟩ := h₁
    cases r with
    | error message => exact Action.yields_pure ⟨rfl, fun _ h => by cases h⟩
    | ok text =>
      refine Action.yields_pure ⟨rfl, fun _ h => ?_⟩
      cases h
      rw [if_pos hflag, hr text rfl]
      rfl
  · refine Action.yields_pure ⟨rfl, fun _ h => ?_⟩
    cases h
    rw [if_neg hflag]

theorem writeAndList_stages (info : GreffonInfo) (staged : String × Yaml) (data : StagedData) :
    (writeAndList settings info staged data).Yields (stagingMachine o)
      (fun info' w' => w' = w ++ [(staged.1, data)] ∧
        info' = listBake settings info ⟨staged.2, staged.1, data⟩) w := by
  unfold writeAndList
  have hwrite : (startOp (.writeStaged staged.1 data)).Yields (stagingMachine o)
      (fun _ w' => w' = w ++ [(staged.1, data)]) w := Action.yields_perform fun _ _ hs => hs rfl
  refine hwrite.bind fun _ w₁ h₁ => ?_
  subst h₁
  exact Action.yields_pure ⟨rfl, rfl⟩

/-- What a destination that is applied leaves. -/
def Applied (o : Oven) (settings : StartSettings) (repr : Repr) (w : Journal) (info : GreffonInfo)
    (value destination : Yaml) (info' : GreffonInfo) (w' : Journal) : Prop :=
  match bakeOf o repr info value destination with
  | some b => w' = w ++ [(b.name, b.data)] ∧ info' = listBake settings info b
  | none => w' = w ∧ info' = info

theorem applyJson_stages (info : GreffonInfo) (value destination : Yaml)
    (htype : destinationType destination = .ok "json") :
    (applyJson settings repr info destination.entries value).Yields (stagingMachine o)
      (fun r w' => ∀ info', r = .ok info' →
        Applied o settings repr w info value destination info' w') w := by
  unfold applyJson
  refine (stagedDestinationPath_stages repr w info destination.entries).bind fun r w₁ h₁ => ?_
  obtain ⟨rfl, hr⟩ := h₁
  cases r with
  | error message => exact Action.yields_pure fun _ h => by cases h
  | ok staged =>
    refine (renderedJson_stages w₁ info destination.entries value staged.1).bind fun r w₂ h₂ => ?_
    obtain ⟨rfl, hv⟩ := h₂
    cases r with
    | error message => exact Action.yields_pure fun _ h => by cases h
    | ok v =>
      refine (writeAndList_stages settings w₂ info staged (.json v)).bind fun info' w₃ h₃ => ?_
      refine Action.yields_pure fun _ h => ?_
      cases h
      simpa only [Applied, bakeOf, htype, hr staged rfl, hv v rfl, Option.map_some] using h₃

theorem applyFile_stages (info : GreffonInfo) (value destination : Yaml)
    (htype : destinationType destination = .ok "file") :
    (applyFile settings repr info destination.entries value).Yields (stagingMachine o)
      (fun r w' => ∀ info', r = .ok info' →
        Applied o settings repr w info value destination info' w') w := by
  unfold applyFile
  refine (stagedDestinationPath_stages repr w info destination.entries).bind fun r w₁ h₁ => ?_
  obtain ⟨rfl, hr⟩ := h₁
  cases r with
  | error message => exact Action.yields_pure fun _ h => by cases h
  | ok staged =>
    refine (removeComposeFile_stages w₁).bind fun _ w₂ h₂ => ?_
    subst h₂
    refine (settle_stages w₂ (Compose.index value "file")).bind fun uri w₃ h₃ => ?_
    obtain ⟨rfl, huri⟩ := h₃
    refine (dataUri_stages w₃ uri).bind fun raw w₄ h₄ => ?_
    obtain ⟨rfl, hraw⟩ := h₄
    refine (renderedFile_stages w₄ info destination.entries raw staged.1).bind fun r w₅ h₅ => ?_
    obtain ⟨rfl, hdata⟩ := h₅
    cases r with
    | error message => exact Action.yields_pure fun _ h => by cases h
    | ok data =>
      refine (writeAndList_stages settings w₅ info staged (.raw data)).bind fun info' w₆ h₆ => ?_
      refine Action.yields_pure fun _ h => ?_
      cases h
      have hbaked : bakedFile o info destination.entries value = some data := by
        rw [bakedFile, huri]
        simp only [hraw, hdata data rfl]
      simpa only [Applied, bakeOf, htype, hr staged rfl, hbaked, Option.map_some] using h₆

theorem applyDestination_stages (info : GreffonInfo) (template : Entries)
    (value destination : Yaml) :
    (applyDestination settings repr setter info template value destination).Yields (stagingMachine o)
      (fun r w' => ∀ out, r = .ok out →
        Applied o settings repr w info value destination out.1 w') w := by
  unfold applyDestination
  refine (settle_stages w (destinationType destination)).bind fun type w₁ h₁ => ?_
  obtain ⟨rfl, htype⟩ := h₁
  refine Action.yields_ite (fun hjson => ?_) fun hjson =>
    Action.yields_ite (fun henv => ?_) fun henv =>
      Action.yields_ite (fun hfile => ?_) fun hfile => ?_
  · subst hjson
    refine (applyJson_stages settings repr w₁ info value destination htype).bind fun r w₂ h₂ => ?_
    cases r with
    | error message => exact Action.yields_pure fun _ h => by cases h
    | ok info' => exact Action.yields_pure fun _ h => by cases h; exact h₂ info' rfl
  · subst henv
    have henv : (applyEnv setter template destination.entries value).Yields (stagingMachine o)
        (fun _ w' => w' = w₁) w₁ := by
      unfold applyEnv
      refine (removeComposeFile_stages w₁).bind fun _ w₂ h₂ => ?_
      subst h₂
      exact (settle_stages w₂ _).mono fun _ _ h => h.1
    refine henv.bind fun template' w₂ h₂ => ?_
    subst h₂
    refine Action.yields_pure fun _ h => ?_
    cases h
    simp [Applied, bakeOf, htype]
  · subst hfile
    refine (applyFile_stages settings repr w₁ info value destination htype).bind fun r w₂ h₂ => ?_
    cases r with
    | error message => exact Action.yields_pure fun _ h => by cases h
    | ok info' => exact Action.yields_pure fun _ h => by cases h; exact h₂ info' rfl
  · refine Action.yields_pure fun _ h => ?_
    cases h
    have hnone : bakeOf o repr info value destination = none := by
      unfold bakeOf
      split
      · rename_i heq _
        exact absurd (Except.ok.inj (htype.symm.trans heq)) hjson
      · rename_i heq _
        exact absurd (Except.ok.inj (htype.symm.trans heq)) hfile
      · rfl
    rw [Applied, hnone]
    exact ⟨rfl, rfl⟩

/-- **What the loop stages and lists**: the bakes of the destinations, in order. -/
theorem applyDestinations_stages (setter : EnvironmentSetter) (info : GreffonInfo)
    (template : Entries) (destinations : List (Except Exn (Yaml × Yaml))) :
    (applyDestinations settings repr setter info template destinations).Yields (stagingMachine o)
      (fun r w' => ∀ out, r = .ok out →
        w' = w ++ (bakesOf o settings repr info destinations).map (fun b => (b.name, b.data)) ∧
        out.1 = (bakesOf o settings repr info destinations).foldl (listBake settings) info) w := by
  induction destinations generalizing info template w with
  | nil =>
    refine Action.yields_pure fun _ h => ?_
    cases h
    simp [bakesOf]
  | cons x rest ih =>
    cases x with
    | error e => exact Action.yields_raise _
    | ok p =>
      obtain ⟨value, destination⟩ := p
      unfold applyDestinations
      refine (applyDestination_stages settings repr w info template value destination).bind
        fun r w₁ h₁ => ?_
      cases r with
      | error message => exact Action.yields_pure fun _ h => by cases h
      | ok out =>
        obtain ⟨info', template'⟩ := out
        have happlied := h₁ _ rfl
        refine (ih w₁ info' template').mono fun r w₂ h₂ out hout => ?_
        obtain ⟨hw, hinfo⟩ := h₂ out hout
        rw [bakesOf]
        cases hbake : bakeOf o repr info value destination with
        | none =>
          rw [Applied, hbake] at happlied
          obtain ⟨rfl, rfl⟩ := happlied
          exact ⟨hw, hinfo⟩
        | some b =>
          rw [Applied, hbake] at happlied
          obtain ⟨rfl, rfl⟩ := happlied
          simp only [List.map_cons, List.foldl_cons]
          rw [hw, List.append_assoc, List.singleton_append]
          exact ⟨rfl, hinfo⟩

end Steps

/-! ## What a bake is -/

section Facts
variable {o : Oven} {settings : StartSettings} {repr : Repr}

/-- A destination that is staged has a bare name, and a volume of the author's. -/
theorem stagedName_volume {info : GreffonInfo} {destination : Entries} {staged : String × Yaml}
    (h : stagedName repr info destination = .ok staged) : isBareName staged.1 = true ∧
      staged.2 ≠ .str nginxService ∧ Dict.has info.volumes staged.2 = true := by
  unfold stagedName at h
  dsimp only at h
  split at h
  · split_ifs at h with hbare hnginx hhash hhas
    cases h
    exact ⟨by simpa using hbare, hnginx, by simpa using hhas⟩
  · cases h

/-- A bake's file is bare, and its volume is one of the info's, not nginx's. -/
def Bake.Sound (keys : List Yaml) (b : Bake) : Prop :=
  isBareName b.name = true ∧ b.volume ≠ .str nginxService ∧
    ∃ k ∈ keys, k.sameKey b.volume = true

theorem bakeOf_sound {info : GreffonInfo} {value destination : Yaml} {b : Bake}
    (h : bakeOf o repr info value destination = some b) :
    b.Sound (info.volumes.map Prod.fst) := by
  have hsound : ∀ staged, stagedName repr info destination.entries = .ok staged →
      staged.1 = b.name → staged.2 = b.volume → b.Sound (info.volumes.map Prod.fst) := by
    rintro staged hstaged hname hvolume
    obtain ⟨hbare, hnginx, hhas⟩ := stagedName_volume hstaged
    rw [hname] at hbare
    rw [hvolume] at hnginx hhas
    obtain ⟨e, he, hkey⟩ := List.any_eq_true.mp hhas
    exact ⟨hbare, hnginx, e.1, List.mem_map_of_mem he, hkey⟩
  unfold bakeOf at h
  split at h
  · rename_i staged _ hstaged
    obtain ⟨v, -, rfl⟩ := Option.map_eq_some_iff.mp h
    exact hsound _ hstaged rfl rfl
  · rename_i staged _ hstaged
    obtain ⟨v, -, rfl⟩ := Option.map_eq_some_iff.mp h
    exact hsound _ hstaged rfl rfl
  · cases h

theorem keys_listBake (info : GreffonInfo) (b : Bake) :
    (listBake settings info b).volumes.map Prod.fst = info.volumes.map Prod.fst := by
  rw [listBake, appendFile, List.map_map]
  refine List.map_congr_left fun e _ => ?_
  simp only [Function.comp_apply]
  split <;> rfl

theorem bakesOf_sound (info : GreffonInfo) (destinations : List (Except Exn (Yaml × Yaml))) :
    ∀ b ∈ bakesOf o settings repr info destinations, b.Sound (info.volumes.map Prod.fst) := by
  induction destinations generalizing info with
  | nil =>
    rintro b ⟨⟩
  | cons x rest ih =>
    cases x with
    | error e => rintro b ⟨⟩
    | ok p =>
      obtain ⟨value, destination⟩ := p
      rw [bakesOf]
      cases hbake : bakeOf o repr info value destination with
      | none => exact ih info
      | some b₀ =>
        intro b hb
        rcases List.mem_cons.mp hb with rfl | hb
        · exact bakeOf_sound hbake
        · have hrest := ih _ b hb
          rwa [keys_listBake] at hrest

/-! ## The files of a volume -/

/-- A baked file, as it is listed. -/
def bakeFile (settings : StartSettings) (id : String) (b : Bake) : VolumeFile :=
  .path (stagedPath settings.greffonPath id b.name) b.name

/-- An entry of the volumes with its baked files. -/
def withBakes (settings : StartSettings) (id : String) (bakes : List Bake)
    (e : Yaml × VolumeInfo) : Yaml × VolumeInfo :=
  (e.1, { e.2 with files := e.2.files ++
    (bakes.filter fun b => e.1.sameKey b.volume).map (bakeFile settings id) })

/-- **Each volume has its own bakes**, in order, behind the files it had. -/
theorem volumes_listed (bakes : List Bake) (info : GreffonInfo) :
    (bakes.foldl (listBake settings) info).volumes =
      info.volumes.map (withBakes settings info.id bakes) := by
  induction bakes generalizing info with
  | nil =>
    rw [List.foldl_nil]
    exact (List.map_id'' (fun e => by simp [withBakes]) info.volumes).symm
  | cons b rest ih =>
    have hid : (listBake settings info b).id = info.id := rfl
    rw [List.foldl_cons, ih, hid, listBake, appendFile, List.map_map]
    refine List.map_congr_left fun e _ => ?_
    by_cases hkey : e.1.sameKey b.volume = true
    · simp [withBakes, hkey, bakeFile]
    · simp [withBakes, hkey]

end Facts

/-- The volumes of an info that nothing has been baked into: nginx's first, and the author's
without files. -/
def Unbaked (volumes : Dict VolumeInfo) : Prop :=
  ∃ nginx rest, volumes = (.str nginxService, nginx) :: rest ∧
    ∀ e ∈ rest, e.1 ≠ .str nginxService ∧ e.2.files = []

theorem Unbaked.set {volumes : Dict VolumeInfo} (h : Unbaked volumes) {k : Yaml} {v : VolumeInfo}
    (hv : k = .str nginxService ∨ v.files = []) : Unbaked (Dict.set volumes k v) := by
  obtain ⟨nginx, rest, rfl, hrest⟩ := h
  by_cases hk : k = .str nginxService
  · subst hk
    refine ⟨v, rest, ?_, hrest⟩
    have hhead : Dict.has ((Yaml.str nginxService, nginx) :: rest) (.str nginxService) = true :=
      Dict.has_str_iff.mpr ⟨nginx, List.mem_cons_self⟩
    rw [Dict.set, if_pos hhead, List.map_cons, if_pos ((Yaml.sameKey_str _ _).mpr rfl)]
    congr 1
    refine (List.map_congr_left fun e he => ?_).trans (List.map_id rest)
    rw [if_neg fun hkey => (hrest e he).1 ((Yaml.sameKey_str _ _).mp hkey)]
    rfl
  · have hfiles := hv.resolve_left hk
    have hother : ¬ (Yaml.str nginxService).sameKey k = true :=
      fun hkey => hk (Yaml.sameKey_of_str _ _ hkey)
    rw [Dict.set]
    split
    · rw [List.map_cons, if_neg hother]
      refine ⟨nginx, _, rfl, fun e he => ?_⟩
      obtain ⟨e', he', rfl⟩ := List.mem_map.mp he
      split
      · exact ⟨(hrest e' he').1, hfiles⟩
      · exact hrest e' he'
    · refine ⟨nginx, rest ++ [(k, v)], rfl, fun e he => ?_⟩
      rcases List.mem_append.mp he with he | he
      · exact hrest e he
      · rw [List.mem_singleton.mp he]
        exact ⟨hk, hfiles⟩

theorem unbaked_kept : Compose.KeptByCollection Unbaked where
  fresh hv hfiles := hv.set (.inr hfiles)
  mounted := by
    intro volumes source v v' hv hget hfiles
    refine hv.set ?_
    obtain ⟨nginx, others, rfl, hothers⟩ := hv
    rcases List.mem_cons.mp (Dict.mem_of_get? hget) with heq | hmem
    · exact .inl (Prod.mk.inj heq).1
    · exact .inr (hfiles.trans (hothers _ hmem).2)

/-- **Nothing is baked** into what a compose declares. -/
theorem unbaked_of_created {greffonPath : String} {compose : Yaml} {greffon : Greffon}
    {strict : Bool} {extraKeys : Option String} {info : GreffonInfo} {normalized : Entries}
    (h : createGreffonInfo greffonPath compose greffon strict extraKeys = .ok (info, normalized)) :
    Unbaked info.volumes :=
  (unbaked_kept.created ⟨_, [], rfl, fun e he => by cases he⟩ h).1

/-! ## What the copies leave -/

theorem sameKey_self {k v : Yaml} (h : k.sameKey v = true) : v.sameKey v = true := by
  cases v <;> cases k <;> simp_all [Yaml.sameKey, Yaml.number?]

theorem lastWhere_append {α : Type} (p : α → Bool) (a b : List α) :
    lastWhere p (a ++ b) = (lastWhere p b).or (lastWhere p a) := by
  rw [lastWhere, List.reverse_append, List.find?_append]
  rfl

theorem lastWhere_map {α β : Type} (p : β → Bool) (f : α → β) (l : List α) :
    lastWhere p (l.map f) = (lastWhere (fun a => p (f a)) l).map f := by
  rw [lastWhere, ← List.map_reverse, List.find?_map]
  rfl

theorem lastWhere_isSome {α : Type} {p : α → Bool} {l : List α} {a : α} (ha : a ∈ l)
    (hp : p a = true) : ∃ x, lastWhere p l = some x ∧ x ∈ l ∧ p x = true := by
  have hsome : (lastWhere p l).isSome = true := by
    rw [lastWhere, List.find?_isSome]
    exact ⟨a, List.mem_reverse.mpr ha, hp⟩
  obtain ⟨x, hx⟩ := Option.isSome_iff_exists.mp hsome
  exact ⟨x, hx, List.mem_reverse.mp (List.mem_of_find?_eq_some hx), List.find?_some hx⟩

/-- The last bake under a name, whichever its volume. -/
def lastNamed (bakes : List Bake) (name : String) : Option Bake :=
  lastWhere (fun b => b.name == name) bakes

/-- The last bake of a file. -/
def lastBake (bakes : List Bake) (volume : Yaml) (name : String) : Option Bake :=
  lastWhere (fun b => b.volume.sameKey volume && b.name == name) bakes

/-- The docker volume of a key. -/
def dockerVolume (volumes : Dict VolumeInfo) (volume : Yaml) : Option String :=
  (volumes.find? fun e => e.1.sameKey volume).map fun e => e.2.value

/-- Two names are staged apart. -/
theorem stagedPath_inj {settings : StartSettings} {id a b : String}
    (h : stagedPath settings.greffonPath id a = stagedPath settings.greffonPath id b) : a = b := by
  unfold stagedPath at h
  generalize joinPath (joinPath settings.greffonPath id) "config" = base at h
  unfold joinPath at h
  split_ifs at h
  · exact h
  · exact (String.append_right_inj _).mp h
  · exact (String.append_right_inj _).mp h

section Copies
variable {dumps : Yaml → String} {settings : StartSettings} {id : String} {bakes : List Bake}
  {before : String → List UInt8}

/-- **A staged file has the last content of its name.** -/
theorem stagedDisk_bakes {b last : Bake} (hlast : lastNamed bakes b.name = some last) :
    stagedDisk dumps settings id (bakes.map fun b => (b.name, b.data)) before
      (stagedPath settings.greffonPath id b.name) = stagedBytes dumps last.data := by
  have hsame : (fun e : String × StagedData => stagedPath settings.greffonPath id e.1 ==
      stagedPath settings.greffonPath id b.name) = fun e => e.1 == b.name := by
    funext e
    rw [Bool.eq_iff_iff, beq_iff_eq, beq_iff_eq]
    exact ⟨stagedPath_inj, fun h => by rw [h]⟩
  have hfound : lastWhere (fun e : String × StagedData => e.1 == b.name)
      (bakes.map fun b => (b.name, b.data)) = some (last.name, last.data) := by
    rw [lastWhere_map]
    exact congrArg (Option.map fun b : Bake => (b.name, b.data)) hlast
  rw [stagedDisk, hsame, hfound]

/-- What is copied for an entry without files of its own. -/
theorem mem_copies {disk : String → List UInt8} {e : Yaml × VolumeInfo} (hfiles : e.2.files = [])
    {c : (String × String) × List UInt8} :
    c ∈ dockerCopyFileIntoVolume disk (withBakes settings id bakes e).2 ↔
      ∃ b ∈ bakes, e.1.sameKey b.volume = true ∧
        c = ((e.2.value, b.name), disk (stagedPath settings.greffonPath id b.name)) := by
  simp only [dockerCopyFileIntoVolume, withBakes, hfiles, List.nil_append, List.map_map,
    List.mem_map, List.mem_filter, Function.comp_apply, bakeFile]
  constructor
  · rintro ⟨b, ⟨hb, hkey⟩, rfl⟩
    exact ⟨b, hb, hkey, rfl⟩
  · rintro ⟨b, hb, hkey, rfl⟩
    exact ⟨b, ⟨hb, hkey⟩, rfl⟩

/-- **A baked file holds the last content of its name**, whichever volume that was for. -/
theorem held_copied {info : GreffonInfo} (hunbaked : Unbaked info.volumes)
    (hsound : ∀ b ∈ bakes, b.Sound (info.volumes.map Prod.fst)) {b last : Bake} (hb : b ∈ bakes)
    (hlast : lastNamed bakes b.name = some last) :
    ∃ value, dockerVolume (bakes.foldl (listBake settings) info).volumes b.volume = some value ∧
      held (createVolumesThenCopyFiles
          (stagedDisk dumps settings info.id (bakes.map fun b => (b.name, b.data)) before)
          (bakes.foldl (listBake settings) info)) (value, b.name) =
        some (stagedBytes dumps last.data) := by
  obtain ⟨nginx, rest, hvolumes, hrest⟩ := hunbaked
  obtain ⟨-, hnginx, k, hk, hkey⟩ := hsound b hb
  have hhead : (Yaml.str nginxService).sameKey b.volume = false :=
    Bool.eq_false_iff.mpr fun h => hnginx (Yaml.sameKey_of_str _ _ h)
  -- The volume is one of the compose, and not that of the sidecar, which comes first.
  obtain ⟨e, he, hekey⟩ : ∃ e ∈ rest, e.1.sameKey b.volume = true := by
    rw [hvolumes, List.map_cons] at hk
    rcases List.mem_cons.mp hk with rfl | hk
    · rw [hhead] at hkey
      cases hkey
    · obtain ⟨e, he, rfl⟩ := List.mem_map.mp hk
      exact ⟨e, he, hkey⟩
  obtain ⟨found, hfound⟩ := Option.isSome_iff_exists.mp
    (List.find?_isSome.mpr ⟨e, he, hekey⟩ : (rest.find? fun e => e.1.sameKey b.volume).isSome)
  have hmem := List.mem_of_find?_eq_some hfound
  have hfoundkey : found.1.sameKey b.volume = true := by
    simpa using List.find?_some hfound
  have hdocker : dockerVolume (bakes.foldl (listBake settings) info).volumes b.volume =
      some found.2.value := by
    have hmapped : (rest.map (withBakes settings info.id bakes)).find?
        (fun e => e.1.sameKey b.volume) = some (withBakes settings info.id bakes found) := by
      rw [List.find?_map]
      exact congrArg (Option.map (withBakes settings info.id bakes)) hfound
    rw [volumes_listed, hvolumes, List.map_cons, dockerVolume, List.find?_cons_of_neg, hmapped]
    · rfl
    · rw [withBakes, hhead]
      decide
  refine ⟨found.2.value, hdocker, ?_⟩
  generalize hdisk : stagedDisk dumps settings info.id (bakes.map fun b => (b.name, b.data))
    before = disk
  have hcopies : createVolumesThenCopyFiles disk (bakes.foldl (listBake settings) info) =
      dockerCopyFileIntoVolume disk
        (withBakes settings info.id bakes (.str nginxService, nginx)).2 ++
      (rest.map (withBakes settings info.id bakes)).flatMap
        fun v => dockerCopyFileIntoVolume disk v.2 := by
    rw [createVolumesThenCopyFiles, volumes_listed, hvolumes, List.map_cons, List.flatMap_cons]
  -- A file of that name is copied into it; the last of the copies is what it holds.
  have hcopied : ((found.2.value, b.name), disk (stagedPath settings.greffonPath info.id b.name)) ∈
      (rest.map (withBakes settings info.id bakes)).flatMap
        fun v => dockerCopyFileIntoVolume disk v.2 :=
    List.mem_flatMap.mpr ⟨_, List.mem_map_of_mem hmem,
      (mem_copies (hrest found hmem).2).mpr ⟨b, hb, hfoundkey, rfl⟩⟩
  obtain ⟨c, hc, hcmem, hckey⟩ := lastWhere_isSome
    (p := fun c : (String × String) × List UInt8 => c.1 == (found.2.value, b.name)) hcopied
    (by simp)
  obtain ⟨v, hv, hcv⟩ := List.mem_flatMap.mp hcmem
  obtain ⟨e', he', rfl⟩ := List.mem_map.mp hv
  obtain ⟨b', -, -, rfl⟩ := (mem_copies (hrest e' he').2).mp hcv
  have hname : b'.name = b.name := (Prod.mk.inj (eq_of_beq hckey)).2
  rw [held, hcopies, lastWhere_append, hc, Option.some_or, Option.map_some, hname, ← hdisk,
    stagedDisk_bakes hlast]

end Copies

/-! ## The law -/

/-- **When baked files reach their own volume.**  For every list of configurations that is
applied: each file of a volume that a destination targets holds what the last configuration for
it baked, if and only if for each of them the last bake under the same name, whichever its
volume, has the same content. -/
theorem baked_files_iff {o : Oven} {settings : StartSettings} {repr : Repr}
    {dumps : Yaml → String} {compose : Yaml} {greffon : Greffon} {strict : Bool}
    {extraKeys : Option String} {created info info' : GreffonInfo}
    {normalized template template' : Entries} {journal : Journal} {before : String → List UInt8}
    (hcreated : createGreffonInfo settings.greffonPath compose greffon strict extraKeys =
      .ok (created, normalized))
    (hvolumes : info.volumes = created.volumes)
    (run : Run (stagingMachine o) [] (applyConfiguration settings repr info template) journal
      (.pure (.ok (.ok (info', template'))))) :
    (∀ b ∈ bakesOf o settings repr info (destinationsOf info.configurations), ∃ value last,
      dockerVolume info'.volumes b.volume = some value ∧
      lastBake (bakesOf o settings repr info (destinationsOf info.configurations)) b.volume b.name =
        some last ∧
      held (createVolumesThenCopyFiles (stagedDisk dumps settings info.id journal before) info')
        (value, b.name) = some (stagedBytes dumps last.data)) ↔
    ∀ b ∈ bakesOf o settings repr info (destinationsOf info.configurations),
      (lastNamed (bakesOf o settings repr info (destinationsOf info.configurations)) b.name).map
          (fun b => stagedBytes dumps b.data) =
        (lastBake (bakesOf o settings repr info (destinationsOf info.configurations)) b.volume
          b.name).map fun b => stagedBytes dumps b.data := by
  have hstages : Action.Yields (stagingMachine o) _ _ _ := applyDestinations_stages settings repr []
    (setEnvironment repr) info template (destinationsOf info.configurations)
  obtain ⟨hjournal, hinfo⟩ := Action.Yields.at_return hstages run _ rfl
  have hunbaked : Unbaked info.volumes := hvolumes ▸ unbaked_of_created hcreated
  have hsound : ∀ b ∈ bakesOf o settings repr info (destinationsOf info.configurations),
      b.Sound (info.volumes.map Prod.fst) := bakesOf_sound info _
  generalize bakesOf o settings repr info (destinationsOf info.configurations) = bakes at *
  rw [List.nil_append] at hjournal
  subst hjournal hinfo
  refine forall_congr' fun b => forall_congr' fun hb => ?_
  -- Two last bakes: of the name, which is what is staged and copied, and of the name in the
  -- volume, which is what the destination asked for.
  obtain ⟨named, hnamed, -, -⟩ :=
    lastWhere_isSome (p := fun b' : Bake => b'.name == b.name) hb (beq_self_eq_true b.name)
  obtain ⟨-, -, k, -, hkey⟩ := hsound b hb
  obtain ⟨last, hlast, -, -⟩ :=
    lastWhere_isSome (p := fun b' : Bake => b'.volume.sameKey b.volume && b'.name == b.name) hb
      (by rw [sameKey_self hkey, beq_self_eq_true, Bool.and_self])
  obtain ⟨value, hvalue, hheld⟩ :
      ∃ value, dockerVolume (bakes.foldl (listBake settings) info).volumes b.volume = some value ∧
        held (createVolumesThenCopyFiles
            (stagedDisk dumps settings info.id (bakes.map fun b => (b.name, b.data)) before)
            (bakes.foldl (listBake settings) info)) (value, b.name) =
          some (stagedBytes dumps named.data) := held_copied hunbaked hsound hb hnamed
  have hnamed' : lastNamed bakes b.name = some named := hnamed
  have hlast' : lastBake bakes b.volume b.name = some last := hlast
  rw [hnamed', hlast', Option.map_some, Option.map_some, Option.some_inj]
  constructor
  · rintro ⟨value', last', hvalue', hlast'', hheld'⟩
    rw [hvalue] at hvalue'
    cases hvalue'
    cases hlast''
    rw [hheld] at hheld'
    exact Option.some.inj hheld'
  · intro hsame
    exact ⟨value, last, hvalue, rfl, hheld.trans (congrArg some hsame)⟩

/-- An oven whose renderings say nothing. -/
def plainOven : Oven where
  renderFile _ _ := .ok (.ok "")
  renderJson _ value := .ok value
  dataUri _ := .ok (.text "")

/-- A quiet host with a staging directory. -/
def bakery (w : Journal) (c : ControlCall StartCall) :
    Raises (ControlCall.Answer StartCall.Answer) ControlError c × Journal :=
  ((quietHost none c).1,
    match c with
    | .handler (.writeStaged name data) => w ++ [(name, data)]
    | _ => w)

theorem bakery_serves (w : Journal) (c : ControlCall StartCall) :
    (stagingMachine plainOven).serve w c (bakery w c).1 (bakery w c).2 := by
  cases c with
  | handler c =>
    cases c with
    | writeStaged name data => exact fun _ => rfl
    | renderFile _ _ | renderJson _ _ | dataUri _ => exact ⟨rfl, rfl⟩
    | _ => rfl
  | _ => rfl

/-- A compose of one service with two volumes. -/
def vaultCompose : Yaml :=
  .dict [
    (.str "services", .dict [(.str "vault", .dict [(.str "image", .str "vault"),
      (.str "volumes", .list [.str "left:/left", .str "right:/right"])])]),
    (.str "volumes", .dict [(.str "left", .null), (.str "right", .null)])]

/-- A configuration that bakes a text into a file of a volume. -/
def bakes (text volume name : String) : Configuration where
  value := .str text
  destinations := .list [.dict [(.str "type", .str "json"), (.str "name", .str name),
    (.str "volume", .str volume)]]

/-- What is known of an instance of it, before the configurations are applied. -/
def vaultInfo (configurations : List Configuration) : GreffonInfo where
  ports := []
  volumes := [
    (.str nginxService, Compose.nginxVolume "/data" { id := "a" }),
    (.str "left", ⟨.str "left", "a_left", [("vault", ⟨"/left", none⟩)], []⟩),
    (.str "right", ⟨.str "right", "a_right", [("vault", ⟨"/right", none⟩)], []⟩)]
  networks := []
  id := "a"
  internalNetwork := "a_greffon_internal_network"
  services := []
  configurations := configurations
  integrations := []

theorem vault_collected (configurations : List Configuration) : ∃ created normalized,
    createGreffonInfo ({} : StartSettings).greffonPath vaultCompose { id := "a" } false none =
      .ok (created, normalized) ∧ (vaultInfo configurations).volumes = created.volumes :=
  ⟨_, _, rfl, rfl⟩

/-- `json.dumps`, of a text that needs no escape. -/
def plainDumps : Yaml → String
  | .str text => "\"" ++ text ++ "\""
  | _ => "null"

/-- Two files, each of its own name. -/
def apart : List Configuration := [bakes "one" "left" "pw", bakes "two" "right" "key"]

/-- Two files of one name. -/
def together : List Configuration := [bakes "one" "left" "pw", bakes "two" "right" "pw"]

/-- Files of two names reach their volumes. -/
theorem baked_files_apart : ∃ journal info' template',
    Run (stagingMachine plainOven) []
      (applyConfiguration {} plainDumps (vaultInfo apart) []) journal
      (.pure (.ok (.ok (info', template')))) ∧
    ∀ b ∈ bakesOf plainOven {} plainDumps (vaultInfo apart) (destinationsOf apart),
      ∃ value last, dockerVolume info'.volumes b.volume = some value ∧
        lastBake (bakesOf plainOven {} plainDumps (vaultInfo apart) (destinationsOf apart))
          b.volume b.name = some last ∧
        held (createVolumesThenCopyFiles
          (stagedDisk plainDumps {} (vaultInfo apart).id journal fun _ => []) info')
          (value, b.name) = some (stagedBytes plainDumps last.data) := by
  obtain ⟨created, normalized, hcreated, hvolumes⟩ := vault_collected apart
  have hrun : ∃ journal info' template', Run (stagingMachine plainOven) []
      (applyConfiguration {} plainDumps (vaultInfo apart) []) journal
      (.pure (.ok (.ok (info', template')))) :=
    ⟨_, _, _, Prog.run_evalFor (h := bakery) bakery_serves 8 _ _⟩
  obtain ⟨journal, info', template', run⟩ := hrun
  have hbakes : bakesOf plainOven {} plainDumps (vaultInfo apart) (destinationsOf apart) =
      [⟨.str "left", "pw", .json (.str "one")⟩, ⟨.str "right", "key", .json (.str "two")⟩] := rfl
  refine ⟨journal, info', template', run, (baked_files_iff hcreated hvolumes run).mpr ?_⟩
  have hconf : (vaultInfo apart).configurations = apart := rfl
  rw [hconf, hbakes]
  decide

/-- **Of two files of one name, the first gets the second's content.** -/
theorem name_shared_across_volumes : ¬ ∀ (o : Oven) (settings : StartSettings) (repr : Repr)
    (dumps : Yaml → String) (compose : Yaml) (greffon : Greffon) (strict : Bool)
    (extraKeys : Option String) (created info info' : GreffonInfo)
    (normalized template template' : Entries) (journal : Journal) (before : String → List UInt8),
    createGreffonInfo settings.greffonPath compose greffon strict extraKeys =
      .ok (created, normalized) → info.volumes = created.volumes →
    Run (stagingMachine o) [] (applyConfiguration settings repr info template) journal
      (.pure (.ok (.ok (info', template')))) →
    ∀ b ∈ bakesOf o settings repr info (destinationsOf info.configurations), ∃ value last,
      dockerVolume info'.volumes b.volume = some value ∧
      lastBake (bakesOf o settings repr info (destinationsOf info.configurations)) b.volume b.name =
        some last ∧
      held (createVolumesThenCopyFiles (stagedDisk dumps settings info.id journal before) info')
        (value, b.name) = some (stagedBytes dumps last.data) := by
  intro hall
  obtain ⟨created, normalized, hcreated, hvolumes⟩ := vault_collected together
  obtain ⟨value, last, hvalue, hlast, hheld⟩ := hall plainOven {} plainDumps plainDumps
    vaultCompose { id := "a" } false none created (vaultInfo together) _ normalized [] _ _
    (fun _ => []) hcreated hvolumes (Prog.run_evalFor (h := bakery) bakery_serves 8 _ _)
    ⟨.str "left", "pw", .json (.str "one")⟩ List.mem_cons_self
  cases hvalue
  cases hlast
  exact absurd (Option.some.inj hheld) (by decide)

end Greffer.Instance

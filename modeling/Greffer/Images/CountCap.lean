import Greffer.Images.Admission

/-! # The cap on the number of images

The operator may cap how many images the node holds.  The preflight counts them once, and takes a
slot for every reference that is not there before its pull.  **What a pull adds is another matter**: a
reference that is there may be moved to a new image, and one that cannot be looked up may bring one.
For these no slot is asked for, and an image that came so is not counted later.

The cap is kept if and only if those pulls find the node with room to spare
(`count_within_cap_iff`).
-/
namespace Greffer.Images
open Compose (Entries)

/-- Whether no slot is asked for the image that a pull brings: the reference is there, or could not
be looked up, or the count has missed an image before (`late`). -/
def Unreserved (late : Bool) (image : String) (t : Turn) (s : Store) : Prop :=
  late = true ∨ t.probes = false ∨ (s.refs image).isSome = true

/-- **The condition on the node's answers**: a pull without a slot that brings a new image finds fewer
images than the cap. -/
def RoomForMoved (cap : Nat) : Bool → List Step → Store → Prop
  | _, [], _ => True
  | late, step :: rest, s =>
    match imageOf step.service, step.turn.pulls with
    | some image, .ok pulled =>
      (pulled.id ∉ s.images → Unreserved late image step.turn s → s.images.card < cap) ∧
        RoomForMoved cap (late || (!step.turn.probes && decide (pulled.id ∉ s.images))) rest
          (s.pull image pulled.id)
    | _, _ => True

section Run
variable {st : Settings} {count cap used : Nat} {steps : List Step} {s s' : Store}
  {digests : List (String × String)}

theorem card_pull (s : Store) (image id : String) :
    (s.pull image id).images.card = if id ∈ s.images then s.images.card else s.images.card + 1 := by
  rw [Store.images_pull]
  split
  case isTrue h => rw [Finset.insert_eq_of_mem h]
  case isFalse h => rw [Finset.card_insert_of_notMem h]

theorem resolveImages_cons {settings : Option Settings} {slots : Option Slots} {step : Step}
    {rest : List Step}
    (h : resolveImages settings slots used (step :: rest) s = (s', .ok digests)) :
    ∃ digest used' middle digests',
      resolveImage settings slots used step.name step.service step.turn s =
        (middle, .ok (digest, used')) ∧
      resolveImages settings slots used' rest middle = (s', .ok digests') := by
  rw [resolveImages] at h
  split at h
  case h_1 => cases h
  case h_2 middle digest used' hone =>
    split at h
    case h_1 => cases h
    case h_2 last digests' hrest =>
      cases h
      exact ⟨digest, used', middle, digests', hone, hrest⟩

/-- **Images are only added** by a run that succeeds. -/
theorem card_le_of_ok {settings : Option Settings} {slots : Option Slots}
    (h : resolveImages settings slots used steps s = (s', .ok digests)) :
    s.images.card ≤ s'.images.card := by
  induction steps generalizing used s digests with
  | nil =>
    cases h
    exact Nat.le_refl _
  | cons step rest ih =>
    obtain ⟨digest, used', middle, digests', hone, hrest⟩ := resolveImages_cons h
    obtain ⟨image, pulled, -, -, rfl, -, -⟩ := resolveImage_ok hone
    refine Nat.le_trans ?_ (ih hrest)
    rw [card_pull]
    split <;> omega

/-- **One service keeps the count**: within the cap, and known to the slots as long as no image
was missed. -/
theorem count_step {image : String} {pulled : Image} {t : Turn} {name : String} {late : Bool}
    (hcount : late = false → s.images.card ≤ count + used) (hcap : s.images.card ≤ cap)
    (hslot : slotRefusal (some ⟨count, cap⟩) used name image (probed t s image) (!t.probes) = none)
    (hroom : pulled.id ∉ s.images → Unreserved late image t s → s.images.card < cap) :
    ((late || (!t.probes && decide (pulled.id ∉ s.images))) = false →
        (s.pull image pulled.id).images.card ≤ count +
          if introduced (probed t s image) (!t.probes) pulled.id then used + 1 else used) ∧
      (s.pull image pulled.id).images.card ≤ cap := by
  have hnamed : (pulled.id != "") = true := bne_iff_ne.mpr pulled.named
  rw [card_pull]
  by_cases hnew : pulled.id ∈ s.images
  · rw [if_pos hnew]
    refine ⟨fun hlate => ?_, hcap⟩
    have hle := hcount (Bool.or_eq_false_iff.mp hlate).1
    split <;> omega
  · rw [if_neg hnew]
    constructor
    · intro hlate
      obtain ⟨hlate, hprobes⟩ := Bool.or_eq_false_iff.mp hlate
      have hle := hcount hlate
      have hprobed : t.probes = true := by
        rw [decide_eq_true hnew, Bool.and_true, Bool.not_eq_false'] at hprobes
        exact hprobes
      -- the reference did not point to the image, which was not there
      have hmoved : (s.refs image != some pulled.id) = true :=
        bne_iff_ne.mpr fun href => hnew (s.known _ _ href)
      have hintroduced : introduced (probed t s image) (!t.probes) pulled.id = true := by
        rw [introduced, probed, hprobed, if_pos rfl, hnamed, hmoved]
        rfl
      rw [if_pos hintroduced]
      omega
    · by_cases hun : Unreserved late image t s
      · exact hroom hnew hun
      · -- a slot was asked for, of a count that has missed nothing
        unfold Unreserved at hun
        rw [not_or, not_or, Bool.not_eq_true, Bool.not_eq_false, Bool.not_eq_true,
          Option.isSome_eq_false_iff, Option.isNone_iff_eq_none] at hun
        obtain ⟨hlate, hprobed, habsent⟩ := hun
        have hle := hcount hlate
        have hfree : ¬ cap ≤ count + used := by
          intro hfull
          have hprobe : probed t s image = none := by rw [probed, hprobed, if_pos rfl, habsent]
          rw [slotRefusal, hprobe, hprobed] at hslot
          rw [if_pos ⟨rfl, rfl, hfull⟩] at hslot
          cases hslot
        omega

/-- **A run keeps the cap**, if the pulls without a slot find room. -/
theorem within_cap_of_room {late : Bool} (hcount : late = false → s.images.card ≤ count + used)
    (hcap : s.images.card ≤ cap)
    (h : resolveImages (some st) (some ⟨count, cap⟩) used steps s = (s', .ok digests))
    (hroom : RoomForMoved cap late steps s) : s'.images.card ≤ cap := by
  induction steps generalizing used s digests late with
  | nil =>
    cases h
    exact hcap
  | cons step rest ih =>
    obtain ⟨digest, used', middle, digests', hone, hrest⟩ := resolveImages_cons h
    obtain ⟨image, pulled, himage, hpulled, rfl, hslot, hused⟩ := resolveImage_ok hone
    rw [RoomForMoved, himage, hpulled] at hroom
    obtain ⟨hcount', hcap'⟩ := count_step hcount hcap hslot hroom.1
    rw [← hused rfl] at hcount'
    exact ih hcount' hcap' hrest hroom.2

/-- A run within the cap had room for all that it brought. -/
theorem room_of_within_cap {late : Bool} {settings : Option Settings} {slots : Option Slots}
    (h : resolveImages settings slots used steps s = (s', .ok digests))
    (hcap : s'.images.card ≤ cap) : RoomForMoved cap late steps s := by
  induction steps generalizing used s digests late with
  | nil => trivial
  | cons step rest ih =>
    obtain ⟨digest, used', middle, digests', hone, hrest⟩ := resolveImages_cons h
    obtain ⟨image, pulled, himage, hpulled, rfl, -, -⟩ := resolveImage_ok hone
    rw [RoomForMoved, himage, hpulled]
    refine ⟨fun hnew _ => ?_, ih hrest⟩
    have hle := card_le_of_ok hrest
    rw [card_pull, if_neg hnew] at hle
    omega

/-- **When the cap is kept** by a resolution that succeeds. -/
theorem count_within_cap_iff (hactive : st.imageCountMax ≠ 0)
    (h : resolveImageDigests (some st) true steps s = (s', .ok digests)) :
    (s'.images.card ≤ st.imageCountMax ∨ s'.images.card ≤ s.images.card) ↔
      RoomForMoved st.imageCountMax false steps s := by
  rw [resolveImageDigests, takeSlots, if_pos ⟨hactive, rfl⟩] at h
  split at h
  case h_1 => cases h
  case h_2 slots hslots =>
    split at hslots
    case isTrue => cases hslots
    case isFalse hfree =>
      cases hslots
      constructor
      · intro hkept
        refine room_of_within_cap h ?_
        omega
      · intro hroom
        exact .inl (within_cap_of_room (fun _ => by omega) (by omega) h hroom)

end Run

/-! ## A node -/

/-- An image without a size, that has a digest. -/
def imageNamed (id : String) (named : id ≠ "") : Image where
  id := id
  size := 0
  repoDigests := ["app@" ++ id]
  named := named

/-- A service that refers to an image. -/
def serviceOf (image : String) : Entries := [(.str "image", .str image)]

/-- A node that holds one image, with two references to it. -/
def oneImage : Store where
  images := {"sha256:a"}
  refs := fun ref => if ref = "app:1" ∨ ref = "app:2" then some "sha256:a" else none
  known := by
    intro ref id h
    split at h
    · rw [← Option.some.inj h]
      exact Finset.mem_singleton_self _
    · cases h

/-- A cap of two images, and no other. -/
def twoImages : Settings where
  imageMaxBytes := 0
  imageMinFreeBytes := 0
  imageCountMax := 2

/-- A service whose pull brings another image. -/
def bringing (name image id : String) (named : id ≠ "") : Step where
  name := name
  service := serviceOf image
  turn := { pulls := .ok (imageNamed id named) }

/-- One new reference fits. -/
theorem count_within_cap_one : ∃ s' digests,
    resolveImageDigests (some twoImages) true [bringing "web" "web:1" "sha256:b" (by decide)]
      oneImage = (s', .ok digests) ∧
    ((s'.images.card ≤ twoImages.imageCountMax ∨ s'.images.card ≤ oneImage.images.card) ↔
      RoomForMoved twoImages.imageCountMax false
        [bringing "web" "web:1" "sha256:b" (by decide)] oneImage) :=
  ⟨_, _, rfl, count_within_cap_iff (by decide) rfl⟩

/-- **Two references that are moved** take a node from one image to three. -/
theorem moved_over_the_cap : ∃ s' digests,
    resolveImageDigests (some twoImages) true [bringing "web" "app:1" "sha256:b" (by decide),
      bringing "db" "app:2" "sha256:c" (by decide)] oneImage = (s', .ok digests) ∧
    ¬ (s'.images.card ≤ twoImages.imageCountMax ∨ s'.images.card ≤ oneImage.images.card) :=
  ⟨_, _, rfl, by decide⟩

end Greffer.Images

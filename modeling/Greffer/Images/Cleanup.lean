import Greffer.Images.CountCap

/-! # The images that are left behind

A refused pull must not leave what it fetched, and an image that was there before may be another
instance's.  The preflight takes an image for its own if the reference pointed elsewhere before the
pull.  **That is a fact about the reference, and the removal is of the image**: one that was on the
node under another name, or under none, is removed all the same.  And only the admission cleans up;
an image that is refused for want of a digest stays.

The node is left alone if and only if the one refusal that ends a run is clean
(`leaves_node_iff`).
-/
namespace Greffer.Images
open Compose (Entries)

/-- The reference that is refused: what the node held before its pull, the slots that were used, and
the service. -/
def refusedAt (settings : Option Settings) (slots : Option Slots) :
    Nat → List Step → Store → Option (Store × Nat × Step)
  | _, [], _ => none
  | used, step :: rest, s =>
    match resolveImage settings slots used step.name step.service step.turn s with
    | (_, .error _) => some (s, used, step)
    | (s, .ok (_, used)) => refusedAt settings slots used rest s

/-- The reference that a preflight refuses. -/
def refusedReference (settings : Option Settings) (counts : Bool) (steps : List Step) (s : Store) :
    Option (Store × Nat × Step) :=
  match takeSlots settings counts s with
  | .error _ => none
  | .ok slots => refusedAt settings slots 0 steps s

/-- The slots of a preflight, if it begins. -/
def slotsOf (settings : Option Settings) (counts : Bool) (s : Store) : Option Slots :=
  (takeSlots settings counts s).toOption.join

/-- **The preflight leaves the node alone**: what was there is there, and what a refused reference
brought is not. -/
def LeavesNode (settings : Option Settings) (counts : Bool) (steps : List Step) (s : Store) : Prop :=
  s.images ⊆ (resolveImageDigests settings counts steps s).1.images ∧
    ∀ before used step, refusedReference settings counts steps s = some (before, used, step) →
      (resolveImageDigests settings counts steps s).1.images ⊆ before.images

/-- The node's lookups and removals succeed. -/
structure Answering (t : Turn) : Prop where
  probes : t.probes = true
  inspects : t.inspectFails = none
  removes : t.removes = true

/-- **A clean refusal.**  If the pull was made: an image without a digest was there before it, and one
that the reference did not point to was not there when the preflight began. -/
def CleanRefusal (settings : Option Settings) (slots : Option Slots) (first before : Store)
    (used : Nat) (step : Step) : Prop :=
  ∀ image pulled, imageOf step.service = some image → step.turn.pulls = .ok pulled →
    spaceRefusal settings step.name image step.turn.freeBefore = none →
    slotRefusal slots used step.name image (before.refs image) false = none →
    if digestsOf pulled = [] then pulled.id ∈ before.images
    else before.refs image ≠ some pulled.id → pulled.id ∉ first.images

section Refusal
variable {settings : Option Settings} {slots : Option Slots} {used : Nat} {step : Step}
  {steps : List Step} {first s s' : Store} {row : Refusal}

theorem introduced_answering {pulled : Image} (preId : Option String) :
    introduced preId false pulled.id = true ↔ preId ≠ some pulled.id := by
  have hnamed : (pulled.id != "") = true := bne_iff_ne.mpr pulled.named
  rw [introduced, hnamed, Bool.not_false, Bool.true_and, Bool.true_and, bne_iff_ne]

/-- **The refusal that ends a run.** -/
theorem refusal_iff (hanswers : Answering step.turn) (hfirst : first.images ⊆ s.images)
    (h : resolveImage settings slots used step.name step.service step.turn s = (s', .error row)) :
    (first.images ⊆ s'.images ∧ s'.images ⊆ s.images) ↔
      CleanRefusal settings slots first s used step := by
  have hprobed (image : String) : probed step.turn s image = s.refs image := by
    rw [probed, hanswers.probes, if_pos rfl]
  rcases resolveImage_error h with ⟨rfl, hno⟩ | ⟨image, pulled, himage, hpulled, hspace, hslot, hend⟩
  · -- the pull was not made
    refine ⟨fun _ image pulled himage hpulled hspace hslot => ?_, fun _ =>
      ⟨hfirst, fun _ hid => hid⟩⟩
    refine absurd ?_ (hno image pulled himage hpulled hspace)
    rw [hprobed, hanswers.probes]
    exact hslot
  · rw [hprobed, hanswers.probes] at hslot hend
    have hclean : CleanRefusal settings slots first s used step ↔
        if digestsOf pulled = [] then pulled.id ∈ s.images
        else s.refs image ≠ some pulled.id → pulled.id ∉ first.images := by
      constructor
      · exact fun hclean => hclean image pulled himage hpulled hspace hslot
      · intro hthis image' pulled' himage' hpulled' _ _
        obtain rfl : image = image' := Option.some.inj (himage.symm.trans himage')
        obtain rfl : pulled = pulled' := Except.ok.inj (hpulled.symm.trans hpulled')
        exact hthis
    rw [hclean]
    rcases hend with ⟨hlost, rfl⟩ | ⟨-, hdigests, -, hleft⟩
    · -- refused for want of a digest, and left where it is
      have hnone : digestsOf pulled = [] := by
        rw [hanswers.inspects] at hlost
        exact hlost.resolve_left (by decide)
      rw [if_pos hnone, Store.images_pull, Finset.insert_subset_iff]
      exact ⟨fun h => h.2.1, fun h => ⟨hfirst.trans (Finset.subset_insert _ _), h,
        Finset.Subset.refl _⟩⟩
    · -- refused by the admission, which removes what the reference did not point to
      rw [if_neg hdigests]
      by_cases hmoved : s.refs image = some pulled.id
      · have hkept : ¬ introduced (s.refs image) (!true) pulled.id = true :=
          fun hintroduced => (introduced_answering _).mp hintroduced hmoved
        have hthere : pulled.id ∈ s.images := s.known _ _ hmoved
        rw [if_neg hkept] at hleft
        rw [hleft, Store.images_pull, Finset.insert_eq_of_mem hthere]
        exact ⟨fun _ hne => absurd hmoved hne, fun _ => ⟨hfirst, Finset.Subset.refl _⟩⟩
      · have hours : introduced (s.refs image) (!true) pulled.id = true :=
          (introduced_answering _).mpr hmoved
        rw [if_pos hours, removeNewlyPulled, if_pos hanswers.removes] at hleft
        rw [hleft, Store.images_remove, Store.images_pull, Finset.erase_insert_eq_erase]
        constructor
        · exact fun h _ hin => absurd (h.1 hin) (Finset.notMem_erase _ _)
        · exact fun h => ⟨Finset.subset_erase.mpr ⟨hfirst, h hmoved⟩, Finset.erase_subset _ _⟩

/-- **A run**: the services that are resolved only add images, and the refusal is the last of it. -/
theorem run_iff (hanswers : ∀ step ∈ steps, Answering step.turn) (hfirst : first.images ⊆ s.images) :
    (first.images ⊆ (resolveImages settings slots used steps s).1.images ∧
        ∀ before used' step, refusedAt settings slots used steps s = some (before, used', step) →
          (resolveImages settings slots used steps s).1.images ⊆ before.images) ↔
      ∀ before used' step, refusedAt settings slots used steps s = some (before, used', step) →
        CleanRefusal settings slots first before used' step := by
  induction steps generalizing used s with
  | nil => exact ⟨fun _ _ _ _ h => (by cases h), fun _ => ⟨hfirst, fun _ _ _ h => (by cases h)⟩⟩
  | cons step rest ih =>
    rw [List.forall_mem_cons] at hanswers
    rw [resolveImages, refusedAt]
    cases hone : resolveImage settings slots used step.name step.service step.turn s with
    | mk middle result =>
      cases result with
      | error row =>
        dsimp only
        have hrefusal := refusal_iff hanswers.1 hfirst hone
        constructor
        · rintro ⟨hkept, hclean⟩ before used' step' ⟨⟩
          exact hrefusal.mp ⟨hkept, hclean _ _ _ rfl⟩
        · intro hclean
          obtain ⟨hkept, hgone⟩ := hrefusal.mpr (hclean _ _ _ rfl)
          refine ⟨hkept, ?_⟩
          rintro before used' step' ⟨⟩
          exact hgone
      | ok resolved =>
        obtain ⟨digest, used'⟩ := resolved
        obtain ⟨image, pulled, -, -, rfl, -, -⟩ := resolveImage_ok hone
        dsimp only
        have hrest := @ih used' (s.pull image pulled.id) hanswers.2
          (hfirst.trans (Finset.subset_insert _ _))
        rw [← hrest]
        cases resolveImages settings slots used' rest (s.pull image pulled.id) with
        | mk last result => cases result <;> exact Iff.rfl

end Refusal

/-- **When the preflight leaves the node alone.** -/
theorem leaves_node_iff {settings : Option Settings} {counts : Bool} {steps : List Step} {s : Store}
    (hanswers : ∀ step ∈ steps, Answering step.turn) :
    LeavesNode settings counts steps s ↔
      ∀ before used step, refusedReference settings counts steps s = some (before, used, step) →
        CleanRefusal settings (slotsOf settings counts s) s before used step := by
  unfold LeavesNode resolveImageDigests refusedReference slotsOf
  cases takeSlots settings counts s with
  | error row =>
    exact ⟨fun _ _ _ _ h => (by cases h), fun _ =>
      ⟨Finset.Subset.refl _, fun _ _ _ h => (by cases h)⟩⟩
  | ok slots => exact run_iff hanswers (Finset.Subset.refl _)

/-- An image of a neighbour's, pulled by its digest. -/
def neighbour : Store where
  images := {"sha256:a"}
  refs := fun ref => if ref = "app@sha256:a" then some "sha256:a" else none
  known := by
    intro ref id h
    split at h
    · rw [← Option.some.inj h]
      exact Finset.mem_singleton_self _
    · cases h

/-- Nothing is large enough. -/
def tinyImages : Settings where
  imageMaxBytes := 1
  imageMinFreeBytes := 0

/-- A service whose pull brings a large image. -/
def bringingLarge (image id : String) (named : id ≠ "") : Step where
  name := "app"
  service := serviceOf image
  turn := { pulls := .ok { imageNamed id named with size := 2 } }

theorem bringingLarge_answering {image id : String} {named : id ≠ ""} :
    ∀ step ∈ [bringingLarge image id named], Answering step.turn := by
  intro step hstep
  rw [List.mem_singleton.mp hstep]
  exact ⟨rfl, rfl, rfl⟩

/-- A new image is refused and taken away. -/
theorem leaves_node_new :
    LeavesNode (some tinyImages) true [bringingLarge "web:1" "sha256:b" (by decide)] neighbour ↔
      ∀ before used step, refusedReference (some tinyImages) true
        [bringingLarge "web:1" "sha256:b" (by decide)] neighbour = some (before, used, step) →
        CleanRefusal (some tinyImages) (slotsOf (some tinyImages) true neighbour) neighbour before
          used step :=
  leaves_node_iff bringingLarge_answering

/-- **The neighbour's image is removed**: a tag of it is refused for its size. -/
theorem neighbour_removed :
    (∀ step ∈ [bringingLarge "app:1" "sha256:a" (by decide)], Answering step.turn) ∧
      ¬ LeavesNode (some tinyImages) true [bringingLarge "app:1" "sha256:a" (by decide)]
        neighbour := by
  refine ⟨bringingLarge_answering, fun h => ?_⟩
  exact absurd (h.1 (Finset.mem_singleton_self _)) (by decide)

end Greffer.Images

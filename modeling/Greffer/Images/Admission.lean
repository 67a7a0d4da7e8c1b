import Mathlib.Data.Finset.Card
import Greffer.Compose.Info

/-! # The images of a node

The preflight pulls every image that a compose refers to, and resolves it to a digest.  The pull is
also an admission: the operator caps the number of images on the node, the size of one, and the
space that is kept free, and a refused image is to be taken away again.

A `Store` is what the node holds: images by their ids, and the references that point to them.  Several
references may point to one image, and an image may have none.  A pull makes its reference point to
the image that the registry serves, and leaves the old one where it is.
-/
namespace Greffer.Images
open Compose (Yaml Entries Dict)

/-! ## The node -/

/-- The images of a node. -/
structure Store where
  images : Finset String
  /-- The image that a reference points to. -/
  refs : String → Option String
  known : ∀ ref id, refs ref = some id → id ∈ images

namespace Store

/-- A pull: the reference points to the image. -/
def pull (s : Store) (ref id : String) : Store where
  images := insert id s.images
  refs := fun r => if r = ref then some id else s.refs r
  known := by
    intro r i h
    split at h
    · rw [Option.some.inj h]
      exact Finset.mem_insert_self _ _
    · exact Finset.mem_insert_of_mem (s.known r i h)

/-- A removal by id, with every reference to it. -/
def remove (s : Store) (id : String) : Store where
  images := s.images.erase id
  refs := fun r => (s.refs r).filter (· != id)
  known := by
    intro r i h
    obtain ⟨href, hne⟩ := Option.filter_eq_some_iff.mp h
    exact Finset.mem_erase.mpr ⟨bne_iff_ne.mp hne, s.known r i href⟩

@[simp] theorem images_pull (s : Store) (ref id : String) :
    (s.pull ref id).images = insert id s.images := rfl

@[simp] theorem images_remove (s : Store) (id : String) :
    (s.remove id).images = s.images.erase id := rfl

end Store

/-- An image, as `inspect` tells of it. -/
structure Image where
  id : String
  size : Nat
  repoDigests : List String
  named : id ≠ ""

/-- What the node answers while one service is resolved. -/
structure Turn where
  /-- Whether the reference can be looked up before the pull. -/
  probes : Bool := true
  /-- The free space, if it can be read, before the pull and after it. -/
  freeBefore : Option Nat := none
  freeAfter : Option Nat := none
  /-- The image that the pull brings, or the name of its exception. -/
  pulls : Except String Image
  /-- The exception of the inspection of the image that was pulled. -/
  inspectFails : Option String := none
  /-- Whether a removal succeeds. -/
  removes : Bool := true

/-! ## The admission -/

/-- The operator's caps; zero disables one. -/
structure Settings where
  imageMaxBytes : Nat := 20 * 1024 ^ 3
  imageMinFreeBytes : Nat := 2 * 1024 ^ 3
  imageCountMax : Nat := 0

/-- The row of a refusal, with what its message says. -/
inductive Refusal where
  /-- The node already holds so many images. -/
  | full (count cap : Nat)
  /-- The service has no image reference. -/
  | imageless (service : String)
  /-- The free space is at or below the margin, before the pull. -/
  | noSpace (service image : String) (free margin : Nat)
  /-- The pull would take the node over the cap. -/
  | overCount (service image : String) (count cap : Nat)
  /-- The image could not be resolved to a digest. -/
  | unresolved (service image failure : String)
  /-- The image is larger than the cap. -/
  | tooLarge (service image : String) (size cap : Nat)
  /-- The image and the margin do not fit. -/
  | noMargin (service image : String) (size free margin : Nat)
  deriving DecidableEq

/-- `svc.get("image")`, if it is a text that is not empty. -/
def imageOf (service : Entries) : Option String :=
  match Dict.get? service "image" with
  | some (.str image) => if image = "" then none else some image
  | _ => none

/-- The check before the pull that there is space at all. -/
def spaceRefusal (settings : Option Settings) (name image : String) (free : Option Nat) :
    Option Refusal :=
  match settings, free with
  | some st, some free =>
    if st.imageMinFreeBytes ≠ 0 ∧ free ≤ st.imageMinFreeBytes then
      some (.noSpace name image free st.imageMinFreeBytes)
    else none
  | _, _ => none

/-- The slots of the count cap: how many images the node held, and the cap. -/
structure Slots where
  count : Nat
  cap : Nat

/-- The check before the pull that there is a slot for an image that is not there.  There are no
slots where the cap is not active. -/
def slotRefusal (slots : Option Slots) (used : Nat) (name image : String) (preId : Option String)
    (preUnclear : Bool) : Option Refusal :=
  match slots with
  | some s =>
    if preUnclear = false ∧ preId = none ∧ s.cap ≤ s.count + used then
      some (.overCount name image (s.count + used + 1) s.cap)
    else none
  | none => none

/-- `_admit_image`: the refusal of an image that has been pulled. -/
def admitImage (name image : String) (pulled : Image) (free : Option Nat) (st : Settings) :
    Option Refusal :=
  if st.imageMaxBytes ≠ 0 ∧ st.imageMaxBytes < pulled.size then
    some (.tooLarge name image pulled.size st.imageMaxBytes)
  else
    match free with
    | some free =>
      if st.imageMinFreeBytes ≠ 0 ∧ free < pulled.size + st.imageMinFreeBytes then
        some (.noMargin name image pulled.size free st.imageMinFreeBytes)
      else none
    | none => none

/-- `_remove_newly_pulled`, by id; a failure is logged. -/
def removeNewlyPulled (t : Turn) (s : Store) (id : String) : Store :=
  if t.removes then s.remove id else s

/-- Whether the pull is taken to have introduced the image. -/
def introduced (preId : Option String) (preUnclear : Bool) (postId : String) : Bool :=
  postId != "" && !preUnclear && preId != some postId

/-- The digests of an image. -/
def digestsOf (pulled : Image) : List String :=
  pulled.repoDigests.filter fun d => d.toList.contains '@'

/-- The id that the probe finds. -/
def probed (t : Turn) (s : Store) (image : String) : Option String :=
  if t.probes then s.refs image else none

/-- What follows the pull: the digest, and the admission. -/
def settlePulled (settings : Option Settings) (used : Nat) (name image : String) (t : Turn)
    (preId : Option String) (s : Store) (pulled : Image) :
    Store × Except Refusal (String × Nat) :=
  match t.inspectFails, digestsOf pulled with
  | some failure, _ => (s, .error (.unresolved name image failure))
  | none, [] => (s, .error (.unresolved name image "RuntimeError"))
  | none, digest :: _ =>
    match settings with
    | none => (s, .ok (digest, used))
    | some st =>
      match admitImage name image pulled t.freeAfter st with
      | some row =>
        (if introduced preId (!t.probes) pulled.id then removeNewlyPulled t s pulled.id else s,
          .error row)
      | none => (s, .ok (digest, if introduced preId (!t.probes) pulled.id then used + 1 else used))

/-- One service of the loop: its digest, and the slots that are used. -/
def resolveImage (settings : Option Settings) (slots : Option Slots) (used : Nat) (name : String)
    (service : Entries) (t : Turn) (s : Store) : Store × Except Refusal (String × Nat) :=
  match imageOf service with
  | none => (s, .error (.imageless name))
  | some image =>
    match spaceRefusal settings name image t.freeBefore with
    | some row => (s, .error row)
    | none =>
      match slotRefusal slots used name image (probed t s image) (!t.probes) with
      | some row => (s, .error row)
      | none =>
        match t.pulls with
        | .error failure => (s, .error (.unresolved name image failure))
        | .ok pulled =>
          settlePulled settings used name image t (probed t s image) (s.pull image pulled.id) pulled

/-- A service of a compose, with what the node answers in its turn. -/
structure Step where
  name : String
  service : Entries
  turn : Turn

/-- The loop over the services. -/
def resolveImages (settings : Option Settings) (slots : Option Slots) :
    Nat → List Step → Store → Store × Except Refusal (List (String × String))
  | _, [], s => (s, .ok [])
  | used, step :: rest, s =>
    match resolveImage settings slots used step.name step.service step.turn s with
    | (s, .error row) => (s, .error row)
    | (s, .ok (digest, used)) =>
      match resolveImages settings slots used rest s with
      | (s, .error row) => (s, .error row)
      | (s, .ok digests) => (s, .ok ((step.name, digest) :: digests))

/-- The slots, or the refusal of a node that is full; `counts` is whether the node can be asked for
its images. -/
def takeSlots (settings : Option Settings) (counts : Bool) (s : Store) :
    Except Refusal (Option Slots) :=
  match settings with
  | some st =>
    if st.imageCountMax ≠ 0 ∧ counts = true then
      if st.imageCountMax ≤ s.images.card then .error (.full s.images.card st.imageCountMax)
      else .ok (some ⟨s.images.card, st.imageCountMax⟩)
    else .ok none
  | none => .ok none

/-- `_resolve_image_digests`. -/
def resolveImageDigests (settings : Option Settings) (counts : Bool) (steps : List Step)
    (s : Store) : Store × Except Refusal (List (String × String)) :=
  match takeSlots settings counts s with
  | .error row => (s, .error row)
  | .ok slots => resolveImages settings slots 0 steps s

/-! ## What one service does -/

section Step
variable {settings : Option Settings} {slots : Option Slots} {used used' : Nat} {name digest : String}
  {service : Entries} {t : Turn} {s s' : Store} {row : Refusal}

/-- **A service that is resolved**: it refers to an image, a slot was free for it if none was
there, and the pull brought one that is kept. -/
theorem resolveImage_ok (h : resolveImage settings slots used name service t s =
      (s', .ok (digest, used'))) :
    ∃ image pulled, imageOf service = some image ∧ t.pulls = .ok pulled ∧
      s' = s.pull image pulled.id ∧
      slotRefusal slots used name image (probed t s image) (!t.probes) = none ∧
      (settings.isSome = true → used' =
        if introduced (probed t s image) (!t.probes) pulled.id then used + 1 else used) := by
  unfold resolveImage at h
  split at h
  case h_1 => cases h
  case h_2 image himage =>
    split at h
    case h_1 => cases h
    case h_2 =>
      split at h
      case h_1 => cases h
      case h_2 hslot =>
        split at h
        case h_1 => cases h
        case h_2 pulled hpulled =>
          refine ⟨image, pulled, himage, hpulled, ?_⟩
          unfold settlePulled at h
          split at h
          case h_1 => cases h
          case h_2 => cases h
          case h_3 =>
            split at h
            case h_1 =>
              cases h
              exact ⟨rfl, hslot, fun hsome => by cases hsome⟩
            case h_2 =>
              split at h
              case h_1 => cases h
              case h_2 =>
                cases h
                exact ⟨rfl, hslot, fun _ => rfl⟩

/-- **A service that is refused**: before its pull, for want of a digest, or by the admission, which
takes away what it holds for new. -/
theorem resolveImage_error (h : resolveImage settings slots used name service t s =
      (s', .error row)) :
    (s' = s ∧ ∀ image pulled, imageOf service = some image → t.pulls = .ok pulled →
      spaceRefusal settings name image t.freeBefore = none →
      slotRefusal slots used name image (probed t s image) (!t.probes) ≠ none) ∨
    ∃ image pulled, imageOf service = some image ∧ t.pulls = .ok pulled ∧
      spaceRefusal settings name image t.freeBefore = none ∧
      slotRefusal slots used name image (probed t s image) (!t.probes) = none ∧
      ((t.inspectFails.isSome = true ∨ digestsOf pulled = []) ∧ s' = s.pull image pulled.id ∨
        t.inspectFails = none ∧ digestsOf pulled ≠ [] ∧
          (∃ st, settings = some st ∧
            (admitImage name image pulled t.freeAfter st).isSome = true) ∧
          s' = if introduced (probed t s image) (!t.probes) pulled.id then
            removeNewlyPulled t (s.pull image pulled.id) pulled.id else s.pull image pulled.id) := by
  unfold resolveImage at h
  split at h
  case h_1 hnone =>
    cases h
    refine .inl ⟨rfl, fun image pulled himage => ?_⟩
    rw [hnone] at himage
    cases himage
  case h_2 image himage =>
    have hsame {image' : String} (himage' : imageOf service = some image') : image' = image :=
      Option.some.inj (himage'.symm.trans himage)
    split at h
    case h_1 row' hrow =>
      cases h
      refine .inl ⟨rfl, fun image' pulled himage' _ hspace => ?_⟩
      rw [hsame himage', hrow] at hspace
      cases hspace
    case h_2 hspace =>
      split at h
      case h_1 row' hrow =>
        cases h
        refine .inl ⟨rfl, fun image' pulled himage' _ _ hslot => ?_⟩
        rw [hsame himage', hrow] at hslot
        cases hslot
      case h_2 hslot =>
        split at h
        case h_1 failure hfailed =>
          cases h
          refine .inl ⟨rfl, fun image' pulled _ hpulled => ?_⟩
          rw [hfailed] at hpulled
          cases hpulled
        case h_2 pulled hpulled =>
          -- from here on the image is on the node
          refine .inr ⟨image, pulled, himage, hpulled, hspace, hslot, ?_⟩
          unfold settlePulled at h
          split at h
          case h_1 failure _ hfails =>
            cases h
            exact .inl ⟨.inl (by rw [hfails]; rfl), rfl⟩
          case h_2 hdigests =>
            cases h
            exact .inl ⟨.inr hdigests, rfl⟩
          case h_3 d rest hfails hdigests =>
            split at h
            case h_1 => cases h
            case h_2 st =>
              split at h
              case h_1 row' hjudged =>
                cases h
                refine .inr ⟨hfails, by rw [hdigests]; exact List.cons_ne_nil _ _,
                  ⟨st, rfl, by rw [hjudged]; rfl⟩, rfl⟩
              case h_2 => cases h

end Step

end Greffer.Images

import Greffer.Updater.Version

/-! # The target of a local update

The operator's `--to` wins, and otherwise the manifest's `latest`.  What a target has to be, next to
what runs and to what the manifest says: not older, not below the floor, and not across a pair that
cannot be rolled back.
-/
namespace Greffer.Cli
open Greffer.Updater (versionTuple tupleLess isDowngradeTo)

/-- `Manifest`. -/
structure Manifest where
  latest : Option String := none
  minSupported : Option String := none
  noRollbackFrom : List String := []

/-- Whether a character may start an image tag: `[A-Za-z0-9_]`. -/
def startsTag (c : Char) : Bool := c.isAlphanum || c == '_'

/-- `is_valid_image_tag`. -/
def isValidImageTag (tag : String) : Bool :=
  match tag.toList with
  | [] => false
  | c :: rest =>
    startsTag c && rest.all (fun c => startsTag c || c == '.' || c == '-') &&
      decide (rest.length ≤ 127)

/-- `resolve_target`. -/
def resolveTarget (explicitTo : Option String) (manifest : Option Manifest) : Option String :=
  match nonEmpty explicitTo with
  | some tag => if isValidImageTag tag then some tag else none
  | none => (manifest.bind Manifest.latest).filter isValidImageTag

/-- The manifest's floor, if there is one. -/
def floorOf (manifest : Option Manifest) : Option String := manifest.bind Manifest.minSupported

/-- `below_floor`. -/
def belowFloor (target minSupported : Option String) : Option Bool :=
  match nonEmpty minSupported with
  | none => none
  | some floor =>
    match versionTuple target, versionTuple (some floor) with
    | some tgt, some flr => some (tupleLess tgt flr)
    | _, _ => none

/-- `no_rollback_blocked`. -/
def noRollbackBlocked (manifest : Option Manifest) (current : Option String) (target : String) :
    Option Bool :=
  match manifest, current with
  | some manifest, some current =>
    some (manifest.noRollbackFrom.contains (current ++ "->" ++ target))
  | _, _ => none

/-! ## What the checks rule out -/

/-- Where both versions are dotted-numeric, the first is not numerically greater. -/
def NotGreater (version target : Option String) : Prop :=
  ∀ v t, versionTuple version = some v → versionTuple target = some t → tupleLess t v = false

/-- A target that is no downgrade is at least what runs. -/
theorem notGreater_of_not_downgrade {current target : Option String}
    (h : isDowngradeTo current target ≠ some true) : NotGreater current target := by
  intro v t hv ht
  unfold isDowngradeTo at h
  rw [hv, ht] at h
  simpa using h

/-- What is not dotted-numeric is ordered with nothing; the empty text is one such. -/
theorem versionTuple_of_nonEmpty_eq_none {v : Option String} (h : nonEmpty v = none) :
    versionTuple v = none := by
  unfold versionTuple
  rw [h]

theorem notGreater_of_not_belowFloor {target minSupported : Option String}
    (h : belowFloor target minSupported ≠ some true) : NotGreater minSupported target := by
  intro f t hf ht
  unfold belowFloor at h
  cases hfloor : nonEmpty minSupported with
  | none =>
    rw [versionTuple_of_nonEmpty_eq_none hfloor] at hf
    cases hf
  | some floor =>
    rw [hfloor] at h
    dsimp only at h
    rw [nonEmpty_eq hfloor] at hf
    rw [hf, ht] at h
    simpa using h

end Greffer.Cli

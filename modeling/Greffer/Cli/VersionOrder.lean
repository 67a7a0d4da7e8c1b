import Greffer.Python.Padded
import Greffer.Cli.Target

/-! # The order of versions

Three functions compare two versions: `is_downgrade`, `below_floor` and the updater's `_is_downgrade`.
All of them compare the components, the shorter version continued with zeros, so that they compare two
elements of one linear order; each has its arguments in an order of its own.
-/
namespace Greffer.Cli
open Greffer.Updater (versionTuple tupleLess padTo isComponent componentValue isDowngradeTo isDowngrade)

/-! ## Dotted-numeric versions -/

/-- A dotted-numeric version: components of one to eighteen digits, as many as there are. -/
structure Version where
  text : String
  tuple : List Nat
  dotted : versionTuple (some text) = some tuple

theorem not_mem_component {part : List Char} (h : isComponent part = true) : '.' ∉ part := by
  intro hmem
  simp only [isComponent, Bool.and_eq_true] at h
  have hdigit : ('.' : Char).isDigit = true := List.all_eq_true.mp h.1.1 _ hmem
  exact absurd hdigit (by decide)

/-- **What is dotted-numeric**: components of digits, at least one, and a dot between any two. -/
theorem versionTuple_iff {text : String} {tuple : List Nat} :
    versionTuple (some text) = some tuple ↔
      ∃ parts : List (List Char), parts ≠ [] ∧ (∀ part ∈ parts, isComponent part = true) ∧
        text.toList = ['.'].intercalate parts ∧ tuple = parts.map componentValue := by
  constructor
  · intro h
    have hnonEmpty : nonEmpty (some text) = some text := by
      cases hnone : nonEmpty (some text) with
      | none => simp [versionTuple, hnone] at h
      | some v => rw [nonEmpty_eq hnone]
    rw [versionTuple, hnonEmpty] at h
    dsimp only at h
    split at h
    · rename_i hall
      refine ⟨splitOn '.' text.toList, splitOn_ne_nil _ _, List.all_eq_true.mp hall, ?_,
        (Option.some_inj.mp h).symm⟩
      rw [splitOn_eq, List.intercalate_splitOn]
    · cases h
  · rintro ⟨parts, hne, hparts, htext, rfl⟩
    have hsplit : splitOn '.' text.toList = parts := by
      rw [splitOn_eq, htext]
      exact List.splitOn_intercalate '.' (fun part hpart => not_mem_component (hparts part hpart)) hne
    have hnonEmpty : text ≠ "" := by
      rintro rfl
      -- a text of nothing has one component, which is empty
      have hempty : [] ∈ parts := by rw [← hsplit]; exact List.mem_singleton.mpr rfl
      exact absurd (hparts [] hempty) (by decide)
    rw [versionTuple, nonEmpty, Option.filter_some, if_pos (bne_iff_ne.mpr hnonEmpty)]
    dsimp only
    rw [hsplit, if_pos (List.all_eq_true.mpr hparts)]

example : versionTuple (some "0.12.3") = some [0, 12, 3] := by decide

/-- Moving from `current` to `target` goes backwards. -/
def Downgrade (target current : Version) : Prop :=
  isDowngradeTo (some current.text) (some target.text) = some true

/-- **What is compared** is the components, continued with zeros. -/
theorem tupleLess_iff (a b : List Nat) : tupleLess a b = true ↔ extended 0 a < extended 0 b := by
  have hlength : (padTo (max a.length b.length) a).length =
      (padTo (max a.length b.length) b).length := by
    unfold padTo
    simp only [List.length_append, List.length_replicate]
    omega
  unfold tupleLess
  rw [decide_eq_true_iff, lt_iff_extended_lt 0 hlength]
  unfold padTo
  rw [extended_append_replicate, extended_append_replicate]

theorem isDowngradeTo_versions (current target : Version) :
    isDowngradeTo (some current.text) (some target.text) =
      some (tupleLess target.tuple current.tuple) := by
  unfold isDowngradeTo
  rw [current.dotted, target.dotted]

theorem downgrade_iff {target current : Version} :
    Downgrade target current ↔ extended 0 target.tuple < extended 0 current.tuple := by
  unfold Downgrade
  rw [isDowngradeTo_versions, Option.some_inj, tupleLess_iff]

/-! ## Components that are zero -/

/-- Components `.0`, so many. -/
def zeroComponents (n : Nat) : String := String.join (List.replicate n ".0")

theorem versionTuple_append_zero (text : String) :
    versionTuple (some (text ++ ".0")) = (versionTuple (some text)).map (· ++ [0]) := by
  have hnonEmpty : nonEmpty (some (text ++ ".0")) = some (text ++ ".0") := by
    have hne : text ++ ".0" ≠ "" := fun h => by
      have hlength := congrArg String.length h
      rw [String.length_append] at hlength
      exact absurd hlength (Nat.succ_ne_zero _)
    rw [nonEmpty, Option.filter_some, if_pos (bne_iff_ne.mpr hne)]
  have hparts : splitOn '.' (text ++ ".0").toList = splitOn '.' text.toList ++ [['0']] := by
    rw [String.toList_append]
    exact splitOn_append_sep _ _
  unfold versionTuple
  rw [hnonEmpty]
  dsimp only
  rw [hparts, List.all_append]
  by_cases hempty : text = ""
  · subst hempty
    rfl
  · have htext : nonEmpty (some text) = some text := by
      rw [nonEmpty, Option.filter_some, if_pos (bne_iff_ne.mpr hempty)]
    have hzero : [['0']].all isComponent = true := by decide
    rw [htext, hzero, Bool.and_true]
    dsimp only
    split
    · rw [List.map_append, Option.map_some]
      rfl
    · rfl

/-- **The tuple of a version behind which zeros are appended.** -/
theorem versionTuple_append_zeros (text : String) (n : Nat) :
    versionTuple (some (text ++ zeroComponents n)) =
      (versionTuple (some text)).map (· ++ List.replicate n 0) := by
  induction n with
  | zero =>
    have hnone : zeroComponents 0 = "" := rfl
    rw [hnone, String.append_empty]
    simp
  | succ n ih =>
    have hmore : zeroComponents (n + 1) = zeroComponents n ++ ".0" := by
      unfold zeroComponents
      rw [List.replicate_succ', String.join_append]
      rfl
    rw [hmore, ← String.append_assoc, versionTuple_append_zero, ih, Option.map_map,
      List.replicate_succ']
    simp [Function.comp_def]

/-! ## The order -/

theorem downgrade_eq :
    Downgrade = Function.onFun (Function.onFun (· < ·) (extended 0)) Version.tuple := by
  funext target current
  exact propext downgrade_iff

theorem downgrade_isStrictWeakOrder : IsStrictWeakOrder Version Downgrade := by
  rw [downgrade_eq]
  infer_instance

/-- Components `.0` at the end make no difference, on either side. -/
theorem isDowngradeTo_append_zeros (current target : String) (m n : Nat) :
    isDowngradeTo (some (current ++ zeroComponents m)) (some (target ++ zeroComponents n)) =
      isDowngradeTo (some current) (some target) := by
  unfold isDowngradeTo
  rw [versionTuple_append_zeros, versionTuple_append_zeros]
  cases versionTuple (some current) with
  | none => rfl
  | some cur =>
    cases versionTuple (some target) with
    | none => rfl
    | some tgt =>
      dsimp only [Option.map_some]
      rw [Option.some_inj, Bool.eq_iff_iff, tupleLess_iff, tupleLess_iff,
        extended_append_replicate, extended_append_replicate]

theorem belowFloor_eq (target minSupported : Option String) :
    belowFloor target minSupported = isDowngradeTo minSupported target := by
  unfold belowFloor isDowngradeTo
  cases hfloor : nonEmpty minSupported with
  | none =>
    rw [versionTuple_of_nonEmpty_eq_none hfloor]
  | some floor =>
    rw [nonEmpty_eq hfloor]
    dsimp only
    cases versionTuple target with
    | none => cases versionTuple (some floor) <;> rfl
    | some tgt => cases versionTuple (some floor) <;> rfl

/-- **The comparison of versions.**  It is a strict weak order of the dotted-numeric versions, does not
see components `.0` at the end, and is the same in all three functions. -/
theorem version_comparison :
    IsStrictWeakOrder Version Downgrade ∧
      (∀ (current target : String) (m n : Nat),
        isDowngradeTo (some (current ++ zeroComponents m)) (some (target ++ zeroComponents n)) =
          isDowngradeTo (some current) (some target)) ∧
      (∀ target minSupported : Option String,
        belowFloor target minSupported = isDowngradeTo minSupported target) ∧
      ∀ current target : Version, isDowngradeTo (some current.text) (some target.text) =
        some (isDowngrade (some target.text) (some current.text)) := by
  refine ⟨downgrade_isStrictWeakOrder, isDowngradeTo_append_zeros, belowFloor_eq,
    fun current target => ?_⟩
  unfold isDowngrade
  rw [isDowngradeTo_versions]
  cases tupleLess target.tuple current.tuple <;> rfl

end Greffer.Cli

import Mathlib.Data.Finset.Card
import Mathlib.Data.Finset.Image
import Mathlib.Order.Monotone.Defs

/-! # Retention by buckets

A retention policy sorts points in time into buckets — days, weeks — and keeps,
for each of its rules, the last point of each of the newest buckets.  What is kept
is kept by some rule; the rest goes.  A policy that keeps nothing by any rule is
taken for no policy at all, and everything stays.

The lemmas are about two **neighbours** in time, points with none between them.
The earlier one is the last of its bucket exactly if the two are in different
buckets, and its bucket is then the one before the later one's.
-/
namespace Retention

variable {T B α : Type} [LinearOrder T] [LinearOrder B]

/-- Keep the last point of each of the newest `count` buckets. -/
structure Rule (T B : Type) where
  bucket : T → B
  count : Nat

/-- The point is the last of its bucket. -/
def LastOfBucket (points : List T) (bucket : T → B) (t : T) : Prop :=
  ∀ s ∈ points, bucket s = bucket t → s ≤ t

instance (points : List T) (bucket : T → B) (t : T) : Decidable (LastOfBucket points bucket t) :=
  inferInstanceAs (Decidable (∀ s ∈ points, bucket s = bucket t → s ≤ t))

/-- The buckets after the one of the point. -/
def laterBuckets (points : List T) (bucket : T → B) (t : T) : Finset B :=
  (points.map bucket).toFinset.filter (bucket t < ·)

/-- The rule keeps the point. -/
def Rule.Keeps (rule : Rule T B) (points : List T) (t : T) : Prop :=
  LastOfBucket points rule.bucket t ∧ (laterBuckets points rule.bucket t).card < rule.count

instance (rule : Rule T B) (points : List T) (t : T) : Decidable (rule.Keeps points t) :=
  inferInstanceAs (Decidable (_ ∧ _))

/-- A policy without effect. -/
def Void (rules : List (Rule T B)) : Prop := ∀ rule ∈ rules, rule.count = 0

instance (rules : List (Rule T B)) : Decidable (Void rules) :=
  inferInstanceAs (Decidable (∀ rule ∈ rules, rule.count = 0))

/-- The policy keeps the point. -/
def Kept (rules : List (Rule T B)) (points : List T) (t : T) : Prop :=
  Void rules ∨ ∃ rule ∈ rules, rule.Keeps points t

instance (rules : List (Rule T B)) (points : List T) (t : T) : Decidable (Kept rules points t) :=
  inferInstanceAs (Decidable (_ ∨ ∃ rule ∈ rules, rule.Keeps points t))

/-- What the policy leaves of items that have each their point in time. -/
def retain (time : α → T) (rules : List (Rule T B)) (items : List α) : List α :=
  items.filter fun a => Kept rules (items.map time) (time a)

section
variable {rules : List (Rule T B)} {points : List T} {bucket : T → B} {time : α → T}
  {items : List α} {a b t : T}

theorem mem_retain {x : α} : x ∈ retain time rules items ↔
    x ∈ items ∧ Kept rules (items.map time) (time x) := by
  simp [retain]

omit [LinearOrder T] in
theorem mem_laterBuckets {c : B} : c ∈ laterBuckets points bucket t ↔
    (∃ s ∈ points, bucket s = c) ∧ bucket t < c := by
  simp [laterBuckets]

/-- **The newest point is kept.** -/
theorem kept_newest (hmono : ∀ rule ∈ rules, Monotone rule.bucket) (h : ∀ s ∈ points, s ≤ t) :
    Kept rules points t := by
  by_cases hvoid : Void rules
  · exact .inl hvoid
  · unfold Void at hvoid
    push Not at hvoid
    obtain ⟨rule, hrule, hcount⟩ := hvoid
    refine .inr ⟨rule, hrule, fun s hs _ => h s hs, ?_⟩
    have hnone : laterBuckets points rule.bucket t = ∅ := by
      refine Finset.eq_empty_of_forall_notMem fun c hc => ?_
      obtain ⟨⟨s, hs, rfl⟩, hlt⟩ := mem_laterBuckets.mp hc
      exact absurd (hmono rule hrule (h s hs)) (not_le.mpr hlt)
    rw [hnone, Finset.card_empty]
    omega

/-- Two points with none between them. -/
structure Neighbours (points : List T) (a b : T) : Prop where
  lt : a < b
  mem : b ∈ points
  none_between : ∀ s ∈ points, a < s → b ≤ s

namespace Neighbours
variable (h : Neighbours points a b)
include h

/-- **The earlier neighbour is the last of its bucket if the later one starts another.** -/
theorem lastOfBucket_iff (hmono : Monotone bucket) :
    LastOfBucket points bucket a ↔ bucket a ≠ bucket b := by
  constructor
  · intro hlast hsame
    exact absurd (hlast b h.mem hsame.symm) (not_le.mpr h.lt)
  · intro hne s hs hsame
    by_contra hlt
    have hbs : bucket b ≤ bucket s := hmono (h.none_between s hs (not_le.mp hlt))
    have hab : bucket a ≤ bucket b := hmono h.lt.le
    exact hne (le_antisymm hab (hsame ▸ hbs))

/-- Its bucket is then the one before. -/
theorem card_laterBuckets (hmono : Monotone bucket) (hne : bucket a ≠ bucket b) :
    (laterBuckets points bucket a).card = (laterBuckets points bucket b).card + 1 := by
  have hlt : bucket a < bucket b := lt_of_le_of_ne (hmono h.lt.le) hne
  have hinsert : laterBuckets points bucket a = insert (bucket b) (laterBuckets points bucket b) := by
    ext c
    rw [Finset.mem_insert, mem_laterBuckets, mem_laterBuckets]
    constructor
    · rintro ⟨⟨s, hs, rfl⟩, hac⟩
      have has : a < s := lt_of_not_ge fun hsa => absurd (hmono hsa) (not_le.mpr hac)
      have hbs : bucket b ≤ bucket s := hmono (h.none_between s hs has)
      rcases hbs.eq_or_lt with heq | hlater
      · exact .inl heq.symm
      · exact .inr ⟨⟨s, hs, rfl⟩, hlater⟩
    · rintro (rfl | ⟨hc, hbc⟩)
      · exact ⟨⟨b, h.mem, rfl⟩, hlt⟩
      · exact ⟨hc, hlt.trans hbc⟩
  rw [hinsert, Finset.card_insert_of_notMem]
  rw [mem_laterBuckets]
  exact fun hb => lt_irrefl _ hb.2

/-- **A rule keeps the earlier neighbour** if the two are in different buckets, and it
has room for one more bucket than are later than the later one's. -/
theorem keeps_iff {rule : Rule T B} (hmono : Monotone rule.bucket) :
    rule.Keeps points a ↔ rule.bucket a ≠ rule.bucket b ∧
      (laterBuckets points rule.bucket b).card + 1 < rule.count := by
  unfold Rule.Keeps
  rw [h.lastOfBucket_iff hmono]
  refine and_congr_right fun hne => ?_
  rw [h.card_laterBuckets hmono hne]

end Neighbours

end

end Retention

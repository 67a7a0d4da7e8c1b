import Mathlib
import Greffer.Retention.Buckets

/-! # The snapshots of an instance

One group of a restic repository: the snapshots with the tag of one instance, in
the order in which they were taken.  Retention looks at single snapshots; a backup
may consist of two, the data and the database dump, which are neighbours in time.
`Sane` is what holds of the group whatever is taken and forgotten, **as long as
every retention run is `Aligned`**: a backup of two snapshots crosses the end of a
kept period exactly if its dump ends one.
-/
namespace Greffer.Backup
open Retention

/-- The days, weeks and months of a time zone. -/
structure Calendar where
  day : Int → Int
  week : Int → Int
  month : Int → Int
  day_mono : Monotone day
  week_mono : Monotone week
  month_mono : Monotone month

/-- `--keep-daily`, `--keep-weekly` and `--keep-monthly`. -/
def Calendar.rules (cal : Calendar) (daily weekly monthly : Int) : List (Rule Int Int) :=
  [⟨cal.day, daily.toNat⟩, ⟨cal.week, weekly.toNat⟩, ⟨cal.month, monthly.toNat⟩]

theorem Calendar.rules_mono (cal : Calendar) (daily weekly monthly : Int) :
    ∀ rule ∈ cal.rules daily weekly monthly, Monotone rule.bucket := by
  simp only [rules, List.mem_cons, List.not_mem_nil, or_false]
  rintro rule (rfl | rfl | rfl)
  · exact cal.day_mono
  · exact cal.week_mono
  · exact cal.month_mono

/-- A snapshot. -/
structure Snapshot where
  id : String
  time : Int
  deriving DecidableEq

/-- The snapshots there are; every id ever given out; the snapshots of the successful
backups so far, and those the current job has taken. -/
structure Repo where
  snapshots : List Snapshot := []
  used : List String := []
  backups : List (List Snapshot) := []
  taken : List Snapshot := []

namespace Repo

/-- A later snapshot, under a new id. -/
def Fresh (w : Repo) (s : Snapshot) : Prop :=
  (∀ s' ∈ w.snapshots, s'.time < s.time) ∧ s.id ∉ w.used

/-- A snapshot is taken. -/
def take (w : Repo) (s : Snapshot) : Repo :=
  { w with snapshots := w.snapshots ++ [s], used := s.id :: w.used, taken := w.taken ++ [s] }

/-- The times of the snapshots. -/
def times (w : Repo) : List Int := w.snapshots.map Snapshot.time

/-- A retention run. -/
def retain (w : Repo) (rules : List (Rule Int Int)) : Repo :=
  { w with snapshots := Retention.retain Snapshot.time rules w.snapshots }

/-- The job ends well: what it has taken is a backup. -/
def close (w : Repo) : Repo := { w with backups := w.backups ++ [w.taken], taken := [] }

/-- A new job. -/
def reopen (w : Repo) : Repo := { w with taken := [] }

end Repo

/-- One snapshot, or the data and then the dump. -/
def Shape (b : List Snapshot) : Prop :=
  (∃ s, b = [s]) ∨ ∃ d m, b = [d, m] ∧ d.time < m.time

/-- All of the snapshots are there, and nothing lies between them. -/
def Whole (snapshots b : List Snapshot) : Prop :=
  (∀ s ∈ b, s ∈ snapshots) ∧
    ∀ d ∈ b, ∀ m ∈ b, ∀ s ∈ snapshots, d.time < s.time → s.time < m.time → s ∈ b

/-- None of the snapshots is there. -/
def Gone (snapshots b : List Snapshot) : Prop := ∀ s ∈ b, s ∉ snapshots

namespace Repo

/-- The backup of the data `d` and the dump `m` crosses the end of a period of which the
policy keeps more than one beyond those that are later. -/
def Crosses (w : Repo) (rules : List (Rule Int Int)) (d m : Snapshot) : Prop :=
  ∃ rule ∈ rules, rule.bucket d.time ≠ rule.bucket m.time ∧
    (laterBuckets w.times rule.bucket m.time).card + 1 < rule.count

/-- The dump is the last snapshot of a kept period. -/
def EndsPeriod (w : Repo) (rules : List (Rule Int Int)) (m : Snapshot) : Prop :=
  ∃ rule ∈ rules, rule.Keeps w.times m.time

/-- **A retention run that respects backups**: there is no policy, or each backup of two
snapshots that are there, that of the current job included, crosses the end of a kept
period exactly if its dump ends one. -/
def Aligned (w : Repo) (rules : List (Rule Int Int)) : Prop :=
  Void rules ∨ ∀ b ∈ w.backups ++ [w.taken], ∀ d m, b = [d, m] → d ∈ w.snapshots →
    m ∈ w.snapshots → (w.Crosses rules d m ↔ w.EndsPeriod rules m)

/-- A snapshot there is or was. -/
def Known (w : Repo) (s : Snapshot) : Prop := s ∈ w.snapshots ∨ ∃ b ∈ w.backups, s ∈ b

/-- The invariant of the group. -/
structure Sane (w : Repo) : Prop where
  sorted : w.snapshots.Pairwise fun a b => a.time < b.time
  recorded : ∀ s, w.Known s → s.id ∈ w.used
  one_id : ∀ s s', w.Known s → w.Known s' → s.id = s'.id → s = s'
  shaped : ∀ b ∈ w.backups, Shape b
  whole_or_gone : ∀ b ∈ w.backups, Whole w.snapshots b ∨ Gone w.snapshots b

theorem sane_empty : ({} : Repo).Sane := by
  constructor <;> simp [Known]

section
variable {w : Repo} {s : Snapshot} {rules : List (Rule Int Int)}

theorem Sane.reopen (h : w.Sane) : w.reopen.Sane where
  sorted := h.sorted
  recorded := h.recorded
  one_id := h.one_id
  shaped := h.shaped
  whole_or_gone := h.whole_or_gone

/-- **Taking a snapshot** leaves every backup as it was. -/
theorem Sane.take (h : w.Sane) (hs : w.Fresh s) : (w.take s).Sane := by
  have hknown : ∀ x, (w.take s).Known x → w.Known x ∨ x = s := by
    rintro x (hx | hx)
    · rcases List.mem_append.mp hx with hx | hx
      · exact .inl (.inl hx)
      · exact .inr (List.mem_singleton.mp hx)
    · exact .inl (.inr hx)
  have hfresh : ∀ x, w.Known x → x.id ≠ s.id := fun x hx hid => hs.2 (hid ▸ h.recorded x hx)
  constructor
  · refine List.pairwise_append.mpr ⟨h.sorted, List.pairwise_singleton _ _, ?_⟩
    rintro a ha b hb
    rw [List.mem_singleton.mp hb]
    exact hs.1 a ha
  · intro x hx
    rcases hknown x hx with hx | rfl
    · exact List.mem_cons_of_mem _ (h.recorded x hx)
    · exact List.mem_cons_self
  · intro x y hx hy hid
    rcases hknown x hx with hx | hxs
    · rcases hknown y hy with hy | hys
      · exact h.one_id x y hx hy hid
      · exact absurd (hys ▸ hid) (hfresh x hx)
    · rcases hknown y hy with hy | hys
      · exact absurd (hxs ▸ hid).symm (hfresh y hy)
      · rw [hxs, hys]
  · exact h.shaped
  · intro b hb
    rcases h.whole_or_gone b hb with ⟨hall, hbetween⟩ | hnone
    · refine .inl ⟨fun x hx => List.mem_append.mpr (.inl (hall x hx)), ?_⟩
      intro d hd m hm x hx hdx hxm
      rcases List.mem_append.mp hx with hx | hx
      · exact hbetween d hd m hm x hx hdx hxm
      · -- the new snapshot is later than any that is there
        rw [List.mem_singleton.mp hx] at hxm
        have := hs.1 m (hall m hm)
        omega
    · refine .inr fun x hx hmem => ?_
      rcases List.mem_append.mp hmem with hmem | hmem
      · exact hnone x hx hmem
      · exact hfresh x (.inr ⟨b, hb, hx⟩) (congrArg Snapshot.id (List.mem_singleton.mp hmem))

/-- **A job that has taken one snapshot, or two, has taken a backup.** -/
theorem Sane.close (h : w.Sane) {before : List Snapshot} (htaken : w.snapshots = before ++ w.taken)
    (hlength : w.taken.length = 1 ∨ w.taken.length = 2) : w.close.Sane := by
  have hmem : ∀ s ∈ w.taken, s ∈ w.snapshots := fun s hs =>
    htaken ▸ List.mem_append.mpr (.inr hs)
  have hknown : ∀ x, w.close.Known x → w.Known x := by
    rintro x (hx | ⟨b, hb, hx⟩)
    · exact .inl hx
    · rcases List.mem_append.mp hb with hb | hb
      · exact .inr ⟨b, hb, hx⟩
      · exact .inl (hmem x (List.mem_singleton.mp hb ▸ hx))
  have hsorted := h.sorted
  rw [htaken, List.pairwise_append] at hsorted
  constructor
  · exact h.sorted
  · exact fun x hx => h.recorded x (hknown x hx)
  · exact fun x y hx hy => h.one_id x y (hknown x hx) (hknown y hy)
  · intro b hb
    rcases List.mem_append.mp hb with hb | hb
    · exact h.shaped b hb
    · rw [List.mem_singleton.mp hb]
      rcases hlength with hone | htwo
      · exact .inl (List.length_eq_one_iff.mp hone)
      · obtain ⟨d, m, hdm⟩ := List.length_eq_two.mp htwo
        refine .inr ⟨d, m, hdm, ?_⟩
        have hpair := hsorted.2.1
        rw [hdm] at hpair
        exact (List.pairwise_cons.mp hpair).1 m (List.mem_singleton.mpr rfl)
  · intro b hb
    rcases List.mem_append.mp hb with hb | hb
    · exact h.whole_or_gone b hb
    · rw [List.mem_singleton.mp hb]
      refine .inl ⟨hmem, fun d hd m hm s hs hds hsm => ?_⟩
      rw [show w.close.snapshots = before ++ w.taken from htaken] at hs
      rcases List.mem_append.mp hs with hs | hs
      · have := hsorted.2.2 s hs d hd
        omega
      · exact hs

/-- Neighbours in time: the data and the dump of a backup that is there. -/
theorem neighbours_of_whole {d m : Snapshot} (hwhole : Whole w.snapshots [d, m])
    (hlt : d.time < m.time) : Neighbours w.times d.time m.time := by
  refine ⟨hlt, List.mem_map.mpr ⟨m, hwhole.1 m (by simp), rfl⟩, ?_⟩
  intro t ht hdt
  obtain ⟨s, hs, rfl⟩ := List.mem_map.mp ht
  by_contra hsm
  have hmem := hwhole.2 d (by simp) m (by simp) s hs hdt (not_le.mp hsm)
  simp only [List.mem_cons, List.not_mem_nil, or_false] at hmem
  rcases hmem with rfl | rfl <;> omega

/-- **A backup of two is kept whole or not at all exactly if the retention run is
aligned with it.** -/
theorem kept_pair_iff (hmono : ∀ rule ∈ rules, Monotone rule.bucket)
    (hpolicy : ¬ Void rules) {d m : Snapshot} (hwhole : Whole w.snapshots [d, m])
    (hlt : d.time < m.time) :
    (Kept rules w.times d.time ↔ Kept rules w.times m.time) ↔
      (w.Crosses rules d m ↔ w.EndsPeriod rules m) := by
  have hnear := neighbours_of_whole hwhole hlt
  have hdata : Kept rules w.times d.time ↔ w.Crosses rules d m := by
    unfold Kept Crosses
    rw [or_iff_right hpolicy]
    refine exists_congr fun rule => and_congr_right fun hrule => ?_
    exact hnear.keeps_iff (hmono rule hrule)
  have hdump : Kept rules w.times m.time ↔ w.EndsPeriod rules m := by
    unfold Kept EndsPeriod
    rw [or_iff_right hpolicy]
  rw [hdata, hdump]

theorem mem_retain_snapshots : s ∈ (w.retain rules).snapshots ↔
    s ∈ w.snapshots ∧ Kept rules w.times s.time := mem_retain

/-- **A retention run respects a backup**, if it is aligned with it. -/
theorem retain_whole_or_gone (hmono : ∀ rule ∈ rules, Monotone rule.bucket)
    {b : List Snapshot} (hshape : Shape b) (hstands : Whole w.snapshots b ∨ Gone w.snapshots b)
    (haligned : Void rules ∨ ∀ d m, b = [d, m] → d ∈ w.snapshots → m ∈ w.snapshots →
      (w.Crosses rules d m ↔ w.EndsPeriod rules m)) :
    Whole (w.retain rules).snapshots b ∨ Gone (w.retain rules).snapshots b := by
  rcases hstands with ⟨hall, hbetween⟩ | hnone
  · have hless : ∀ d ∈ b, ∀ m ∈ b, ∀ s ∈ (w.retain rules).snapshots, d.time < s.time →
        s.time < m.time → s ∈ b :=
      fun d hd m hm s hs => hbetween d hd m hm s (mem_retain_snapshots.mp hs).1
    rcases hshape with ⟨s, rfl⟩ | ⟨d, m, rfl, hlt⟩
    · by_cases hs : Kept rules w.times s.time
      · refine .inl ⟨fun x hx => ?_, hless⟩
        rw [List.mem_singleton.mp hx]
        exact mem_retain_snapshots.mpr ⟨hall s (by simp), hs⟩
      · refine .inr fun x hx hmem => hs ?_
        rw [← List.mem_singleton.mp hx]
        exact (mem_retain_snapshots.mp hmem).2
    · have hsame : Kept rules w.times d.time ↔ Kept rules w.times m.time := by
        rcases haligned with hvoid | haligned
        · exact ⟨fun _ => .inl hvoid, fun _ => .inl hvoid⟩
        · by_cases hvoid : Void rules
          · exact ⟨fun _ => .inl hvoid, fun _ => .inl hvoid⟩
          · exact (kept_pair_iff hmono hvoid ⟨hall, hbetween⟩ hlt).mpr
              (haligned d m rfl (hall d (by simp)) (hall m (by simp)))
      by_cases hm : Kept rules w.times m.time
      · refine .inl ⟨fun x hx => mem_retain_snapshots.mpr ⟨hall x hx, ?_⟩, hless⟩
        simp only [List.mem_cons, List.not_mem_nil, or_false] at hx
        rcases hx with rfl | rfl
        · exact hsame.mpr hm
        · exact hm
      · refine .inr fun x hx hmem => hm ?_
        have hx' := (mem_retain_snapshots.mp hmem).2
        simp only [List.mem_cons, List.not_mem_nil, or_false] at hx
        rcases hx with rfl | rfl
        · exact hsame.mp hx'
        · exact hx'
  · exact .inr fun s hs hmem => hnone s hs (mem_retain_snapshots.mp hmem).1

/-- **An aligned retention run keeps the group sane.** -/
theorem Sane.retain (h : w.Sane) (hmono : ∀ rule ∈ rules, Monotone rule.bucket)
    (haligned : Void rules ∨ ∀ b ∈ w.backups, ∀ d m, b = [d, m] → d ∈ w.snapshots →
      m ∈ w.snapshots → (w.Crosses rules d m ↔ w.EndsPeriod rules m)) :
    (w.retain rules).Sane := by
  have hknown : ∀ x, (w.retain rules).Known x → w.Known x := by
    rintro x (hx | hx)
    · exact .inl (mem_retain_snapshots.mp hx).1
    · exact .inr hx
  constructor
  · exact h.sorted.sublist List.filter_sublist
  · exact fun x hx => h.recorded x (hknown x hx)
  · exact fun x y hx hy => h.one_id x y (hknown x hx) (hknown y hy)
  · exact h.shaped
  · exact fun b hb => retain_whole_or_gone hmono (h.shaped b hb) (h.whole_or_gone b hb)
      (haligned.imp_right fun hb' => hb' b hb)

/-- **And only an aligned one respects every backup.** -/
theorem Sane.aligned_iff (h : w.close.Sane) (hmono : ∀ rule ∈ rules, Monotone rule.bucket) :
    w.Aligned rules ↔ ∀ b ∈ w.backups ++ [w.taken],
      Whole (w.retain rules).snapshots b ∨ Gone (w.retain rules).snapshots b := by
  constructor
  · intro haligned b hb
    exact retain_whole_or_gone hmono (h.shaped b hb) (h.whole_or_gone b hb)
      (haligned.imp_right fun hall => hall b hb)
  · intro hrespects
    by_cases hvoid : Void rules
    · exact .inl hvoid
    · refine .inr fun b hb d m hdm hd hm => ?_
      subst hdm
      have hlt : d.time < m.time := by
        obtain ⟨s, hs⟩ | ⟨d', m', hdm, hlt⟩ := h.shaped _ hb
        · cases hs
        · cases hdm
          exact hlt
      have hwhole : Whole w.snapshots [d, m] := (h.whole_or_gone _ hb).resolve_right
        fun hgone => hgone d (by simp) hd
      refine (kept_pair_iff hmono hvoid hwhole hlt).mp ?_
      rcases hrespects _ hb with ⟨hall, -⟩ | hnone
      · exact ⟨fun _ => (mem_retain_snapshots.mp (hall m (by simp))).2,
          fun _ => (mem_retain_snapshots.mp (hall d (by simp))).2⟩
      · exact ⟨fun hk => absurd (mem_retain_snapshots.mpr ⟨hd, hk⟩) (hnone d (by simp)),
          fun hk => absurd (mem_retain_snapshots.mpr ⟨hm, hk⟩) (hnone m (by simp))⟩

/-- **After an aligned retention run the backup it follows is whole.** -/
theorem Sane.retain_close (h : w.close.Sane) {before : List Snapshot}
    (htaken : w.snapshots = before ++ w.taken)
    (hmono : ∀ rule ∈ rules, Monotone rule.bucket) (haligned : w.Aligned rules) :
    (w.retain rules).close.Sane ∧ ∀ s ∈ w.taken, s ∈ (w.retain rules).snapshots := by
  refine ⟨Sane.retain h hmono haligned, ?_⟩
  have hmem : w.taken ∈ w.backups ++ [w.taken] :=
    List.mem_append.mpr (.inr (List.mem_singleton.mpr rfl))
  have hne : w.taken ≠ [] := by
    obtain ⟨s, hs⟩ | ⟨d, m, hdm, -⟩ := h.shaped w.taken hmem
    · rw [hs]; simp
    · rw [hdm]; simp
  -- the last snapshot of the job is the newest there is
  have hlast := List.getLast_mem hne
  have hnewest : ∀ t ∈ w.times, t ≤ (w.taken.getLast hne).time := by
    intro t ht
    obtain ⟨s, hs, rfl⟩ := List.mem_map.mp ht
    have hsplit : w.snapshots = (before ++ w.taken.dropLast) ++ [w.taken.getLast hne] := by
      rw [List.append_assoc, List.dropLast_append_getLast, htaken]
    rw [hsplit] at hs
    rcases List.mem_append.mp hs with hs | hs
    · have hsorted := h.sorted
      rw [show w.close.snapshots = _ from hsplit, List.pairwise_append] at hsorted
      exact (hsorted.2.2 s hs _ (by simp)).le
    · rw [List.mem_singleton.mp hs]
  have hkept := kept_newest hmono hnewest
  have hthere : w.taken.getLast hne ∈ (w.retain rules).snapshots :=
    mem_retain_snapshots.mpr ⟨htaken ▸ List.mem_append.mpr (.inr hlast), hkept⟩
  rcases (h.aligned_iff hmono).mp haligned w.taken hmem with hwhole | hgone
  · exact hwhole.1
  · exact absurd hthere (hgone _ hlast)

end

end Repo

end Greffer.Backup

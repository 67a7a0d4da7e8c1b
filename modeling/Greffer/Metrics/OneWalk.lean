import Greffer.Metrics.DiskUsage

/-! # One walk at a time, and each instance its own

The two caches are read without a lock, so a reader may see the sizes of one walk and the time of
another.  Two things hold all the same, whatever the interleaving of the readers.

* A walk is asked for only while no other is under way, and, once there has been one, not before a
  minute after the time of the last (`one_walk_a_minute`).
* Each answer for an instance is made from one walk, whole, and names no volume of another instance
  (`answers_own_volumes`).
-/
namespace Greffer.Metrics
open Effects

/-! ## What a reader knows -/

/-- The record of a reader: whether it holds the lock and has a walk under way, what it has read
while it held the lock, and what it may make an answer from. -/
structure Reader where
  holds : Bool := false
  walking : Bool := false
  now : Option Rat := none
  volumes : Option (Option Snapshot) := none
  takenAt : Option Rat := none
  seen : List Snapshot := []
  bodies : List (String × Option DiskBody) := []

/-- There is nothing in the cache, or it is too old. -/
def Reader.Expired (s : Reader) : Prop :=
  s.volumes = some none ∨ ∃ now at', s.now = some now ∧ s.takenAt = some at' ∧ dfTtl ≤ now - at'

/-- An answer that is made from one of these walks. -/
def MadeFrom (walks : List Snapshot) (instanceId : String) (body : Option DiskBody) : Prop :=
  ∀ b, body = some b → ∃ walk ∈ walks, ∃ appBytes capturedAt,
    b = diskBody instanceId appBytes walk capturedAt

/-- An answer that was cached, or is made from what was seen. -/
def Reader.Answers (s : Reader) (instanceId : String) (body : Option DiskBody) : Prop :=
  (instanceId, body) ∈ s.bodies ∨ MadeFrom s.seen instanceId body

/-- What a reader may call, and reckons with: only the daemon's answer may fail. -/
def reading (k : String) : Reliance (Replies k) Reader where
  after s
    | .monotonic, .ok t => { s with now := some t }
    | .readVolumes, .ok volumes =>
      { s with volumes := some volumes, seen := volumes.toList ++ s.seen }
    | .readAt, .ok t => { s with takenAt := some t }
    | .writeVolumes volumes, _ => { s with volumes := some (some volumes) }
    | .writeAt t, _ => { s with takenAt := some t }
    | .acquire, _ => { s with holds := true, now := none, volumes := none, takenAt := none }
    | .release, _ => { s with holds := false }
    | .dfRequest, _ => { s with walking := true }
    | .dfReply, .ok entries => { s with walking := false, seen := digest entries :: s.seen }
    | .dfReply, .error _ => { s with walking := false }
    | .cacheGet key, .ok (some (_, body)) => { s with bodies := (key, body) :: s.bodies }
    | _, _ => s
  allowed s
    | .acquire => s.holds = false ∧ s.walking = false
    | .release => s.holds = true ∧ s.walking = false
    | .dfRequest => s.holds = true ∧ s.walking = false ∧ s.Expired
    | .dfReply => s.walking = true
    | .writeVolumes volumes => s.holds = true ∧ volumes ∈ s.seen
    | .writeAt _ => s.holds = true
    | .cachePut key _ body => s.Answers key body
    | .respond instanceId (.ok body) => s.Answers instanceId body
    | _ => True
  may _
    | .dfReply, _ => True
    | _, r => ∃ a, r = .ok a

/-! ## What it knows is so -/

/-- The reader `n` holds the lock and has a walk under way exactly if it thinks so; what it has
read under the lock is still so; and what it has seen was found by a walk. -/
structure Knows (n : Nat) (s : Reader) (w : Host) : Prop where
  holds : s.holds = true ↔ w.lock = some n
  walking : s.walking = true ↔ n ∈ w.walking
  now : ∀ t, s.now = some t → t ≤ w.clock
  volumes : s.holds = true → ∀ v, s.volumes = some v → w.volumes = v
  takenAt : s.holds = true → ∀ t, s.takenAt = some t → w.takenAt = t
  seen : ∀ v ∈ s.seen, v ∈ w.walks
  bodies : ∀ e ∈ s.bodies, MadeFrom w.walks e.1 e.2

/-- The invariant of the host with `N` readers. -/
structure Guarded (N : Nat) (w : Host) : Prop where
  known : ∀ n, w.lock = some n → n < N
  /-- Who has a walk under way holds the lock, -/
  holder : ∀ n ∈ w.walking, w.lock = some n
  /-- and has only one. -/
  one : w.walking.length ≤ 1
  volumes : ∀ v, w.volumes = some v → v ∈ w.walks
  cache : ∀ key t body, w.cache key = some (t, body) → MadeFrom w.walks key body

theorem MadeFrom.mono {walks walks' : List Snapshot} {instanceId : String} {body : Option DiskBody}
    (h : MadeFrom walks instanceId body) (hsub : ∀ v ∈ walks, v ∈ walks') :
    MadeFrom walks' instanceId body := by
  intro b hb
  obtain ⟨walk, hwalk, hmade⟩ := h b hb
  exact ⟨walk, hsub walk hwalk, hmade⟩

theorem Knows.answers {n : Nat} {s : Reader} {w : Host} (h : Knows n s w) {instanceId : String}
    {body : Option DiskBody} (hanswers : s.Answers instanceId body) :
    MadeFrom w.walks instanceId body := by
  rcases hanswers with hcached | hmade
  · exact h.bodies _ hcached
  · exact hmade.mono h.seen

/-! ## The readers keep to it -/

section Programs
variable {k : String} {s : Reader}

theorem reading_call {α : Type} {c : DiskCall} {f : c.Answer → Reading α}
    {Q : Except Exn α → Reader → Prop} (hallowed : (reading k).allowed s c)
    (hmay : ∀ r, (reading k).may s c r → ∃ a, r = .ok a)
    (hnext : ∀ a, (f a).Relies (reading k) Q ((reading k).after s c (.ok a))) :
    (ask c >>= f).Relies (reading k) Q s := by
  refine Action.relies_call hallowed (fun e he => ?_) fun a _ => hnext a
  obtain ⟨a, ha⟩ := hmay _ he
  cases ha

/-- The look at the cache: what is found was seen, and if nothing is, the cache has expired. -/
theorem cachedSnapshot_reading (k : String) (s : Reader) :
    cachedSnapshot.Relies (reading k) (fun r s' => s'.holds = s.holds ∧ s'.walking = s.walking ∧
      ((∃ v, r = .ok (some v) ∧ v ∈ s'.seen) ∨ r = .ok none ∧ s'.Expired)) s := by
  unfold cachedSnapshot
  refine reading_call trivial (fun _ h => h) fun now => ?_
  refine reading_call trivial (fun _ h => h) fun volumes => ?_
  cases volumes with
  | none => exact ⟨rfl, rfl, .inr ⟨rfl, .inl rfl⟩⟩
  | some cached =>
    refine reading_call trivial (fun _ h => h) fun takenAt => ?_
    by_cases hfresh : now - takenAt < dfTtl
    · rw [if_pos hfresh]
      exact ⟨rfl, rfl, .inl ⟨cached, rfl, List.mem_cons_self⟩⟩
    · rw [if_neg hfresh]
      exact ⟨rfl, rfl, .inr ⟨rfl, .inr ⟨now, takenAt, rfl, rfl, not_lt.mp hfresh⟩⟩⟩

/-- A walk, by who holds the lock and has found the cache expired. -/
theorem walkHost_reading (hholds : s.holds = true) (hwalking : s.walking = false)
    (hexpired : s.Expired) : walkHost.Relies (reading k) (fun r s' => s'.holds = true ∧
      s'.walking = false ∧ ∀ v, r = .ok v → v ∈ s'.seen) s := by
  unfold walkHost
  refine reading_call ⟨hholds, hwalking, hexpired⟩ (fun _ h => h) fun _ => ?_
  refine Action.relies_call rfl (fun e _ => ⟨hholds, rfl, nofun⟩) fun entries _ => ?_
  refine reading_call ⟨hholds, List.mem_cons_self⟩ (fun _ h => h) fun _ => ?_
  refine reading_call trivial (fun _ h => h) fun now => ?_
  refine reading_call hholds (fun _ h => h) fun _ => ?_
  refine ⟨hholds, rfl, ?_⟩
  rintro v ⟨rfl⟩
  exact List.mem_cons_self

theorem lockedSnapshot_reading (hholds : s.holds = false) (hwalking : s.walking = false) :
    lockedSnapshot.Relies (reading k) (fun r s' => s'.holds = false ∧ s'.walking = false ∧
      ∀ v, r = .ok v → v ∈ s'.seen) s := by
  unfold lockedSnapshot
  refine reading_call ⟨hholds, hwalking⟩ (fun _ h => h) fun _ => ?_
  rw [Action.relies_bind, Action.relies_outcome]
  have hbody : snapshotUnderLock.Relies (reading k) (fun r s' => s'.holds = true ∧
      s'.walking = false ∧ ∀ v, r = .ok v → v ∈ s'.seen)
      ((reading k).after s .acquire (.ok ())) := by
    unfold snapshotUnderLock
    rw [Action.relies_bind]
    refine (cachedSnapshot_reading k _).mono ?_
    rintro r s' ⟨hh, hw, ⟨v, rfl, hseen⟩ | ⟨rfl, hexpired⟩⟩
    · refine ⟨hh, hw.trans hwalking, ?_⟩
      rintro v' ⟨rfl⟩
      exact hseen
    · exact walkHost_reading hh (hw.trans hwalking) hexpired
  refine hbody.mono ?_
  rintro r s' ⟨hh, hw, hseen⟩
  exact reading_call ⟨hh, hw⟩ (fun _ h => h) fun _ => ⟨rfl, hw, hseen⟩

theorem hostVolumesSnapshot_reading (hholds : s.holds = false) (hwalking : s.walking = false) :
    hostVolumesSnapshot.Relies (reading k) (fun r s' => s'.holds = false ∧ s'.walking = false ∧
      ∀ v, r = .ok v → v ∈ s'.seen) s := by
  unfold hostVolumesSnapshot
  rw [Action.relies_bind]
  refine (cachedSnapshot_reading k s).mono ?_
  rintro r s' ⟨hh, hw, ⟨v, rfl, hseen⟩ | ⟨rfl, -⟩⟩
  · refine ⟨hh.trans hholds, hw.trans hwalking, ?_⟩
    rintro v' ⟨rfl⟩
    exact hseen
  · exact lockedSnapshot_reading (hh.trans hholds) (hw.trans hwalking)

theorem instanceDisk_reading (instanceId : String) (hholds : s.holds = false)
    (hwalking : s.walking = false) : (instanceDisk instanceId).Relies (reading k)
      (fun r s' => s'.holds = false ∧ s'.walking = false ∧
        ∀ body, r = .ok body → MadeFrom s'.seen instanceId body) s := by
  unfold instanceDisk
  refine reading_call trivial (fun _ h => h) fun deployed => ?_
  rw [Action.relies_ite]
  refine ⟨fun _ => ?_, fun _ => ⟨hholds, hwalking, ?_⟩⟩
  · refine reading_call trivial (fun _ h => h) fun appBytes => ?_
    rw [Action.relies_bind]
    refine (hostVolumesSnapshot_reading hholds hwalking).mono ?_
    rintro (e | v) s' ⟨hh, hw, hseen⟩
    · exact ⟨hh, hw, nofun⟩
    · refine reading_call trivial (fun _ h => h) fun capturedAt => ⟨hh, hw, ?_⟩
      rintro body ⟨rfl⟩ b ⟨rfl⟩
      exact ⟨v, hseen v rfl, appBytes, capturedAt, rfl⟩
  · rintro body ⟨rfl⟩
    exact nofun

theorem cachedInstanceDisk_reading (instanceId : String) (hholds : s.holds = false)
    (hwalking : s.walking = false) : (cachedInstanceDisk instanceId).Relies (reading k)
      (fun r s' => ∀ body, r = .ok body → s'.Answers instanceId body) s := by
  have hproduce (now : Rat) (s : Reader) (hh : s.holds = false) (hw : s.walking = false) :
      (produceInto instanceId now (instanceDisk instanceId)).Relies (reading k)
        (fun r s' => ∀ body, r = .ok body → s'.Answers instanceId body) s := by
    unfold produceInto
    rw [Action.relies_bind]
    refine (instanceDisk_reading instanceId hh hw).mono ?_
    rintro (e | body) s' ⟨-, -, hmade⟩
    · exact nofun
    · refine reading_call (.inr (hmade body rfl)) (fun _ h => h) fun _ => ?_
      rintro body' ⟨rfl⟩
      exact .inr (hmade body rfl)
  unfold cachedInstanceDisk ttlGet
  refine reading_call trivial (fun _ h => h) fun hit => ?_
  refine reading_call trivial (fun _ h => h) fun now => ?_
  cases hit with
  | none => exact hproduce now _ hholds hwalking
  | some entry =>
    obtain ⟨t, body⟩ := entry
    dsimp only
    rw [Action.relies_ite]
    refine ⟨fun _ => ?_, fun _ => hproduce now _ hholds hwalking⟩
    rintro body' ⟨rfl⟩
    exact .inl List.mem_cons_self

theorem blocks_reading (instanceId : String) :
    (blocks instanceId ()).Relies (reading instanceId) (fun next _ => next = none) {} := by
  refine Action.relies_once.mpr ?_
  rw [Action.relies_bind, Action.relies_outcome]
  refine (cachedInstanceDisk_reading instanceId rfl rfl).mono ?_
  rintro (e | body) s hanswers
  · exact ⟨trivial, fun _ _ => rfl⟩
  · exact ⟨hanswers body rfl, fun _ _ => rfl⟩

end Programs

/-! ## Their steps -/

section Steps
variable {k : String} {n N : Nat} {s : Reader} {w w' : Host} {c : DiskCall}
  {r : Raises DiskCall.Answer Exn c}

theorem may_of_serve (served : serve n w c r w') : (reading k).may s c r := by
  cases c with
  | dfReply => trivial
  | isDeployed | appDirBytes | nowIso => exact served.1
  | _ => exact ⟨_, served.1⟩

/-- Whose walk is under way is alone with it. -/
theorem Guarded.alone (h : Guarded N w) (hn : n ∈ w.walking) : w.walking = [n] := by
  obtain ⟨m, hm⟩ := List.length_eq_one_iff.mp
    (Nat.le_antisymm h.one (List.length_pos_of_mem hn))
  rw [hm, List.mem_singleton] at hn
  rw [hm, hn]

/-- Where a reader holds the lock and has no walk under way, there is none. -/
theorem Guarded.idle (h : Guarded N w) (hknows : Knows n s w) (hholds : s.holds = true)
    (hwalking : s.walking = false) : w.walking = [] := by
  refine List.eq_nil_iff_forall_not_mem.mpr fun m hm => ?_
  obtain rfl : n = m := Option.some.inj ((hknows.holds.mp hholds).symm.trans (h.holder m hm))
  exact nomatch hwalking.symm.trans (hknows.walking.mpr hm)

/-- **A reader's own step keeps what it knows.** -/
theorem Knows.after (served : serve n w c r w') (h : Knows n s w) (hg : Guarded N w)
    (hallowed : (reading k).allowed s c) : Knows n ((reading k).after s c r) w' := by
  cases c with
  | monotonic =>
    obtain ⟨rfl, rfl⟩ := served
    exact { h with now := fun t ht => (Option.some.inj ht).ge }
  | readVolumes =>
    obtain ⟨rfl, rfl⟩ := served
    refine { h with volumes := fun _ v hv => Option.some.inj hv, seen := fun v hv => ?_ }
    rcases List.mem_append.mp hv with hnew | hold
    · exact hg.volumes v (Option.mem_toList.mp hnew)
    · exact h.seen v hold
  | readAt =>
    obtain ⟨rfl, rfl⟩ := served
    exact { h with takenAt := fun _ t ht => Option.some.inj ht }
  | writeVolumes volumes =>
    obtain ⟨rfl, rfl⟩ := served
    exact { h with volumes := fun _ v hv => Option.some.inj hv }
  | writeAt t =>
    obtain ⟨rfl, rfl⟩ := served
    exact { h with takenAt := fun _ t ht => Option.some.inj ht }
  | acquire =>
    obtain ⟨rfl, -, rfl⟩ := served
    exact
      { holds := iff_of_true rfl rfl
        walking := h.walking
        now := nofun
        volumes := fun _ => nofun
        takenAt := fun _ => nofun
        seen := h.seen
        bodies := h.bodies }
  | release =>
    obtain ⟨rfl, rfl⟩ := served
    exact
      { holds := iff_of_false nofun nofun
        walking := h.walking
        now := h.now
        volumes := nofun
        takenAt := nofun
        seen := h.seen
        bodies := h.bodies }
  | dfRequest =>
    obtain ⟨rfl, rfl⟩ := served
    exact { h with walking := iff_of_true rfl List.mem_cons_self }
  | dfReply =>
    have hdone : n ∉ w.walking.erase n := by
      rw [hg.alone (h.walking.mp hallowed)]
      simp
    cases r with
    | ok entries =>
      cases served
      exact
        { holds := h.holds
          walking := iff_of_false nofun hdone
          now := h.now
          volumes := h.volumes
          takenAt := h.takenAt
          seen := fun v hv => by
            rcases List.mem_cons.mp hv with rfl | hold
            · exact List.mem_cons_self
            · exact List.mem_cons_of_mem _ (h.seen v hold)
          bodies := fun e he => (h.bodies e he).mono fun _ => List.mem_cons_of_mem _ }
    | error e =>
      cases served
      exact { h with walking := iff_of_false nofun hdone }
  | cacheGet key =>
    obtain ⟨rfl, rfl⟩ := served
    cases hhit : w'.cache key with
    | none => exact h
    | some entry =>
      obtain ⟨t, body⟩ := entry
      refine { h with bodies := fun e he => ?_ }
      rcases List.mem_cons.mp he with rfl | hold
      · exact hg.cache key t body hhit
      · exact h.bodies e hold
  | cachePut key now body =>
    obtain ⟨rfl, rfl⟩ := served
    exact { h with }
  | isDeployed | appDirBytes | nowIso =>
    obtain ⟨-, rfl⟩ := served
    exact h
  | respond instanceId body =>
    obtain ⟨-, rfl⟩ := served
    exact h

/-- **No other reader's step disturbs it.** -/
theorem Knows.other {m : Nat} {t : Reader} (served : serve n w c r w') (h : Knows n s w)
    (hg : Guarded N w) (hallowed : (reading k).allowed s c) (hm : m ≠ n) (hother : Knows m t w) :
    Knows m t w' := by
  -- who holds the lock is alone with what it has read
  have hfree (hh : s.holds = true) : t.holds = false := by
    by_contra hth
    rw [Bool.not_eq_false] at hth
    exact hm (Option.some.inj ((hother.holds.mp hth).symm.trans (h.holds.mp hh)))
  cases c with
  | writeVolumes volumes =>
    obtain ⟨-, rfl⟩ := served
    exact { hother with volumes := fun hh => nomatch (hfree hallowed.1).symm.trans hh }
  | writeAt t =>
    obtain ⟨-, rfl⟩ := served
    exact { hother with takenAt := fun hh => nomatch (hfree hallowed).symm.trans hh }
  | acquire =>
    obtain ⟨-, hlock, rfl⟩ := served
    have hth : t.holds = false := by
      by_contra hth
      rw [Bool.not_eq_false] at hth
      exact nomatch hlock.symm.trans (hother.holds.mp hth)
    refine { hother with holds := iff_of_false (by simp [hth]) ?_ }
    exact fun hlock' => hm (Option.some.inj hlock').symm
  | release =>
    obtain ⟨-, rfl⟩ := served
    exact { hother with holds := iff_of_false (by simp [hfree hallowed.1]) nofun }
  | dfRequest =>
    obtain ⟨-, rfl⟩ := served
    refine { hother with walking := hother.walking.trans ?_ }
    exact ⟨List.mem_cons_of_mem n, fun hmem => (List.mem_cons.mp hmem).resolve_left hm⟩
  | dfReply =>
    have hwalking : t.walking = true ↔ m ∈ w.walking.erase n :=
      hother.walking.trans (List.mem_erase_of_ne hm).symm
    cases r with
    | ok entries =>
      cases served
      exact
        { holds := hother.holds
          walking := hwalking
          now := hother.now
          volumes := hother.volumes
          takenAt := hother.takenAt
          seen := fun v hv => List.mem_cons_of_mem _ (hother.seen v hv)
          bodies := fun e he => (hother.bodies e he).mono fun _ => List.mem_cons_of_mem _ }
    | error e =>
      cases served
      exact { hother with walking := hwalking }
  | cachePut key now body =>
    obtain ⟨-, rfl⟩ := served
    exact { hother with }
  | monotonic | readVolumes | readAt | isDeployed | appDirBytes | nowIso | cacheGet | respond =>
    obtain ⟨-, rfl⟩ := served
    exact hother

/-- **A step keeps the invariant of the host.** -/
theorem Guarded.serve (served : serve n w c r w') (hn : n < N) (hg : Guarded N w)
    (h : Knows n s w) (hallowed : (reading k).allowed s c) : Guarded N w' := by
  cases c with
  | writeVolumes volumes =>
    obtain ⟨-, rfl⟩ := served
    refine { hg with volumes := fun v hv => ?_ }
    cases hv
    exact h.seen _ hallowed.2
  | acquire =>
    obtain ⟨-, hlock, rfl⟩ := served
    refine { hg with known := fun m hm => ?_, holder := fun m hm => ?_ }
    · cases hm
      exact hn
    · exact nomatch hlock.symm.trans (hg.holder m hm)
  | release =>
    obtain ⟨-, rfl⟩ := served
    refine { hg with known := nofun, holder := fun m hm => ?_ }
    rw [hg.idle h hallowed.1 hallowed.2] at hm
    cases hm
  | dfRequest =>
    obtain ⟨-, rfl⟩ := served
    have hidle := hg.idle h hallowed.1 hallowed.2.1
    refine { hg with holder := fun m hm => ?_, one := ?_ }
    · rw [hidle, List.mem_singleton] at hm
      exact hm ▸ h.holds.mp hallowed.1
    · rw [hidle]
      exact Nat.le_refl 1
  | dfReply =>
    have hsub (m : Nat) (hm : m ∈ w.walking.erase n) : m ∈ w.walking := List.mem_of_mem_erase hm
    have hone : (w.walking.erase n).length ≤ 1 := List.length_erase_le.trans hg.one
    cases r with
    | ok entries =>
      cases served
      exact
        { known := hg.known
          holder := fun m hm => hg.holder m (hsub m hm)
          one := hone
          volumes := fun v hv => List.mem_cons_of_mem _ (hg.volumes v hv)
          cache := fun key t body hc => (hg.cache key t body hc).mono fun _ => List.mem_cons_of_mem _ }
    | error e =>
      cases served
      exact { hg with holder := fun m hm => hg.holder m (hsub m hm), one := hone }
  | cachePut key now body =>
    obtain ⟨-, rfl⟩ := served
    refine { hg with cache := fun key' t body' hc => ?_ }
    dsimp only at hc
    by_cases hkey : key' = key
    · subst hkey
      rw [Function.update_self] at hc
      cases hc
      exact h.answers hallowed
    · rw [Function.update_of_ne hkey] at hc
      exact hg.cache key' t body' hc
  | writeAt t =>
    obtain ⟨-, rfl⟩ := served
    exact { hg with }
  | monotonic | readVolumes | readAt | isDeployed | appDirBytes | nowIso | cacheGet | respond =>
    obtain ⟨-, rfl⟩ := served
    exact hg

end Steps

/-! ## What is made of a walk -/

theorem digest_nodup (entries : List VolumeEntry) : ((digest entries).map Prod.fst).Nodup := by
  have h : (([] : Snapshot).map Prod.fst).Nodup := List.nodup_nil
  unfold digest
  generalize ([] : Snapshot) = snapshot at h ⊢
  induction entries generalizing snapshot with
  | nil => exact h
  | cons entry rest ih =>
    rw [List.foldl_cons]
    refine ih _ ?_
    split
    · exact h
    · exact h
    · exact nodup_upsert _ h

theorem mem_slice {snapshot : Snapshot} (hnodup : (snapshot.map Prod.fst).Nodup)
    {instanceId : String} (volume : VolumeUse) : volume ∈ slice instanceId snapshot ↔
      volume.name.startsWith (instanceId ++ "_") = true ∧
        (volume.name, volume.bytes) ∈ snapshot := by
  unfold slice
  simp only [List.mem_map, List.mem_filter, List.mem_mergeSort]
  constructor
  · rintro ⟨name, ⟨⟨e, he, rfl⟩, hown⟩, rfl⟩
    refine ⟨hown, ?_⟩
    rw [lookup_entry hnodup he]
    exact he
  · rintro ⟨hown, hmem⟩
    refine ⟨volume.name, ⟨⟨_, hmem, rfl⟩, hown⟩, ?_⟩
    rw [lookup_entry hnodup hmem]
    rfl

theorem tally_eq (volumes : List VolumeUse) : tally volumes =
    (!volumes.all (·.bytes.isSome), (volumes.filterMap (·.bytes)).sum) := by
  have hloop : tally volumes =
      (false || !volumes.all (·.bytes.isSome), 0 + (volumes.filterMap (·.bytes)).sum) := by
    unfold tally
    generalize false = unknown, (0 : Int) = total
    induction volumes generalizing unknown total with
    | nil => simp
    | cons volume rest ih =>
      rw [List.foldl_cons]
      cases hbytes : volume.bytes with
      | none => simp [ih, hbytes]
      | some bytes => simp [ih, hbytes, add_assoc]
  rw [hloop, Bool.false_or, zero_add]

theorem volumesBytes_diskBody (instanceId : String) (appBytes : Nat) (snapshot : Snapshot)
    (capturedAt : String) :
    (diskBody instanceId appBytes snapshot capturedAt).volumesBytes =
      if (diskBody instanceId appBytes snapshot capturedAt).volumes.all (·.bytes.isSome)
      then some ((diskBody instanceId appBytes snapshot capturedAt).volumes.filterMap (·.bytes)).sum
      else none := by
  unfold diskBody
  simp only [tally_eq]
  cases (slice instanceId snapshot).all (·.bytes.isSome) <;> rfl

/-! ## Runs -/

theorem walks_of_serve {n : Nat} {w w' : Host} {c : DiskCall} {r : Raises DiskCall.Answer Exn c}
    (served : serve n w c r w') {walk : Snapshot} (h : walk ∈ w'.walks) :
    walk ∈ w.walks ∨ ∃ entries, c = .dfReply ∧ r ≍ (.ok entries : Except Exn (List VolumeEntry)) ∧
      digest entries = walk := by
  cases c with
  | dfReply =>
    cases r with
    | ok entries =>
      cases served
      rcases List.mem_cons.mp h with rfl | hold
      · exact .inr ⟨entries, rfl, HEq.rfl, rfl⟩
      · exact .inl hold
    | error e =>
      cases served
      exact .inl h
  | acquire =>
    obtain ⟨-, -, rfl⟩ := served
    exact .inl h
  | _ =>
    obtain ⟨-, rfl⟩ := served
    exact .inl h

/-- What the walks have found was answered to one of them. -/
theorem walks_of_rounds {p q : Crew Replies Label Host} {es : List (Host × Event Replies)}
    (rounds : host.Rounds Asks blocks p es q) {walk : Snapshot} (h : walk ∈ q.world.walks) :
    walk ∈ p.world.walks ∨ ∃ w n k entries,
      (w, .called n k .dfReply (.ok entries)) ∈ es ∧ digest entries = walk := by
  induction rounds with
  | nil => exact .inl h
  | turn runs _ ih => exact ih h
  | step first _ ih =>
    rcases ih h with hnext | ⟨w, n, k, entries, hmem, heq⟩
    · cases first with
      | @call w w' ts n k c r next runs served =>
        rcases walks_of_serve served hnext with hold | ⟨entries, rfl, rfl, heq⟩
        · exact .inl hold
        · exact .inr ⟨w, n, k, entries, List.mem_cons_self, heq⟩
      | start haccepts => exact .inl hnext
      | drift hdrift =>
        rw [hdrift.2] at hnext
        exact .inl hnext
    · exact .inr ⟨w, n, k, entries, List.mem_cons_of_mem _ hmem, heq⟩

/-- Every reader begins with an empty record. -/
def AtStart (k : String) (next : Option (Label k)) (s : Reader) : Prop := next.isSome → s = {}

theorem relied_reading :
    Relied host Asks blocks reading AtStart Knows Guarded where
  block := by
    rintro k l s hstart
    obtain rfl := hstart rfl
    refine (blocks_reading k).mono ?_
    rintro next s rfl
    exact nofun
  may served _ _ _ _ := may_of_serve served
  own served _ hg h hallowed := h.after served hg hallowed
  other served _ hg h hallowed hm hother := h.other served hg hallowed hm hother
  drift := by
    rintro w w' n s N ⟨hclock, hsame⟩ - h
    rw [hsame]
    exact { h with now := fun t ht => (h.now t ht).trans hclock }
  fresh := by
    rintro ⟨k, rest⟩ n w haccepts hg
    obtain rfl : rest = .pure (some ()) := haccepts
    refine ⟨{}, fun _ => rfl, ?_⟩
    have hunknown : w.lock ≠ some n := fun hlock => Nat.lt_irrefl n (hg.known n hlock)
    exact
      { holds := iff_of_false nofun hunknown
        walking := iff_of_false nofun fun hmem => hunknown (hg.holder n hmem)
        now := nofun
        volumes := nofun
        takenAt := nofun
        seen := nofun
        bodies := nofun }
  inv_serve served hn hg h hallowed := hg.serve served hn h hallowed
  inv_drift := by
    rintro w w' N ⟨hclock, hsame⟩ hg
    rw [hsame]
    exact { hg with }
  inv_succ hg := { hg with known := fun n hn => Nat.lt_succ_of_lt (hg.known n hn) }

/-- A host whose caches are empty. -/
structure Host.Fresh (w : Host) : Prop where
  volumes : w.volumes = none
  lock : w.lock = none
  cache : ∀ key, w.cache key = none
  walking : w.walking = []

theorem Host.Fresh.agrees {w : Host} (h : w.Fresh) :
    Relied.Agrees reading AtStart Knows Guarded (⟨w, []⟩ : Crew Replies Label Host) := by
  refine ⟨?_, fun n t ht => nomatch ht⟩
  exact
    { known := fun n hn => nomatch h.lock.symm.trans hn
      holder := fun n hn => nomatch (h.walking ▸ hn)
      one := by rw [h.walking]; exact Nat.zero_le 1
      volumes := fun v hv => nomatch h.volumes.symm.trans hv
      cache := fun key t body hc => nomatch (h.cache key).symm.trans hc }

section Runs
variable {w w' : Host} {q : Crew Replies Label Host} {es : List (Host × Event Replies)}
  {n : Nat} {k : String}

/-- **One walk at a time, and one a minute.**  Whatever the interleaving of the readers, a walk is
asked for only while none is under way, and only if the cache is empty or its time is at least a
minute ago. -/
theorem one_walk_a_minute (hw : w.Fresh) (rounds : host.Rounds Asks blocks ⟨w, []⟩ es q)
    {r : Except Exn Unit} (he : (w', .called n k .dfRequest r) ∈ es) :
    w'.walking = [] ∧ (w'.volumes = none ∨ dfTtl ≤ w'.clock - w'.takenAt) := by
  obtain ⟨N, s, hg, h, ⟨hholds, hwalking, hexpired⟩, -⟩ :=
    relied_reading.at_call rounds hw.agrees he
  refine ⟨hg.idle h hholds hwalking, ?_⟩
  rcases hexpired with hnone | ⟨now, at', hnow, hat, hold⟩
  · exact .inl (h.volumes hholds none hnone)
  · rw [h.takenAt hholds at' hat]
    exact .inr (hold.trans (sub_le_sub_right (h.now now hnow) at'))

/-! ### The answers -/

/-- **Each instance its own, from one walk.**  Whatever the interleaving, and whether or not it comes
from the cache, an answer for an instance is made from the answer to one walk: its volumes are
exactly those whose names begin with `<id>_`, with the sizes of that walk, and there is a sum, and
with the directory a total, exactly if all of them are known. -/
theorem answers_own_volumes (hw : w.Fresh) {es' : List (Host × Event Replies)}
    {instanceId : String} {body : DiskBody} {r : Except Exn Unit}
    (hwalks : w.walks = [])
    (rounds : host.Rounds Asks blocks ⟨w, []⟩
      (es ++ (w', .called n k (.respond instanceId (.ok (some body))) r) :: es') q) :
    body.instanceId = instanceId ∧
      ∃ w₁ n₁ k₁ entries, (w₁, .called n₁ k₁ .dfReply (.ok entries)) ∈ es ∧
        (∀ volume, volume ∈ body.volumes ↔
          volume.name.startsWith (instanceId ++ "_") = true ∧
            (volume.name, volume.bytes) ∈ digest entries) ∧
        body.volumesBytes = (if body.volumes.all (·.bytes.isSome)
          then some (body.volumes.filterMap (·.bytes)).sum else none) ∧
        body.totalBytes = body.volumesBytes.map fun bytes => (body.appDirBytes : Int) + bytes := by
  obtain ⟨N, s, -, h, hanswers, -⟩ := relied_reading.at_call rounds hw.agrees
    (List.mem_append_right _ List.mem_cons_self)
  obtain ⟨walk, hwalk, appBytes, capturedAt, rfl⟩ := h.answers hanswers body rfl
  obtain ⟨m, m', hbefore, rfl, -, -⟩ := rounds.served
  rcases walks_of_rounds hbefore hwalk with hold | ⟨w₁, n₁, k₁, entries, hmem, rfl⟩
  · rw [hwalks] at hold
    cases hold
  · exact ⟨rfl, w₁, n₁, k₁, entries, hmem, mem_slice (digest_nodup entries),
      volumesBytes_diskBody instanceId appBytes (digest entries) capturedAt,
      rfl⟩

end Runs

/-! ### Two instances, more than a minute apart -/

/-- What the daemon answers. -/
def twoVolumes : List VolumeEntry :=
  [⟨some "b_db", none⟩, ⟨some "a_data", some (.int 5)⟩, ⟨some "a_logs", some (.int 2)⟩]

/-- Calls that succeed. -/
def obliging (n : Nat) (w : Host) : (c : DiskCall) → Option (Raises DiskCall.Answer Exn c × Host)
  | .monotonic => some (.ok w.clock, w)
  | .readVolumes => some (.ok w.volumes, w)
  | .readAt => some (.ok w.takenAt, w)
  | .writeVolumes volumes => some (.ok (), { w with volumes := some volumes })
  | .writeAt t => some (.ok (), { w with takenAt := t })
  | .acquire => if w.lock = none then some (.ok (), { w with lock := some n }) else none
  | .release => some (.ok (), { w with lock := none })
  | .dfRequest => some (.ok (), { w with walking := n :: w.walking })
  | .dfReply => some (.ok twoVolumes,
      { w with walking := w.walking.erase n, walks := digest twoVolumes :: w.walks })
  | .isDeployed _ => some (.ok true, w)
  | .appDirBytes _ => some (.ok 3, w)
  | .nowIso => some (.ok "2026-01-01T00:00:00+00:00", w)
  | .cacheGet key => some (.ok (w.cache key), w)
  | .cachePut key now body =>
    some (.ok (), { w with cache := Function.update w.cache key (some (now, body)) })
  | .respond _ _ => some (.ok (), w)

theorem obliging_serves (n : Nat) (k : String) (w : Host) (c : DiskCall)
    (r : Raises DiskCall.Answer Exn c) (w' : Host) (h : obliging n w c = some (r, w')) :
    host.serve n k w c r w' := by
  cases c with
  | acquire =>
    simp only [obliging] at h
    split at h
    case isTrue hfree =>
      cases h
      exact ⟨rfl, hfree, rfl⟩
    case isFalse => cases h
  | isDeployed | appDirBytes | nowIso =>
    cases h
    exact ⟨⟨_, rfl⟩, rfl⟩
  | dfReply =>
    cases h
    exact rfl
  | _ =>
    cases h
    exact ⟨rfl, rfl⟩

/-- Some calls of a reader. -/
def readsFor (n : Nat) (k : String) (m : Nat) (p : Prog (Replies k) (Option Unit)) (w : Host) :=
  roundsFor (obliging n) (blocks k) n m p w

/-- A host before its first reader. -/
def emptyHost : Host where
  clock := 0
  volumes := none
  takenAt := 0
  lock := none
  cache _ := none
  walking := []
  walks := []

theorem emptyHost_fresh : emptyHost.Fresh := ⟨rfl, rfl, fun _ => rfl, rfl⟩

/-- The first one has its answer, -/
def firstAnswer := readsFor 0 "a" 18 (.pure (some ())) emptyHost

/-- and gives it. -/
def firstDone := readsFor 0 "a" 1 firstAnswer.2.2 firstAnswer.2.1

/-- A minute later another instance's reader is about to walk, -/
def secondDue := readsFor 1 "b" 12 (.pure (some ())) { firstDone.2.1 with clock := 61 }

/-- and asks for it. -/
def secondAsked := readsFor 1 "b" 1 secondDue.2.2 secondDue.2.1

/-- The answer to the first. -/
def firstBody : DiskBody := diskBody "a" 3 (digest twoVolumes) "2026-01-01T00:00:00+00:00"

theorem firstDone_events : firstDone.1 =
    [(firstAnswer.2.1, .called 0 "a" (.respond "a" (.ok (some firstBody))) (.ok ()))] := rfl

theorem secondAsked_events : secondAsked.1 =
    [(secondDue.2.1, .called 1 "b" .dfRequest (.ok ()))] := by
  with_unfolding_all rfl

/-- The events of the two of them. -/
def twoEvents : List (Host × Event Replies) :=
  ([(emptyHost, .started 0)] ++ firstAnswer.1 ++ firstDone.1) ++
    ((firstDone.2.1, .drifted) :: ({ firstDone.2.1 with clock := 61 }, .started 1) ::
      (secondDue.1 ++ secondAsked.1))

theorem two_rounds : ∃ q, host.Rounds Asks blocks ⟨emptyHost, []⟩ twoEvents q := by
  have halone (n : Nat) (k : String) (m : Nat) (p : Prog (Replies k) (Option Unit)) (w : Host)
      (ts : List (Worker Replies Label)) (hn : ts[n]? = some ⟨k, p⟩) :
      host.Rounds Asks blocks ⟨w, ts⟩ (readsFor n k m p w).1
        ⟨(readsFor n k m p w).2.1, ts.set n ⟨k, (readsFor n k m p w).2.2⟩⟩ :=
    Shared.Rounds.alone (obliging_serves n k) m p w ts hn
  have hasks (k : String) : Asks (⟨k, .pure (some ())⟩ : Worker Replies Label) := rfl
  have hstarted : host.Rounds Asks blocks ⟨emptyHost, []⟩ [(emptyHost, .started 0)]
      ⟨emptyHost, [⟨"a", .pure (some ())⟩]⟩ := .step (.start (hasks "a")) (.nil _)
  have hfirst : host.Rounds Asks blocks ⟨emptyHost, [⟨"a", .pure (some ())⟩]⟩
      (firstAnswer.1 ++ firstDone.1) ⟨firstDone.2.1, [⟨"a", firstDone.2.2⟩]⟩ :=
    (halone 0 "a" 18 (.pure (some ())) emptyHost [⟨"a", .pure (some ())⟩] rfl).append
      (halone 0 "a" 1 firstAnswer.2.2 firstAnswer.2.1 [⟨"a", firstAnswer.2.2⟩] rfl)
  have hsecond : host.Rounds Asks blocks
      ⟨{ firstDone.2.1 with clock := 61 }, [⟨"a", firstDone.2.2⟩, ⟨"b", .pure (some ())⟩]⟩
      (secondDue.1 ++ secondAsked.1)
      ⟨secondAsked.2.1, [⟨"a", firstDone.2.2⟩, ⟨"b", secondAsked.2.2⟩]⟩ :=
    (halone 1 "b" 12 (.pure (some ())) { firstDone.2.1 with clock := 61 }
      [⟨"a", firstDone.2.2⟩, ⟨"b", .pure (some ())⟩] rfl).append
      (halone 1 "b" 1 secondDue.2.2 secondDue.2.1
        [⟨"a", firstDone.2.2⟩, ⟨"b", secondDue.2.2⟩] rfl)
  have hlater : host.Rounds Asks blocks ⟨firstDone.2.1, [⟨"a", firstDone.2.2⟩]⟩
      ((firstDone.2.1, .drifted) :: ({ firstDone.2.1 with clock := 61 }, .started 1) ::
        (secondDue.1 ++ secondAsked.1))
      ⟨secondAsked.2.1, [⟨"a", firstDone.2.2⟩, ⟨"b", secondAsked.2.2⟩]⟩ :=
    .step (.drift ⟨by decide +kernel, rfl⟩) (.step (.start (hasks "b")) hsecond)
  exact ⟨_, (hstarted.append hfirst).append hlater⟩

/-- The second walk is asked for after its minute. -/
theorem one_walk_a_minute_second : secondDue.2.1.walking = [] ∧
    (secondDue.2.1.volumes = none ∨ dfTtl ≤ secondDue.2.1.clock - secondDue.2.1.takenAt) := by
  obtain ⟨q, rounds⟩ := two_rounds
  refine one_walk_a_minute (n := 1) (k := "b") (r := .ok ()) emptyHost_fresh rounds ?_
  simp [twoEvents, secondAsked_events]

/-- The first instance is told of the volumes of the walk with its prefix. -/
theorem answers_own_volumes_first : ∃ w₁ n₁ k₁ entries,
    (w₁, Event.called n₁ k₁ .dfReply (.ok entries)) ∈ [(emptyHost, .started 0)] ++ firstAnswer.1 ∧
      ∀ volume, volume ∈ firstBody.volumes ↔
        volume.name.startsWith ("a" ++ "_") = true ∧
          (volume.name, volume.bytes) ∈ digest entries := by
  obtain ⟨q, rounds⟩ := two_rounds
  rw [twoEvents, firstDone_events, List.append_assoc _ [_]] at rounds
  obtain ⟨-, w₁, n₁, k₁, entries, hmem, hvolumes, -⟩ :=
    answers_own_volumes emptyHost_fresh rfl rounds
  exact ⟨w₁, n₁, k₁, entries, hmem, hvolumes⟩

end Greffer.Metrics

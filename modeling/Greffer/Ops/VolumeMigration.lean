import Greffer.Ops.Batch
import Greffer.Ops.NamespaceVolumes

/-! # Volumes across boots

What the namespacing migrations leave in the docker volumes, over any sequence of
boots.  A boot is a run of `applyPending`, stopped anywhere; the next boot starts
from the volumes and the ledger the last one left.

**A target that exists is taken to be complete.**  A create that took effect
followed by a copy that did not leaves a target the next boot skips with no error
counted; the ledger then records the migration.  So the data is kept exactly as
long as no boot ends with a target created and not copied (`Host.halfDone`), no
copy fails, and no raw volume that is there is reported missing.  The invariant
`Kept` carries this through every step; `D` is the set of pairs already moved.
-/
namespace Greffer.Ops
open Effects

/-! ## Volumes and the host -/

/-- What a volume holds: the data at each path. -/
abbrev Contents := String → Option String

namespace Contents

/-- `cp -a /from/. /to/`: what `s` holds, over what was there. -/
def overlay (t s : Contents) : Contents := fun path => (s path).or (t path)

/-- `t` holds everything `s` holds. -/
def Includes (t s : Contents) : Prop := ∀ path data, s path = some data → t path = some data

theorem overlay_includes (t s : Contents) : (t.overlay s).Includes s := by
  intro path data h
  simp [overlay, h]

end Contents

/-- The entries of the data root and their compose files, which no boot changes. -/
structure DataRoot where
  entries : List String
  compose : String → Option ComposeFile
  listed : ∀ i, compose i ≠ none → i ∈ entries

/-- The state of a node between two docker commands. -/
structure Host where
  ledger : LedgerFile
  sentinel : Bool
  volumes : String → Option Contents
  /-- The volume that the last create made, while no copy into it has succeeded. -/
  halfDone : Option String

namespace Host
variable (w : Host)

/-- The ids the ledger file records. -/
def recorded : List String :=
  match w.ledger with
  | .object l => l.appliedIds
  | _ => []

/-- What a container that mounts the volume finds in it. -/
def mounted (v : String) : Contents := (w.volumes v).getD fun _ => none

/-- `docker volume create`, of a volume that is there already a success too. -/
def created (v : String) : Host :=
  match w.volumes v with
  | some _ => w
  | none => { w with
      volumes := fun u => if u = v then some (fun _ => none) else w.volumes u
      halfDone := some v }

/-- The volumes after a copy into `dst` left it with `c`; docker creates the
volumes a container mounts. -/
def filled (src dst : String) (c : Contents) : String → Option Contents := fun u =>
  if u = dst then some c else if u = src then some (w.mounted src) else w.volumes u

/-- A copy that succeeded. -/
def copied (src dst : String) : Host := { w with
  volumes := w.filled src dst ((w.mounted dst).overlay (w.mounted src))
  halfDone := if w.halfDone = some dst then none else w.halfDone }

end Host

/-- **The node.**  Per command docker succeeds or fails; a failed inspect reads as
"missing", a failed copy may leave anything in its target. -/
def host (root : DataRoot) : Machine (Raises Answer Exn) Host where
  serve w c r w' :=
    match c, r with
    | .readLedger, r => r = .ok w.ledger ∧ w' = w
    | .replaceLedger l, .ok () => w' = { w with ledger := .object l }
    | .sentinelExists, r => r = .ok w.sentinel ∧ w' = w
    | .unlinkSentinel, .ok () => w' = { w with sentinel := false }
    | .isDataRoot, r => r = .ok true ∧ w' = w
    | .listDataRoot, r => (∀ entries, r = .ok entries → entries = root.entries) ∧ w' = w
    | .isCompose i, r => r = .ok (root.compose i).isSome ∧ w' = w
    | .readCompose i, r => r = .ok ((root.compose i).getD .unreadable) ∧ w' = w
    | .volumeInspect v, r => (r = .ok true → w.volumes v ≠ none) ∧ w' = w
    | .volumeCreate v, .ok () => w' = w.created v
    | .runCopy src dst, .ok () => w' = w.copied src dst
    | .runCopy src dst, .error _ =>
      w' = w ∨ ∃ c, w' = { w with volumes := w.filled src dst c }
    | _, _ => w' = w

/-! ## What is to be moved -/

section
variable (root : DataRoot)

/-- An instance declares a volume that the rule takes from `source` to `target`. -/
def Declares (rule : PairRule) (source target : String) : Prop :=
  ∃ i declared decl, root.compose i = some (.volumes declared) ∧ hiddenEntry i = false ∧
    decl ∈ declared ∧ rule i decl = .ok (some (source, target))

/-- The two migrations and what each takes to be raw. -/
def movers : List (String × PairRule) :=
  [(namespaceCatalogVolumes.id, catalogPair), (namespaceUndeclaredVolumeMounts.id, undeclaredPair)]

/-- One of the two migrations moves `source` to `target`. -/
def Moves (source target : String) : Prop := ∃ m ∈ movers, Declares root m.2 source target

/-- The volume was there at the start, or a migration may create it. -/
def Live (w₀ : Host) (v : String) : Prop := w₀.volumes v ≠ none ∨ ∃ s, Moves root s v

/-- No two volumes are to be moved to one target. -/
def Unambiguous (w₀ : Host) : Prop :=
  ∀ s s' t, Moves root s t → Moves root s' t → Live root w₀ s → Live root w₀ s' → s = s'

/-- The step is one docker answers as it should: no raw volume that is there is
reported missing, and no copy fails. -/
def Reliable (w : Host) (c : OpsCall) (r : Raises Answer Exn c) (_ : Host) : Prop :=
  match c, r with
  | .volumeInspect v, .ok false => (∃ t, Moves root v t) → w.volumes v = none
  | .runCopy _ _, r => r = .ok ()
  | _, _ => True

/-- The nodes on which every step is reliable. -/
abbrev reliableHost : Machine (Raises Answer Exn) Host := (host root).restrict (Reliable root)

/-- **The data is there**: if the source was there at the start and the target was
not, the target holds all the source held. -/
def Moved (w₀ w : Host) (source target : String) : Prop :=
  ∀ c, w₀.volumes source = some c → w₀.volumes target = none →
    ∃ c', w.volumes target = some c' ∧ c'.Includes c

/-- **The invariant**, with the pairs `D` known to be moved. -/
structure Kept (w₀ : Host) (D : String → String → Prop) (w : Host) : Prop where
  noSentinel : w.sentinel = false
  source : ∀ s t, Moves root s t → w₀.volumes s ≠ none → w.volumes s = w₀.volumes s
  live : ∀ v, w.volumes v ≠ none → Live root w₀ v
  /-- A target is absent, half done, or complete. -/
  target : ∀ s t, Moves root s t →
    w.volumes t = none ∨ w.halfDone = some t ∨ Moved w₀ w s t
  done : ∀ s t, D s t → Moves root s t ∧ Moved w₀ w s t
  ledger : ∀ m ∈ movers, m.1 ∈ w.recorded →
    m.1 ∈ w₀.recorded ∨ ∀ s t, Declares root m.2 s t → Moved w₀ w s t

end

section Steps
variable {root : DataRoot} {w₀ w : Host} {D D' : String → String → Prop} {s t : String}

theorem Kept.imp (h : Kept root w₀ D w)
    (hD : ∀ s t, D' s t → D s t ∨ (Moves root s t ∧ Moved w₀ w s t)) : Kept root w₀ D' w :=
  { h with done := fun s t hst => (hD s t hst).elim (h.done s t) id }

theorem Moved.created (h : Moved w₀ w s t) (v : String) : Moved w₀ (w.created v) s t := by
  intro c hs ht
  obtain ⟨c', hc', hincl⟩ := h c hs ht
  refine ⟨c', ?_, hincl⟩
  unfold Host.created
  cases hv : w.volumes v with
  | some _ => exact hc'
  | none =>
    have hne : t ≠ v := by
      rintro rfl
      rw [hv] at hc'
      cases hc'
    simp only [if_neg hne]
    exact hc'

/-- A create keeps the invariant, and leaves its volume there. -/
theorem Kept.created (h : Kept root w₀ D w) (hhalf : w.halfDone = none) (hm : Moves root s t) :
    Kept root w₀ D (w.created t) := by
  have hledger : (w.created t).recorded = w.recorded := by
    unfold Host.created Host.recorded
    cases w.volumes t <;> rfl
  have hvolume : ∀ v, v ≠ t ∨ w.volumes v ≠ none → (w.created t).volumes v = w.volumes v := by
    intro v hv
    unfold Host.created
    cases ht : w.volumes t with
    | some _ => rfl
    | none =>
      have hne : v ≠ t := hv.elim id fun hv hx => hv (hx ▸ ht)
      simp only [if_neg hne]
  refine ⟨?_, ?_, ?_, ?_, ?_, ?_⟩
  · unfold Host.created
    cases w.volumes t <;> exact h.noSentinel
  · intro s' t' hm' hs'
    have hsrc := h.source s' t' hm' hs'
    rw [hvolume s' (.inr (hsrc ▸ hs')), hsrc]
  · intro v hv
    by_cases hvt : v = t
    · exact .inr ⟨s, hvt ▸ hm⟩
    · exact h.live v (hvolume v (.inl hvt) ▸ hv)
  · intro s' t' hm'
    rcases h.target s' t' hm' with hnone | hh | hmoved
    · by_cases htt : t' = t
      · subst htt
        refine .inr (.inl ?_)
        unfold Host.created
        rw [hnone]
      · exact .inl (hvolume t' (.inl htt) ▸ hnone)
    · rw [hhalf] at hh
      cases hh
    · exact .inr (.inr (hmoved.created t))
  · exact fun s' t' hD => ⟨(h.done s' t' hD).1, (h.done s' t' hD).2.created t⟩
  · intro m hm hrec
    rw [hledger] at hrec
    exact (h.ledger m hm hrec).imp id fun hall s t hd => (hall s t hd).created _

/-- A copy between the volumes of a pair keeps every pair that was moved, since no
other live source has its target. -/
theorem Kept.moved_copied (h : Kept root w₀ D w) (hunique : Unambiguous root w₀)
    (hm : Moves root s t) (hlive : w.volumes s ≠ none) {s' t' : String} (hm' : Moves root s' t')
    (hmoved : t' = t ∨ Moved w₀ w s' t') : Moved w₀ (w.copied s t) s' t' := by
  intro c hs' ht'
  by_cases htt : t' = t
  · subst htt
    have hss : s' = s := hunique s' s t' hm' hm (.inl (by simp [hs'])) (h.live s hlive)
    subst hss
    have hsrc : w.volumes s' = some c := (h.source s' t' hm' (by simp [hs'])).trans hs'
    have hmount : w.mounted s' = c := by simp [Host.mounted, hsrc]
    refine ⟨(w.mounted t').overlay (w.mounted s'), ?_, ?_⟩
    · simp [Host.copied, Host.filled]
    · exact hmount ▸ Contents.overlay_includes _ _
  · obtain ⟨c', hc', hincl⟩ := (hmoved.resolve_left htt) c hs' ht'
    refine ⟨c', ?_, hincl⟩
    by_cases hts : t' = s
    · subst hts
      simp [Host.copied, Host.filled, htt, Host.mounted, hc']
    · simp [Host.copied, Host.filled, htt, hts, hc']

/-- A copy between the volumes of a pair keeps the invariant, and moves the pair. -/
theorem Kept.copied (h : Kept root w₀ D w) (hunique : Unambiguous root w₀)
    (hm : Moves root s t) (hlive : w.volumes s ≠ none)
    (hnot : (∃ u, Moves root t u) → w₀.volumes t = none) : Kept root w₀ D (w.copied s t) := by
  have hvolume : ∀ v, v ≠ t → (w.copied s t).volumes v = w.volumes v := by
    intro v hv
    by_cases hvs : v = s
    · subst hvs
      obtain ⟨c, hc⟩ := Option.ne_none_iff_exists'.mp hlive
      simp [Host.copied, Host.filled, hv, Host.mounted, hc]
    · simp [Host.copied, Host.filled, hv, hvs]
  refine ⟨h.noSentinel, ?_, ?_, ?_, ?_, ?_⟩
  · intro s' t' hm' hs'
    have hne : s' ≠ t := by
      rintro rfl
      exact hs' (hnot ⟨t', hm'⟩)
    rw [hvolume s' hne, h.source s' t' hm' hs']
  · intro v hv
    by_cases hvt : v = t
    · exact .inr ⟨s, hvt ▸ hm⟩
    · exact h.live v (hvolume v hvt ▸ hv)
  · intro s' t' hm'
    by_cases htt : t' = t
    · exact .inr (.inr (h.moved_copied hunique hm hlive hm' (.inl htt)))
    · rcases h.target s' t' hm' with hnone | hh | hmoved
      · exact .inl (hvolume t' htt ▸ hnone)
      · refine .inr (.inl ?_)
        simp [Host.copied, hh, htt]
      · exact .inr (.inr (h.moved_copied hunique hm hlive hm' (.inr hmoved)))
  · intro s' t' hD
    obtain ⟨hm', hmoved⟩ := h.done s' t' hD
    exact ⟨hm', h.moved_copied hunique hm hlive hm' (.inr hmoved)⟩
  · intro m hmem hrec
    refine (h.ledger m hmem hrec).imp id fun hall s' t' hd => ?_
    exact h.moved_copied hunique hm hlive ⟨m, hmem, hd⟩ (.inr (hall s' t' hd))

/-- After a copy between the volumes of a pair nothing is half done. -/
theorem settled_copied (hhalf : w.halfDone = none) :
    ((w.created t).copied s t).halfDone = none := by
  unfold Host.created Host.copied
  cases w.volumes t <;> simp [hhalf]

end Steps

/-! ## The bodies keep the invariant -/

section Bodies
variable {root : DataRoot} {w₀ w : Host} {D : String → String → Prop} {rule : PairRule}

/-- What a scan leaves: nothing half done, and if it counted no error, the pairs
`new` moved. -/
structure Scanned (root : DataRoot) (w₀ : Host) (D new : String → String → Prop) (t : Tally)
    (r : Except Exn Tally) (w : Host) : Prop where
  settled : w.halfDone = none
  errors : ∀ t', r = .ok t' → t.errors ≤ t'.errors ∧
    (t'.errors = t.errors → Kept root w₀ (fun s u => D s u ∨ new s u) w)

/-- From any tally and any kept node with nothing half done, the script keeps the
invariant and has scanned `new`. -/
def Scans (root : DataRoot) (w₀ : Host) (f : Tally → Script Tally)
    (new : String → String → Prop) : Prop :=
  ∀ D t w, Kept root w₀ D w → w.halfDone = none →
    (f t).Always (reliableHost root) (Kept root w₀ D) (Scanned root w₀ D new t) w

variable {new new' : String → String → Prop} {f g : Tally → Script Tally}

theorem scanned_error {t : Tally} (e : Exn) (hhalf : w.halfDone = none) :
    Scanned root w₀ D new t (.error e) w := ⟨hhalf, fun _ ht => by cases ht⟩

theorem Scans.mono (h : Scans root w₀ f new) (hsub : ∀ s u, new' s u → new s u) :
    Scans root w₀ f new' := by
  intro D t w hw hhalf
  refine (h D t w hw hhalf).mono fun r w' _ hr => ⟨hr.settled, fun t' ht' => ?_⟩
  refine ⟨(hr.errors t' ht').1, fun hsame => ((hr.errors t' ht').2 hsame).imp fun s u hsu => ?_⟩
  exact .inl (hsu.imp_right (hsub s u))

theorem scans_raise (e : Exn) : Scans root w₀ (fun _ => .raise e) new :=
  fun _ _ _ hw hhalf => ⟨hw, scanned_error e hhalf⟩

theorem scans_return {step : Tally → Tally} (hstep : ∀ t, (step t).errors = t.errors) :
    Scans root w₀ (fun t => return step t) fun _ _ => False := by
  intro D t w hw hhalf
  refine ⟨hw, hhalf, fun t' ht' => ?_⟩
  obtain rfl := Except.ok.inj ht'
  exact ⟨(hstep t).ge, fun _ => hw.imp fun s u hsu => .inl (hsu.resolve_right id)⟩

theorem Scans.bind (hf : Scans root w₀ f new) (hg : Scans root w₀ g new') :
    Scans root w₀ (fun t => f t >>= g) fun s u => new s u ∨ new' s u := by
  intro D t w hw hhalf
  rw [Action.always_bind]
  refine (hf D t w hw hhalf).mono ?_
  rintro (e | t₁) w₁ hw₁ hr
  · exact scanned_error e hr.settled
  obtain ⟨hle, hsame⟩ := hr.errors t₁ rfl
  by_cases herr : t₁.errors = t.errors
  · refine (hg _ t₁ w₁ (hsame herr) hr.settled).imp
      (fun w' hw' => hw'.imp fun s u hD => .inl (.inl hD)) fun r w' _ hr' => ?_
    refine ⟨hr'.settled, fun t' ht' => ?_⟩
    obtain ⟨hle', hsame'⟩ := hr'.errors t' ht'
    refine ⟨hle.trans hle', fun hx => (hsame' (hx.trans herr.symm)).imp fun s u hsu => .inl ?_⟩
    exact or_assoc.mpr hsu
  · refine (hg D t₁ w₁ hw₁ hr.settled).mono fun r w' _ hr' => ⟨hr'.settled, fun t' ht' => ?_⟩
    have hle' := (hr'.errors t' ht').1
    exact ⟨hle.trans hle', fun hx => absurd (by omega) herr⟩

/-- A call that changes nothing, followed by a scan. -/
theorem scans_read {c : OpsCall} {k : Answer c → Tally → Script Tally}
    (hread : ∀ w r w', (host root).serve w c r w' → w' = w)
    (hk : ∀ w a, (reliableHost root).serve w c (.ok a) w → Scans root w₀ (k a) new) :
    Scans root w₀ (fun t => call c >>= fun a => k a t) new := by
  intro D t w hw hhalf
  rw [Action.always_bind]
  refine ⟨hw, ?_⟩
  rintro (e | a) w' hs
  · obtain rfl := hread w _ w' hs.1
    exact ⟨hw, scanned_error e hhalf⟩
  · obtain rfl := hread w _ w' hs.1
    exact ⟨hw, hk w' a hs D t w' hw hhalf⟩

/-- **One volume.**  Moving a pair counts an error, or leaves it moved. -/
theorem moveVolume_scans {source target : String} (hunique : Unambiguous root w₀)
    (hm : Moves root source target) :
    Scans root w₀ (moveVolume source target) fun s u => s = source ∧ u = target := by
  intro D t w h hhalf
  -- a volume that a reliable inspect misses was not there at the start
  have habsent : ∀ v, ((∃ u, Moves root v u) → w.volumes v = none) →
      (∃ u, Moves root v u) → w₀.volumes v = none := by
    intro v hv hraw
    by_contra hne
    obtain ⟨u, hu⟩ := hraw
    exact hne ((h.source v u hu hne).symm.trans (hv ⟨u, hu⟩))
  have hkept : ∀ {w'}, Kept root w₀ D w' → Moved w₀ w' source target →
      Kept root w₀ (fun s u => D s u ∨ (s = source ∧ u = target)) w' := by
    intro w' h' hmoved
    refine h'.imp ?_
    rintro s u (hD | ⟨rfl, rfl⟩)
    · exact .inl hD
    · exact .inr ⟨hm, hmoved⟩
  have hskip : ∀ {w'}, Kept root w₀ D w' → w'.halfDone = none → Moved w₀ w' source target →
      Scanned root w₀ D (fun s u => s = source ∧ u = target) t (.ok t.skip) w' := by
    intro w' h' hw' hmoved
    refine ⟨hw', fun t' ht' => ?_⟩
    obtain rfl := Except.ok.inj ht'
    exact ⟨le_refl _, fun _ => hkept h' hmoved⟩
  unfold moveVolume
  rw [Action.always_bind]
  refine ⟨h, ?_⟩
  rintro (e | there) w₁ ⟨⟨hthere, rfl⟩, hreliable⟩
  · exact ⟨h, scanned_error e hhalf⟩
  cases there with
  | false =>
    -- there is nothing to copy
    refine ⟨h, h, hskip h hhalf fun c hc _ => ?_⟩
    rw [habsent source hreliable ⟨target, hm⟩] at hc
    cases hc
  | true =>
    have hlive := hthere rfl
    refine ⟨h, ?_⟩
    simp only [onOk_ok, Bool.not_true, Bool.false_eq_true, if_false]
    rw [Action.always_bind]
    refine ⟨h, ?_⟩
    rintro (e | already) w₂ ⟨⟨halready, rfl⟩, hreliable'⟩
    · exact ⟨h, scanned_error e hhalf⟩
    cases already with
    | true =>
      -- the target is there, and nothing is half done
      refine ⟨h, h, hskip h hhalf ?_⟩
      rcases h.target source target hm with hnone | hh | hmoved
      · exact absurd hnone (halready rfl)
      · rw [hhalf] at hh
        cases hh
      · exact hmoved
    | false =>
      refine ⟨h, ?_⟩
      simp only [onOk_ok, Bool.false_eq_true, if_false, Action.always_tryExcept,
        Action.always_bind]
      refine ⟨h, ?_⟩
      rintro (e | ⟨⟩) w₃ ⟨hserved, -⟩
      · -- the create failed
        obtain rfl : w₃ = w₂ := hserved
        refine ⟨h, ?_⟩
        cases e with
        | calledProcessError text =>
          refine ⟨h, hhalf, fun t' ht' => ?_⟩
          obtain rfl := Except.ok.inj ht'
          exact ⟨Nat.le_succ _, fun hx => absurd hx (Nat.succ_ne_self _)⟩
        | _ => exact ⟨h, scanned_error _ hhalf⟩
      · obtain rfl : w₃ = w₂.created target := hserved
        have hcreated := h.created hhalf hm
        have hlive' : (w₂.created target).volumes source ≠ none := by
          unfold Host.created
          cases w₂.volumes target with
          | some _ => exact hlive
          | none =>
            by_cases hst : source = target
            · simp [hst]
            · simpa [hst] using hlive
        refine ⟨hcreated, hcreated, ?_⟩
        rintro r w₄ ⟨hserved, rfl⟩
        obtain rfl : w₄ = (w₂.created target).copied source target := hserved
        have hcopied := hcreated.copied hunique hm hlive' (habsent target hreliable')
        refine ⟨hcopied, hcopied, settled_copied hhalf, fun t' ht' => ?_⟩
        obtain rfl := Except.ok.inj ht'
        exact ⟨le_refl _, fun _ => hkept hcopied
          (hcreated.moved_copied hunique hm hlive' hm (.inl rfl))⟩

theorem visitVolumes_scans (hunique : Unambiguous root w₀) {i : String}
    {declared : List VolumeDecl}
    (hm : ∀ decl ∈ declared, ∀ s u, rule i decl = .ok (some (s, u)) → Moves root s u) :
    Scans root w₀ (visitVolumes rule i declared) fun s u =>
      ∃ decl ∈ declared, rule i decl = .ok (some (s, u)) := by
  induction declared with
  | nil =>
    refine (scans_return fun _ => rfl).mono fun s u h => ?_
    obtain ⟨_, h, -⟩ := h
    cases h
  | cons decl rest ih =>
    have hrest := ih fun d hd => hm d (List.mem_cons_of_mem _ hd)
    intro D t w hw hhalf
    unfold visitVolumes
    rw [Action.always_bind]
    refine ⟨hw, ?_⟩
    cases hrule : rule i decl with
    | error e => exact scanned_error e hhalf
    | ok pair =>
      cases pair with
      | none =>
        have hskip : Scans root w₀ (fun t => visitVolumes rule i rest t.skip) _ :=
          (@scans_return _ _ Tally.skip fun _ => rfl).bind hrest
        refine hskip.mono ?_ D t w hw hhalf
        rintro s u ⟨d, hd, hsu⟩
        rcases List.mem_cons.mp hd with rfl | hd
        · rw [hrule] at hsu
          cases hsu
        · exact .inr ⟨d, hd, hsu⟩
      | some pair =>
        have hmove := moveVolume_scans hunique (hm decl (List.mem_cons_self ..) _ _ hrule)
        refine (hmove.bind hrest).mono ?_ D t w hw hhalf
        rintro s u ⟨d, hd, hsu⟩
        rcases List.mem_cons.mp hd with rfl | hd
        · rw [hrule] at hsu
          obtain rfl := Option.some.inj (Except.ok.inj hsu)
          exact .inl ⟨rfl, rfl⟩
        · exact .inr ⟨d, hd, hsu⟩

/-- The instances of a list of entries declare the pair. -/
def DeclaredIn (root : DataRoot) (rule : PairRule) (entries : List String)
    (source target : String) : Prop :=
  ∃ i ∈ entries, ∃ declared decl, root.compose i = some (.volumes declared) ∧
    hiddenEntry i = false ∧ decl ∈ declared ∧ rule i decl = .ok (some (source, target))

theorem scanInstances_scans (hunique : Unambiguous root w₀)
    (hm : ∀ s u, Declares root rule s u → Moves root s u) (entries : List String) :
    Scans root w₀ (scanInstances rule entries) (DeclaredIn root rule entries) := by
  induction entries with
  | nil =>
    refine (scans_return fun _ => rfl).mono fun s u h => ?_
    obtain ⟨_, h, -⟩ := h
    cases h
  | cons i rest ih =>
    -- an entry that is passed over declares nothing
    have hpass : (root.compose i = none ∨ hiddenEntry i = true) →
        Scans root w₀ (scanInstances rule rest) (DeclaredIn root rule (i :: rest)) := by
      refine fun hwhy => ih.mono ?_
      rintro s u ⟨i', hi', declared, decl, hcompose, hshown, hrest⟩
      rcases List.mem_cons.mp hi' with rfl | hi'
      · rcases hwhy with hnone | hhidden
        · rw [hnone] at hcompose
          cases hcompose
        · rw [hhidden] at hshown
          cases hshown
      · exact ⟨i', hi', declared, decl, hcompose, hshown, hrest⟩
    refine scans_read (c := .isCompose i) (k := fun isCompose t =>
      if !isCompose then scanInstances rule rest t
      else if hiddenEntry i then scanInstances rule rest t
      else call (.readCompose i) >>= fun compose =>
        visitCompose rule i compose t >>= scanInstances rule rest)
      (fun w r w' hs => hs.2) fun w isCompose hs => ?_
    have hiscompose : isCompose = (root.compose i).isSome := Except.ok.inj hs.1.1
    cases hcompose : root.compose i with
    | none =>
      rw [hiscompose, hcompose]
      exact hpass (.inl hcompose)
    | some file =>
      rw [hiscompose, hcompose]
      cases hhidden : hiddenEntry i with
      | true => exact hpass (.inr hhidden)
      | false =>
        refine scans_read (c := .readCompose i) (k := fun compose t =>
          visitCompose rule i compose t >>= scanInstances rule rest)
          (fun w r w' hs => hs.2) fun w compose hs => ?_
        have hfile : compose = file := by
          have := Except.ok.inj hs.1.1
          rw [this, hcompose]
          rfl
        subst hfile
        have hvisit : Scans root w₀ (visitCompose rule i compose) fun s u =>
            ∃ declared decl, compose = .volumes declared ∧ decl ∈ declared ∧
              rule i decl = .ok (some (s, u)) := by
          cases compose with
          | unreadable => exact (@scans_return _ _ id fun _ => rfl).mono (by simp)
          | noVolumes => exact (@scans_return _ _ id fun _ => rfl).mono (by simp)
          | malformed => exact scans_raise _
          | volumes declared =>
            refine (visitVolumes_scans hunique fun decl hd s u hsu => ?_).mono ?_
            · exact hm s u ⟨i, declared, decl, hcompose, hhidden, hd, hsu⟩
            · rintro s u ⟨_, decl, heq, hd, hsu⟩
              obtain rfl := ComposeFile.volumes.inj heq
              exact ⟨decl, hd, hsu⟩
        refine (hvisit.bind ih).mono ?_
        rintro s u ⟨i', hi', declared, decl, hcompose', hshown, hd, hsu⟩
        rcases List.mem_cons.mp hi' with rfl | hi'
        · exact .inl ⟨declared, decl, Option.some.inj (hcompose.symm.trans hcompose'), hd, hsu⟩
        · exact .inr ⟨i', hi', declared, decl, hcompose', hshown, hd, hsu⟩

/-- **The body of a namespacing migration**: what it returns is a tally, and if the
tally counts no error, every pair the instances declare is moved. -/
theorem namespaceVolumes_kept (hunique : Unambiguous root w₀)
    (hm : ∀ s u, Declares root rule s u → Moves root s u) (h : Kept root w₀ D w)
    (hhalf : w.halfDone = none) :
    (namespaceVolumes rule).Always (reliableHost root) (Kept root w₀ D)
      (fun r w' => w'.halfDone = none ∧ ∀ v, r = .ok v → ∃ t : Tally, v = t.summary ∧
        (t.errors = 0 → Kept root w₀ (fun s u => D s u ∨ Declares root rule s u) w')) w := by
  unfold namespaceVolumes
  rw [Action.always_bind]
  refine ⟨h, ?_⟩
  rintro r w₁ ⟨⟨rfl, rfl⟩, -⟩
  refine ⟨h, ?_⟩
  simp only [onOk_ok, Bool.not_true, Bool.false_eq_true, if_false, Action.always_bind]
  refine ⟨h, ?_⟩
  rintro (e | entries) w₂ ⟨⟨hlist, rfl⟩, -⟩
  · exact ⟨h, hhalf, fun v hv => by cases hv⟩
  obtain rfl := hlist entries rfl
  refine ⟨h, ?_⟩
  refine (scanInstances_scans hunique hm _ D {} w₂ h hhalf).mono ?_
  rintro (e | t) w₃ hw₃ hr
  · exact ⟨hr.settled, fun v hv => by cases hv⟩
  refine ⟨hw₃, hr.settled, fun v hv => ⟨t, (Except.ok.inj hv).symm, fun hzero => ?_⟩⟩
  refine ((hr.errors t rfl).2 hzero).imp fun s u hsu => .inl (hsu.imp_right ?_)
  rintro ⟨i, declared, decl, hcompose, hrest⟩
  refine ⟨i, ?_, declared, decl, hcompose, hrest⟩
  exact (List.mem_insertionSort _).mpr (root.listed i (by simp [hcompose]))

end Bodies

/-! ## The runner keeps the invariant -/

section Runner
variable {root : DataRoot} {w₀ w : Host} {D : String → String → Prop} {l : Ledger}
  {mig : Migration}

/-- The pairs of the migrations that a ledger records, and the start did not. -/
def Recorded (root : DataRoot) (w₀ : Host) (l : Ledger) (s t : String) : Prop :=
  ∃ m ∈ movers, m.1 ∈ l.appliedIds ∧ m.1 ∉ w₀.recorded ∧ Declares root m.2 s t

/-- Writing a ledger keeps the invariant if what it records is moved. -/
theorem Kept.write (h : Kept root w₀ D w)
    (hl : ∀ s t, Recorded root w₀ l s t → D s t) :
    Kept root w₀ (Recorded root w₀ l) { w with ledger := .object l } := by
  refine ⟨h.noSentinel, h.source, h.live, h.target, fun s t hst => h.done s t (hl s t hst), ?_⟩
  intro m hm hrec
  by_cases hold : m.1 ∈ w₀.recorded
  · exact .inl hold
  · exact .inr fun s t hst => (h.done s t (hl s t ⟨m, hm, hrec, hold, hst⟩)).2

/-- Reading the ledger back: what it records is moved. -/
theorem Kept.read (h : Kept root w₀ D w) (hl : w.ledger = .object l) :
    Kept root w₀ (Recorded root w₀ l) w := by
  refine h.imp ?_
  rintro s t ⟨m, hm, hrec, hnew, hst⟩
  have hmem : m.1 ∈ w.recorded := by
    simp only [Host.recorded, hl]
    exact hrec
  exact .inr ⟨⟨m, hm, hst⟩, (h.ledger m hm hmem).resolve_left hnew s t hst⟩

theorem errors_of_clean {id : String} {t : Tally} {summary : PyDict} {backups : List PyValue}
    (h : judge id (.ok t.summary) = .ok (.clean summary backups)) : t.errors = 0 := by
  have hsummary : IsSummary t.summary :=
    .inr ⟨_, rfl, rfl, .inr ⟨t.errors, rfl⟩, .inl rfl⟩
  rcases judge_summary id hsummary with ⟨hpos, r, hr, -⟩ | ⟨hzero, -⟩
  · rw [hr] at h
    cases h
  · exact Int.ofNat.inj hzero

/-- What a body must leave for its migration to be recorded: it changed no ledger,
and if what it returned is judged clean, the pairs of its migration are moved. -/
def BodyKeeps (root : DataRoot) (w₀ : Host) (mig : Migration) : Prop :=
  ∀ D w, Kept root w₀ D w → w.halfDone = none →
    mig.bodies.Always (reliableHost root) (Kept root w₀ D)
      (fun r w' => w'.halfDone = none ∧ ∀ summary backups,
        judge mig.id r = .ok (.clean summary backups) → mig.advisory = false →
        Kept root w₀ (fun s t => D s t ∨ ∃ m ∈ movers, m.1 = mig.id ∧ Declares root m.2 s t) w') w

theorem mover_keeps {id description : String} {rule : PairRule} (hunique : Unambiguous root w₀)
    (hm : (id, rule) ∈ movers) (honly : ∀ m ∈ movers, m.1 = id → m.2 = rule) :
    BodyKeeps root w₀ { id := id, description := description, run := namespaceVolumes rule } := by
  intro D w hw hhalf
  refine Action.Always.mono (m := namespaceVolumes rule)
    (namespaceVolumes_kept hunique (fun s t hst => ⟨_, hm, hst⟩) hw hhalf) ?_
  rintro r w' - ⟨hhalf', hreturns⟩
  refine ⟨hhalf', fun summary backups hclean _ => ?_⟩
  cases r with
  | error e => cases hclean
  | ok v =>
    obtain ⟨t, rfl, hmoved⟩ := hreturns v rfl
    refine (hmoved (errors_of_clean hclean)).imp ?_
    rintro s u (hD | ⟨m, hmem, hid, hst⟩)
    · exact .inl (.inl hD)
    · exact .inl (.inr (honly m hmem hid ▸ hst))

theorem registry_keeps (hunique : Unambiguous root w₀) :
    ∀ mig ∈ grefferRegistry.migrations, BodyKeeps root w₀ mig := by
  have honly : ∀ rule id, (id, rule) ∈ movers → ∀ m ∈ movers, m.1 = id → m.2 = rule := by
    intro rule id hin m hm hid
    have hnodup : (movers.map Prod.fst).Nodup := by decide
    exact congrArg Prod.snd (List.inj_on_of_nodup_map hnodup hm hin hid)
  intro mig hmig
  simp only [grefferRegistry, List.mem_cons, List.not_mem_nil, or_false] at hmig
  rcases hmig with rfl | rfl | rfl
  · exact mover_keeps hunique (List.mem_cons_self ..) (honly _ _ (List.mem_cons_self ..))
  · -- the advisory one touches no volume
    intro D w hw hhalf
    unfold Migration.bodies
    rw [Action.always_bind]
    refine ⟨hw, ?_⟩
    rintro (e | ⟨⟩) w₁ ⟨rfl, -⟩
    · exact ⟨hw, hhalf, fun _ _ h _ => by cases h⟩
    refine ⟨hw, hw, ?_⟩
    rintro r w₂ ⟨rfl, -⟩
    exact ⟨hw, hhalf, fun _ _ _ hadv => by cases hadv⟩
  · have hin : (namespaceUndeclaredVolumeMounts.id, undeclaredPair) ∈ movers :=
      List.mem_cons_of_mem _ (List.mem_singleton_self _)
    exact mover_keeps hunique hin (honly _ _ hin)

/-- What an attempt or a batch leaves: nothing half done, and whatever the ledger in
memory records is moved. -/
def Settled (root : DataRoot) (w₀ : Host) (l : Ledger) (w : Host) : Prop :=
  w.halfDone = none ∧ Kept root w₀ (Recorded root w₀ l) w

theorem Kept.weaken (h : Kept root w₀ D w) : Kept root w₀ (fun _ _ => False) w :=
  h.imp fun _ _ hst => hst.elim

/-- **One attempt.** -/
theorem runSingle_settled (hbody : BodyKeeps root w₀ mig) (h : Settled root w₀ l w) :
    (runSingle mig l).Always (reliableHost root) (Kept root w₀ fun _ _ => False)
      (fun r w' => ∀ res l', r = .ok (res, l') → Settled root w₀ l' w') w := by
  obtain ⟨hhalf, hkept⟩ := h
  unfold runSingle
  rw [Action.always_bind, Action.always_outcome]
  refine (hbody _ w hkept hhalf).imp (fun w' hw' => hw'.weaken) ?_
  rintro out w₁ hw₁ ⟨hhalf₁, hclean⟩
  simp only [onOk_ok, Action.always_bind]
  refine ⟨hw₁.weaken, ?_⟩
  -- Only a clean migration that is not advisory is recorded, and its volumes are all moved.
  cases hj : judge mig.id out with
  | error e => exact fun _ _ h => by cases h
  | ok j =>
    cases j with
    | refused r =>
      refine ⟨hw₁.weaken, fun res l' hres => ?_⟩
      obtain ⟨-, rfl⟩ := Prod.mk.inj (Except.ok.inj hres)
      exact ⟨hhalf₁, hw₁⟩
    | clean summary backups =>
      simp only [onOk_ok, conclude]
      cases hadv : mig.advisory with
      | true =>
        refine ⟨hw₁.weaken, fun res l' hres => ?_⟩
        obtain ⟨-, rfl⟩ := Prod.mk.inj (Except.ok.inj hres)
        exact ⟨hhalf₁, hw₁⟩
      | false =>
        simp only [Bool.false_eq_true, if_false, Action.always_bind, Ledger.markApplied]
        by_cases happlied : l.isApplied mig.id = true
        · rw [if_pos happlied]
          refine ⟨hw₁.weaken, hw₁.weaken, fun res l' hres => ?_⟩
          obtain ⟨-, rfl⟩ := Prod.mk.inj (Except.ok.inj hres)
          exact ⟨hhalf₁, hw₁⟩
        rw [if_neg happlied, Action.always_bind, Ledger.atomicWrite, Action.always_ite]
        refine ⟨fun _ => ⟨hw₁.weaken, ?_⟩, fun _ => ⟨hw₁.weaken, fun _ _ h => by cases h⟩⟩
        rintro (e | ⟨⟩) w₂ ⟨hserved, -⟩
        · obtain rfl : w₂ = w₁ := hserved
          exact ⟨hw₁.weaken, fun _ _ h => by cases h⟩
        obtain rfl : w₂ = { w₁ with ledger := .object (l.record ⟨mig.id, summary, backups⟩) } :=
          hserved
        have hwritten : Kept root w₀ (Recorded root w₀ (l.record ⟨mig.id, summary, backups⟩))
            { w₁ with ledger := .object (l.record ⟨mig.id, summary, backups⟩) } := by
          refine (hclean summary backups hj hadv).write ?_
          rintro s t ⟨m, hm, hrec, hnew, hst⟩
          rw [Ledger.appliedIds_record, List.mem_append, List.mem_singleton] at hrec
          exact hrec.imp (fun hold => ⟨m, hm, hold, hnew, hst⟩) fun hid => ⟨m, hm, hid, hst⟩
        refine ⟨hwritten.weaken, hwritten.weaken, hwritten.weaken, fun res l' hres => ?_⟩
        obtain ⟨-, rfl⟩ := Prod.mk.inj (Except.ok.inj hres)
        exact ⟨hhalf₁, hwritten⟩

/-- **One batch**, over any of the migrations still to come. -/
theorem applyLoop_settled {inv : Invocation} {migs : List Migration}
    (hbody : ∀ mig ∈ migs, BodyKeeps root w₀ mig) (h : Settled root w₀ l w) :
    (applyLoop inv migs l).Always (reliableHost root) (Kept root w₀ fun _ _ => False)
      (fun _ _ => True) w := by
  induction migs generalizing l w with
  | nil => exact ⟨h.2.weaken, trivial⟩
  | cons mig rest ih =>
    have hrest := fun {l w} => ih (l := l) (w := w) fun m hm => hbody m (List.mem_cons_of_mem _ hm)
    unfold applyLoop
    rw [Action.always_ite, Action.always_ite]
    refine ⟨fun _ => hrest h, fun _ => ⟨fun _ => ?_, fun _ => ?_⟩⟩
    · exact Action.always_invariant_bind_pure _ |>.mpr (hrest h)
    · rw [Action.always_bind]
      refine (runSingle_settled (hbody mig (List.mem_cons_self ..)) h).mono ?_
      rintro (e | ⟨result, l'⟩) w' hw' hres
      · trivial
      rw [onOk_ok, Action.always_ite]
      refine ⟨fun _ => ⟨hw', trivial⟩, fun _ => ?_⟩
      exact Action.always_invariant_bind_pure _ |>.mpr (hrest (hres result l' rfl))

theorem readOrEmpty_settled (h : Kept root w₀ (fun _ _ => False) w) (hhalf : w.halfDone = none) :
    Ledger.readOrEmpty.Always (reliableHost root) (Kept root w₀ fun _ _ => False)
      (fun r w' => ∀ l, r = .ok l → Settled root w₀ l w') w := by
  -- a view that records nothing
  have hblank : ∀ l₀ : Ledger, l₀.appliedIds = [] →
      ∀ l, (Except.ok l₀ : Except Exn Ledger) = .ok l → Settled root w₀ l w := by
    rintro l₀ hl₀ l hl
    obtain rfl := Except.ok.inj hl
    refine ⟨hhalf, h.imp ?_⟩
    rintro s t ⟨m, -, hrec, -⟩
    rw [hl₀] at hrec
    cases hrec
  unfold Ledger.readOrEmpty
  rw [Action.always_bind]
  refine ⟨h, ?_⟩
  rintro _ w₁ ⟨⟨rfl, rfl⟩, -⟩
  refine ⟨h, ?_⟩
  rw [onOk_ok]
  cases hfile : w₁.ledger with
  | absent => exact ⟨h, hblank _ rfl⟩
  | damaged d =>
    cases d with
    | undecodable text => exact ⟨h, fun _ hl => by cases hl⟩
    | unreadable text => exact ⟨h, hblank _ rfl⟩
    | notJson text => exact ⟨h, hblank _ rfl⟩
    | notAnObject => exact ⟨h, hblank _ rfl⟩
  | object l₀ =>
    refine ⟨h, fun l hl => ?_⟩
    obtain rfl := Except.ok.inj hl
    exact ⟨hhalf, h.read hfile⟩

/-- Without a legacy sentinel the shim does nothing. -/
theorem shim_settled (h : Settled root w₀ l w) :
    (Ledger.applyLegacySentinelShim l).Always (reliableHost root) (Kept root w₀ fun _ _ => False)
      (fun r w' => ∀ l', r = .ok l' → Settled root w₀ l' w') w := by
  unfold Ledger.applyLegacySentinelShim
  rw [Action.always_bind]
  refine ⟨h.2.weaken, ?_⟩
  rintro _ w₁ ⟨⟨rfl, rfl⟩, -⟩
  refine ⟨h.2.weaken, ?_⟩
  rw [h.2.noSentinel]
  refine ⟨h.2.weaken, fun l' hl' => ?_⟩
  obtain rfl := Except.ok.inj hl'
  exact h

/-- **One boot** keeps the invariant, wherever it is stopped. -/
theorem applyPending_kept {inv : Invocation} (hunique : Unambiguous root w₀)
    (h : Kept root w₀ (fun _ _ => False) w) (hhalf : w.halfDone = none) :
    (applyPending grefferRegistry inv).Always (reliableHost root)
      (Kept root w₀ fun _ _ => False) (fun _ _ => True) w := by
  unfold applyPending Ledger.load
  rw [Action.always_ite]
  refine ⟨fun _ => ⟨h, trivial⟩, fun _ => ?_⟩
  simp only [Action.always_bind]
  refine (readOrEmpty_settled h hhalf).mono ?_
  rintro (e | l) w₁ - hl
  · trivial
  refine (shim_settled (hl l rfl)).mono ?_
  rintro (e | l') w₂ - hl'
  · trivial
  exact applyLoop_settled
    (fun m hm => registry_keeps hunique m (Registry.mem_allMigrations.mp hm)) (hl' l' rfl)

end Runner

/-! ## Boots -/

section Boots
variable {root : DataRoot} {w₀ w w' : Host}

/-- **Boots** of a node: each a run of `applyPending`, every step of it reliable,
which may be stopped anywhere that leaves nothing half done. -/
inductive Boots (root : DataRoot) (w₀ : Host) : Host → Prop
  | start : Boots root w₀ w₀
  | boot {w w' : Host} {inv : Invocation} {q : Prog (Raises Answer Exn) (Except Exn (List Result))}
      (before : Boots root w₀ w)
      (run : Run (reliableHost root) w (applyPending grefferRegistry inv) w' q)
      (settled : w'.halfDone = none) : Boots root w₀ w'

theorem kept_start (hs : w₀.sentinel = false) : Kept root w₀ (fun _ _ => False) w₀ where
  noSentinel := hs
  source := fun _ _ _ _ => rfl
  live := fun _ hv => .inl hv
  target := fun s t _ => by
    cases ht : w₀.volumes t with
    | none => exact .inl rfl
    | some c =>
      refine .inr (.inr fun _ _ hnone => ?_)
      rw [ht] at hnone
      cases hnone
  done := fun _ _ h => h.elim
  ledger := fun _ _ h => .inl h

theorem Boots.kept (boots : Boots root w₀ w) (hs : w₀.sentinel = false)
    (hhalf : w₀.halfDone = none) (hunique : Unambiguous root w₀) :
    Kept root w₀ (fun _ _ => False) w ∧ w.halfDone = none := by
  induction boots with
  | start => exact ⟨kept_start hs, hhalf⟩
  | boot _ run settled ih =>
    exact ⟨Prog.Always.at_stop (applyPending_kept hunique ih.1 ih.2) run, settled⟩

/-- **A recorded namespacing migration has moved every volume**: after any boots and
at any point of one more, if the ledger records the migration, and did not at the
start, then the target of every raw volume holds all the volume held. -/
theorem recorded_migration_moved {inv : Invocation}
    {q : Prog (Raises Answer Exn) (Except Exn (List Result))} {m : String × PairRule}
    {source target : String} {c : Contents}
    (hs : w₀.sentinel = false) (hhalf : w₀.halfDone = none) (hunique : Unambiguous root w₀)
    (boots : Boots root w₀ w)
    (run : Run (reliableHost root) w (applyPending grefferRegistry inv) w' q)
    (hm : m ∈ movers) (hnew : m.1 ∉ w₀.recorded) (hrec : m.1 ∈ w'.recorded)
    (hpair : Declares root m.2 source target) (hsource : w₀.volumes source = some c)
    (htarget : w₀.volumes target = none) :
    ∃ c', w'.volumes target = some c' ∧ c'.Includes c := by
  obtain ⟨hkept, hhalf'⟩ := boots.kept hs hhalf hunique
  have hkept' := Prog.Always.at_stop (applyPending_kept hunique hkept hhalf') run
  exact (hkept'.ledger m hm hrec).resolve_left hnew source target hpair c hsource htarget

end Boots

/-! ## A copy that fails -/

/-- One instance, with one volume under its raw name. -/
def oneInstance : DataRoot where
  entries := ["i"]
  compose := fun i => if i = "i" then some (.volumes [{ key := some "data" }]) else none
  listed := by
    intro i hi
    by_cases h : i = "i"
    · simp [h]
    · simp [h] at hi

/-- The raw volume of that instance, before any migration. -/
def rawVolume : Host where
  ledger := .absent
  sentinel := false
  volumes := fun v => if v = "data" then some fun path => if path = "db" then some "rows" else none
    else none
  halfDone := none

/-- A node where every command does what it should, except that a copy fails if
`full` is set, leaving nothing in its target. -/
def answerHost (full : Bool) (w : Host) : (c : OpsCall) → Raises Answer Exn c × Host
  | .readLedger => (.ok w.ledger, w)
  | .replaceLedger l => (.ok (), { w with ledger := .object l })
  | .sentinelExists => (.ok w.sentinel, w)
  | .unlinkSentinel => (.ok (), { w with sentinel := false })
  | .checkPreconditions _ => (.ok (), w)
  | .runMigration _ => (.ok .none, w)
  | .isDataRoot => (.ok true, w)
  | .listDataRoot => (.ok oneInstance.entries, w)
  | .isCompose i => (.ok (oneInstance.compose i).isSome, w)
  | .readCompose i => (.ok ((oneInstance.compose i).getD .unreadable), w)
  | .volumeInspect v => (.ok (w.volumes v).isSome, w)
  | .volumeCreate v => (.ok (), w.created v)
  | .runCopy src dst =>
    if full then (.error (.calledProcessError "No space left on device"), w)
    else (.ok (), w.copied src dst)

theorem answerHost_serve (full : Bool) (w : Host) (c : OpsCall) :
    (host oneInstance).serve w c (answerHost full w c).1 (answerHost full w c).2 := by
  cases c with
  | runCopy src dst => cases full <;> simp [host, answerHost]
  | volumeInspect v => simp [host, answerHost, Option.isSome_iff_ne_none]
  | _ => simp [host, answerHost]

theorem answerHost_reliable (w : Host) (c : OpsCall) :
    Reliable oneInstance w c (answerHost false w c).1 (answerHost false w c).2 := by
  cases c with
  | volumeInspect v => cases h : w.volumes v <;> simp [Reliable, answerHost, h]
  | _ => simp [Reliable, answerHost]

/-- The node after one boot. -/
def booted (full : Bool) (w : Host) : Host :=
  (Prog.evalFor (answerHost full) 40 (applyPending grefferRegistry {}) w).1

theorem declares_data {m : String × PairRule} (hm : m ∈ movers) {s t : String} :
    Declares oneInstance m.2 s t ↔ s = "data" ∧ t = "i_data" := by
  -- both migrations make the same of that one volume
  have hrule : m.2 "i" { key := some "data" } = .ok (some ("data", "i_data")) := by
    simp only [movers, List.mem_cons, List.not_mem_nil, or_false] at hm
    rcases hm with rfl | rfl <;> decide
  constructor
  · rintro ⟨i, declared, decl, hcompose, -, hd, hpair⟩
    have hi : i = "i" := by
      by_contra hne
      simp [oneInstance, hne] at hcompose
    subst hi
    obtain rfl := ComposeFile.volumes.inj (Option.some.inj hcompose)
    rw [List.mem_singleton.mp hd, hrule] at hpair
    exact (Prod.mk.inj (Option.some.inj (Except.ok.inj hpair))).imp Eq.symm Eq.symm
  · rintro ⟨rfl, rfl⟩
    exact ⟨"i", _, _, rfl, by decide, List.mem_singleton_self _, hrule⟩

/-- **Two boots, the first with a copy that fails**: the ledger records 0001, and the
target is empty. -/
theorem failed_copy_recorded : ∃ (root : DataRoot) (w₀ w w' : Host) (out out' : _)
    (source target : String) (c : Contents),
    Run (host root) w₀ (applyPending grefferRegistry {}) w (.pure out) ∧
    Run (host root) w (applyPending grefferRegistry {}) w' (.pure out') ∧
    Declares root catalogPair source target ∧ w₀.sentinel = false ∧ w₀.recorded = [] ∧
    w₀.volumes source = some c ∧ w₀.volumes target = none ∧
    namespaceCatalogVolumes.id ∈ w'.recorded ∧
    ¬ ∃ c', w'.volumes target = some c' ∧ c'.Includes c := by
  refine ⟨oneInstance, rawVolume, booted true rawVolume, booted true (booted true rawVolume),
    _, _, "data", "i_data", _,
    Prog.run_evalFor (h := answerHost true) (answerHost_serve true) 40 _ _,
    Prog.run_evalFor (h := answerHost true) (answerHost_serve true) 40 _ _,
    (declares_data (List.mem_cons_self ..)).mpr ⟨rfl, rfl⟩, rfl, rfl, rfl, rfl, ?_, ?_⟩
  · decide
  · rintro ⟨c', hc', hincl⟩
    have hempty : c' = fun _ => none := (Option.some.inj hc').symm
    have hrow := hincl "db" "rows" rfl
    rw [hempty] at hrow
    cases hrow

theorem oneInstance_unambiguous : Unambiguous oneInstance rawVolume := by
  rintro s s' t ⟨m, hm, hs⟩ ⟨m', hm', hs'⟩ - -
  rw [((declares_data hm).mp hs).1, ((declares_data hm').mp hs').1]

/-- The law at a node whose copies succeed: one boot, and the target holds the data. -/
theorem recorded_migration_moved_once : ∃ c' : Contents,
    (booted false rawVolume).volumes "i_data" = some c' ∧
      c'.Includes fun path => if path = "db" then some "rows" else none :=
  recorded_migration_moved (m := (namespaceCatalogVolumes.id, catalogPair))
    rfl rfl oneInstance_unambiguous .start
    (Prog.run_evalFor (M := reliableHost oneInstance) (h := answerHost false)
      (fun w c => ⟨answerHost_serve false w c, answerHost_reliable w c⟩) 40 _ _)
    (List.mem_cons_self ..) (by decide) (by decide)
    ((declares_data (List.mem_cons_self ..)).mpr ⟨rfl, rfl⟩) rfl rfl

end Greffer.Ops

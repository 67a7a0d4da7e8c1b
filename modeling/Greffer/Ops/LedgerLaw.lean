import Greffer.Ops.Batch

/-! # What the ledger comes to record

The law of the ledger, over any sequence of invocations of `applyPending` on a
node whose ledger can be read and written: which ids it records, which
migrations are run again, and what a full batch without failures leaves
recorded.

Each part is first an induction over `Batch`, where the migrations ascend by id
so that no two have one id; `History` then strings invocations together, and
`ledger_law` reads the parts off every invocation of every history.

**An advisory migration is not attempted by every full run.**  A failure of a
`stop_on_failure` migration, or any failure under `fail_fast`, halts the batch,
and the runner then leaves everything later untouched, advisory migrations
included.  The law says so.
-/
namespace Greffer.Ops
open Effects

/-- The migration an event is about. -/
def Event.id : Event → String
  | .checked id _ | .ran id _ => id

/-- The ids whose `run` was invoked, in order. -/
def ranIds (es : List Event) : List String :=
  es.filterMap fun
    | .checked _ _ => none
    | .ran id _ => some id

/-- In these events the migration passed its preconditions and its `run` returned
a summary with zero errors. -/
def Succeeded (id : String) (es : List Event) : Prop :=
  .checked id (.ok ()) ∈ es ∧ ∃ v, .ran id (.ok v) ∈ es ∧ errorsOf v = 0

/-- The batch was halted by a failing migration before `m`. -/
def HaltedBefore (inv : Invocation) (migs : List Migration) (rs : List Result) (m : Migration) :
    Prop :=
  ∃ f ∈ migs, f.id < m.id ∧ (f.stopOnFailure = true ∨ inv.failFast = true) ∧
    ∃ r ∈ rs, r.id = f.id ∧ r.ok = false

theorem Succeeded.mono {id : String} {es es' : List Event} (h : Succeeded id es)
    (hsub : es ⊆ es') : Succeeded id es' := by
  obtain ⟨hc, v, hv, hz⟩ := h
  exact ⟨hsub hc, v, hsub hv, hz⟩

@[simp] theorem ranIds_append (es es' : List Event) : ranIds (es ++ es') = ranIds es ++ ranIds es' :=
  List.filterMap_append

theorem mem_ranIds {es : List Event} {id : String} : id ∈ ranIds es ↔ ∃ out, .ran id out ∈ es := by
  unfold ranIds
  rw [List.mem_filterMap]
  constructor
  · rintro ⟨e, he, hid⟩
    cases e with
    | checked _ _ => cases hid
    | ran id' out =>
      obtain rfl := Option.some.inj hid
      exact ⟨out, he⟩
  · rintro ⟨out, he⟩
    exact ⟨_, he, rfl⟩

/-! ## One attempt -/

namespace Attempt
variable {mig : Migration} {es : List Event} {r : Result} {kept : Bool}

theorem event_id (h : Attempt mig es r kept) : ∀ e ∈ es, e.id = mig.id := by
  cases h <;> simp [Event.id]

theorem result_id (h : Attempt mig es r kept) : r.id = mig.id := by
  cases h <;> assumption

theorem checked (h : Attempt mig es r kept) : ∃ out, Event.checked mig.id out ∈ es := by
  cases h with
  | blocked e => exact ⟨_, List.mem_cons_self ..⟩
  | failed => exact ⟨_, List.mem_cons_self ..⟩
  | passed => exact ⟨_, List.mem_cons_self ..⟩

theorem ranIds_sublist (h : Attempt mig es r kept) : (ranIds es).Sublist [mig.id] := by
  cases h <;> simp [ranIds]

/-- **Recorded means succeeded and not advisory.** -/
theorem kept_iff (h : Attempt mig es r kept) :
    kept = true ↔ mig.advisory = false ∧ Succeeded mig.id es := by
  cases h with
  | blocked e _ _ hr => simp [Succeeded]
  | failed out _ _ hr hout =>
    refine ⟨fun h => (by cases h), ?_⟩
    rintro ⟨-, -, v, hv, hz⟩
    have hrun : out = .ok v := by
      rcases List.mem_cons.mp hv with h | h
      · cases h
      · injection (List.mem_singleton.mp h) with _ hout
        exact hout.symm
    have := hout v hrun
    omega
  | passed v _ _ hr hz =>
    rw [Bool.not_eq_true']
    exact ⟨fun hadv => ⟨hadv, List.mem_cons_self .., v, by simp, hz⟩, fun h => h.1⟩

theorem succeeded_of_ok (h : Attempt mig es r kept) (hr : r.ok = true) : Succeeded mig.id es := by
  cases h with
  | blocked e _ _ hbad => rw [hbad] at hr; cases hr
  | failed out _ _ hbad => rw [hbad] at hr; cases hr
  | passed v _ _ _ hz => exact ⟨List.mem_cons_self .., v, by simp, hz⟩

end Attempt

/-! ## One batch -/

@[simp] theorem mem_recordIf {kept : Bool} {id id' : String} {ids : List String} :
    id' ∈ recordIf kept id ids ↔ id' ∈ ids ∨ (kept = true ∧ id' = id) := by
  cases kept <;> simp [recordIf]

theorem prefix_recordIf (kept : Bool) (id : String) (ids : List String) :
    ids <+: recordIf kept id ids := by
  cases kept
  · exact List.prefix_rfl
  · exact List.prefix_append ..

namespace Batch
variable {inv : Invocation} {migs : List Migration} {ids ids' : List String} {es : List Event}
  {rs : List Result}

theorem grows (h : Batch inv migs ids es rs ids') : ids <+: ids' := by
  induction h with
  | nil => exact List.prefix_rfl
  | passed _ _ ih => exact ih
  | dry _ _ _ ih => exact ih
  | halted => exact prefix_recordIf ..
  | went _ _ _ _ _ ih => exact (prefix_recordIf ..).trans ih

theorem dry_events (h : Batch inv migs ids es rs ids') (hdry : inv.dryRun = true) :
    es = [] ∧ ids' = ids := by
  induction h with
  | nil => exact ⟨rfl, rfl⟩
  | passed _ _ ih => exact ih
  | dry _ _ _ ih => exact ih
  | halted hlive => rw [hlive] at hdry; cases hdry
  | went hlive => rw [hlive] at hdry; cases hdry

/-- Every event is about a migration the batch considers: selected, and not
recorded at the start unless it is advisory. -/
theorem event_considered (h : Batch inv migs ids es rs ids') :
    ∀ e ∈ es, ∃ m ∈ migs, m.id = e.id ∧ inv.Considers ids m := by
  induction h with
  | nil => exact fun e he => by cases he
  | passed _ _ ih =>
    intro e he
    obtain ⟨m, hm, hid⟩ := ih e he
    exact ⟨m, List.mem_cons_of_mem _ hm, hid⟩
  | dry _ _ _ ih =>
    intro e he
    obtain ⟨m, hm, hid⟩ := ih e he
    exact ⟨m, List.mem_cons_of_mem _ hm, hid⟩
  | halted _ hin attempt =>
    intro e he
    exact ⟨_, List.mem_cons_self .., (attempt.event_id e he).symm, hin⟩
  | went _ hin attempt _ _ ih =>
    intro e he
    rcases List.mem_append.mp he with he | he
    · exact ⟨_, List.mem_cons_self .., (attempt.event_id e he).symm, hin⟩
    · obtain ⟨m, hm, hid, hsel, hfresh⟩ := ih e he
      refine ⟨m, List.mem_cons_of_mem _ hm, hid, hsel, ?_⟩
      rcases hfresh with hfresh | hadv
      · exact .inl fun hold => hfresh (mem_recordIf.mpr (.inl hold))
      · exact .inr hadv

/-- In an ascending batch the events of the tail are about later ids. -/
theorem tail_later {mig : Migration} (tail : Batch inv migs ids es rs ids')
    (hasc : (mig :: migs).Pairwise fun a b => a.id < b.id) : ∀ e ∈ es, mig.id < e.id := by
  intro e he
  obtain ⟨m, hm, hid, -⟩ := tail.event_considered e he
  rw [← hid]
  exact List.rel_of_pairwise_cons hasc hm

/-- **The ids whose `run` was invoked ascend**; so no migration is run twice in a
batch. -/
theorem ranIds_ascending (h : Batch inv migs ids es rs ids')
    (hasc : migs.Pairwise fun a b => a.id < b.id) : (ranIds es).Pairwise (· < ·) := by
  induction h with
  | nil => exact List.Pairwise.nil
  | passed _ _ ih => exact ih hasc.of_cons
  | dry _ _ _ ih => exact ih hasc.of_cons
  | halted _ _ attempt => exact (List.pairwise_singleton _ _).sublist attempt.ranIds_sublist
  | went _ _ attempt _ tail ih =>
    rw [ranIds_append, List.pairwise_append]
    refine ⟨(List.pairwise_singleton _ _).sublist attempt.ranIds_sublist, ih hasc.of_cons, ?_⟩
    intro a ha b hb
    have ha' := List.mem_singleton.mp (attempt.ranIds_sublist.subset ha)
    obtain ⟨out, hout⟩ := mem_ranIds.mp hb
    rw [ha']
    exact tail.tail_later hasc _ hout

/-- Whatever a batch newly records succeeded in it, and is not advisory. -/
theorem recorded_succeeded (h : Batch inv migs ids es rs ids') {id : String} (hid : id ∈ ids') :
    id ∈ ids ∨ ∃ m ∈ migs, m.id = id ∧ m.advisory = false ∧ Succeeded id es := by
  induction h with
  | nil => exact .inl hid
  | passed _ _ ih =>
    rcases ih hid with hold | ⟨m, hm, hnew⟩
    · exact .inl hold
    · exact .inr ⟨m, List.mem_cons_of_mem _ hm, hnew⟩
  | dry _ _ _ ih =>
    rcases ih hid with hold | ⟨m, hm, hnew⟩
    · exact .inl hold
    · exact .inr ⟨m, List.mem_cons_of_mem _ hm, hnew⟩
  | halted _ _ attempt =>
    rcases mem_recordIf.mp hid with hold | ⟨hkept, rfl⟩
    · exact .inl hold
    · exact .inr ⟨_, List.mem_cons_self .., rfl, attempt.kept_iff.mp hkept⟩
  | went _ _ attempt _ _ ih =>
    rcases ih hid with hmid | ⟨m, hm, hid', hadv, hs⟩
    · rcases mem_recordIf.mp hmid with hold | ⟨hkept, rfl⟩
      · exact .inl hold
      · obtain ⟨hadv, hs⟩ := attempt.kept_iff.mp hkept
        exact .inr ⟨_, List.mem_cons_self .., rfl, hadv, hs.mono (List.subset_append_left ..)⟩
    · exact .inr ⟨m, List.mem_cons_of_mem _ hm, hid', hadv, hs.mono (List.subset_append_right ..)⟩

/-- Whatever succeeded in a batch and is not advisory is recorded by it. -/
theorem succeeded_recorded (h : Batch inv migs ids es rs ids')
    (hasc : migs.Pairwise fun a b => a.id < b.id) {m : Migration} (hm : m ∈ migs)
    (hadv : m.advisory = false) (hs : Succeeded m.id es) : m.id ∈ ids' := by
  induction h with
  | nil => cases hm
  | passed _ tail ih =>
    rcases List.mem_cons.mp hm with rfl | hm
    · exact absurd (tail.tail_later hasc _ hs.1) (String.lt_irrefl _)
    · exact ih hasc.of_cons hm hs
  | dry _ _ tail ih =>
    rcases List.mem_cons.mp hm with rfl | hm
    · exact absurd (tail.tail_later hasc _ hs.1) (String.lt_irrefl _)
    · exact ih hasc.of_cons hm hs
  | halted _ _ attempt =>
    rcases List.mem_cons.mp hm with rfl | hm
    · exact mem_recordIf.mpr (.inr ⟨attempt.kept_iff.mpr ⟨hadv, hs⟩, rfl⟩)
    · have hlt := List.rel_of_pairwise_cons hasc hm
      rw [show m.id = _ from attempt.event_id _ hs.1] at hlt
      exact absurd hlt (String.lt_irrefl _)
  | @went mig rest _ es es' _ _ _ _ _ _ attempt _ tail ih =>
    obtain ⟨hc, v, hv, hz⟩ := hs
    rcases List.mem_cons.mp hm with rfl | hm
    · -- the tail is about later migrations, so these events are the attempt's own
      have hown : ∀ e ∈ es ++ es', e.id = m.id → e ∈ es := by
        intro e he hid
        rcases List.mem_append.mp he with he | he
        · exact he
        · exact absurd (hid ▸ tail.tail_later hasc e he) (String.lt_irrefl _)
      have hkept := attempt.kept_iff.mpr ⟨hadv, hown _ hc rfl, v, hown _ hv rfl, hz⟩
      exact tail.grows.subset (mem_recordIf.mpr (.inr ⟨hkept, rfl⟩))
    · have hlater : ∀ e ∈ es ++ es', e.id = m.id → e ∈ es' := by
        intro e he hid
        rcases List.mem_append.mp he with he | he
        · have hlt := List.rel_of_pairwise_cons hasc hm
          rw [← hid, attempt.event_id e he] at hlt
          exact absurd hlt (String.lt_irrefl _)
        · exact he
      exact ih hasc.of_cons hm ⟨hlater _ hc rfl, v, hlater _ hv rfl, hz⟩

/-- **A batch that is not dry attempts every advisory migration it selects**,
unless a failing migration halts it first. -/
theorem attempts_advisory (h : Batch inv migs ids es rs ids')
    (hasc : migs.Pairwise fun a b => a.id < b.id) (hlive : inv.dryRun = false)
    {m : Migration} (hm : m ∈ migs) (hsel : inv.selects m = true) (hadv : m.advisory = true) :
    (∃ out, Event.checked m.id out ∈ es) ∨ HaltedBefore inv migs rs m := by
  have hcons : ∀ {mig rest rs' rs''}, HaltedBefore inv rest rs' m → rs' ⊆ rs'' →
      HaltedBefore inv (mig :: rest) rs'' m := by
    rintro mig rest rs' rs'' ⟨f, hf, hlt, hwhy, r, hr, hfail⟩ hsub
    exact ⟨f, List.mem_cons_of_mem _ hf, hlt, hwhy, r, hsub hr, hfail⟩
  induction h with
  | nil => cases hm
  | passed hover _ ih =>
    rcases List.mem_cons.mp hm with rfl | hm
    · exact absurd ⟨hsel, .inr hadv⟩ hover
    · rcases ih hasc.of_cons hm with hc | hh
      · exact .inl hc
      · exact .inr (hcons hh (List.Subset.refl _))
  | dry hdry => rw [hlive] at hdry; cases hdry
  | @halted mig rest _ _ r _ _ _ attempt halts =>
    rcases List.mem_cons.mp hm with rfl | hm
    · exact .inl attempt.checked
    · obtain ⟨hfail, hwhy⟩ := inv.halting_iff.mp halts
      refine .inr ⟨mig, List.mem_cons_self .., List.rel_of_pairwise_cons hasc hm, hwhy,
        inv.reported mig r, List.mem_singleton_self _, ?_⟩
      rw [inv.reported_of_halting halts]
      exact ⟨attempt.result_id, hfail⟩
  | went _ _ attempt _ _ ih =>
    rcases List.mem_cons.mp hm with rfl | hm
    · obtain ⟨out, hout⟩ := attempt.checked
      exact .inl ⟨out, List.mem_append_left _ hout⟩
    · rcases ih hasc.of_cons hm with ⟨out, hout⟩ | hh
      · exact .inl ⟨out, List.mem_append_right _ hout⟩
      · exact .inr (hcons hh (List.subset_cons_self ..))

/-- **A batch that is not dry and reports only successes leaves every selected
non-advisory migration recorded.** -/
theorem all_ok_recorded (h : Batch inv migs ids es rs ids') (hlive : inv.dryRun = false)
    (hok : ∀ r ∈ rs, r.ok = true) {m : Migration} (hm : m ∈ migs) (hsel : inv.selects m = true)
    (hadv : m.advisory = false) : m.id ∈ ids' := by
  induction h with
  | nil => cases hm
  | passed hover tail ih =>
    rcases List.mem_cons.mp hm with rfl | hm
    · have hold : m.id ∈ _ := Classical.not_not.mp fun hnot => hover ⟨hsel, .inl hnot⟩
      exact tail.grows.subset hold
    · exact ih hok hm
  | dry hdry => rw [hlive] at hdry; cases hdry
  | @halted mig _ _ _ r _ _ _ attempt halts =>
    have hrep := hok _ (List.mem_singleton_self _)
    rw [inv.reported_of_halting halts, (inv.halting_iff.mp halts).1] at hrep
    cases hrep
  | went _ _ attempt _ tail ih =>
    rcases List.mem_cons.mp hm with rfl | hm
    · have hr := hok _ (List.mem_cons_self ..)
      rw [inv.reported_of_not_advisory hadv] at hr
      have hkept := attempt.kept_iff.mpr ⟨hadv, attempt.succeeded_of_ok hr⟩
      exact tail.grows.subset (mem_recordIf.mpr (.inr ⟨hkept, rfl⟩))
    · exact ih (fun r hr => hok r (List.mem_cons_of_mem _ hr)) hm

end Batch

/-! ## Histories -/

/-- One past invocation: its arguments, the events of the bodies, and its end. -/
structure Past where
  inv : Invocation
  events : List Event
  outcome : Except Exn (List Result)

/-- **A history** of a node: invocations of `applyPending`, one after the other,
each run to its end with the skip switch unset. -/
inductive History (reg : Registry) (w₀ : Node) : List Past → Node → Prop
  | start : History reg w₀ [] w₀
  | invoke {past : List Past} {w w' : Node} {inv : Invocation} {es : List Event}
      {out : Except Exn (List Result)} (before : History reg w₀ past w)
      (hskip : inv.skip = false)
      (run : Run ledgerNode w (applyPending reg inv) w' (.pure out))
      (hev : w'.events = w.events ++ es) : History reg w₀ (past ++ [⟨inv, es, out⟩]) w'

/-- **The law of the ledger**, for one invocation after any past: the node was
`w₀` at the start, `w` before the invocation and `w'` after it. -/
structure Law (reg : Registry) (w₀ : Node) (past : List Past) (w w' : Node) (now : Past) :
    Prop where
  /-- The invocation returns its results, and raises nothing. -/
  returns : ∃ rs, now.outcome = .ok rs
  grows : w.recorded <+: w'.recorded
  recorded_iff : ∀ id, id ∈ w'.recorded ↔ id ∈ w₀.recorded ∨
    ∃ m ∈ reg.migrations, m.id = id ∧ m.advisory = false ∧
      ∃ b ∈ past ++ [now], b.inv.dryRun = false ∧ Succeeded id b.events
  never_rerun : ∀ m ∈ reg.migrations, m.advisory = false → m.id ∈ w.recorded →
    m.id ∉ ranIds now.events
  /-- What is executed is executed in ascending id order, each at most once. -/
  ascending : (ranIds now.events).Pairwise (· < ·)
  advisory_unrecorded : ∀ m ∈ reg.migrations, m.advisory = true → m.id ∈ w'.recorded →
    m.id ∈ w₀.recorded
  advisory_attempted : now.inv.only = none → now.inv.dryRun = false →
    ∀ m ∈ reg.migrations, m.advisory = true → (∃ out, Event.checked m.id out ∈ now.events) ∨
      ∃ rs, now.outcome = .ok rs ∧ HaltedBefore now.inv reg.migrations rs m
  success_complete : now.inv.only = none → now.inv.dryRun = false →
    (∀ rs, now.outcome = .ok rs → ∀ r ∈ rs, r.ok = true) →
    ∀ m ∈ reg.migrations, m.advisory = false → m.id ∈ w'.recorded

section Law
variable {reg : Registry} {w₀ w w' : Node} {past : List Past} {inv : Invocation}
  {es : List Event} {out : Except Exn (List Result)}

theorem batch_of_run
    (hext : ∀ m ∈ reg.migrations, m = .external m.id m.description m.stopOnFailure m.advisory)
    (hskip : inv.skip = false) (hread : w.Readable)
    (run : Run ledgerNode w (applyPending reg inv) w' (.pure out))
    (hev : w'.events = w.events ++ es) :
    ∃ rs, out = .ok rs ∧ Batch inv reg.allMigrations w.recorded es rs w'.recorded ∧
      w'.Readable := by
  obtain ⟨rs, es', hout, hbatch, hev', hread'⟩ :=
    Prog.Always.at_return (applyPending_batch hext hskip hread) run
  rw [hev, List.append_cancel_left_eq] at hev'
  exact ⟨rs, hout, hev' ▸ hbatch, hread'⟩

/-- **The invariant of histories**: the ledger stays readable, and records what
it recorded at the start and what has succeeded since. -/
theorem History.invariant
    (hext : ∀ m ∈ reg.migrations, m = .external m.id m.description m.stopOnFailure m.advisory)
    (h₀ : w₀.Readable) (history : History reg w₀ past w) :
    w.Readable ∧ ∀ id, id ∈ w.recorded ↔ id ∈ w₀.recorded ∨
      ∃ m ∈ reg.migrations, m.id = id ∧ m.advisory = false ∧
        ∃ b ∈ past, b.inv.dryRun = false ∧ Succeeded id b.events := by
  induction history with
  | start => exact ⟨h₀, by simp⟩
  | @invoke past w w' inv es out before hskip run hev ih =>
    obtain ⟨hread, hiff⟩ := ih
    obtain ⟨rs, -, hbatch, hread'⟩ := batch_of_run hext hskip hread run hev
    refine ⟨hread', fun id => ⟨fun hid => ?_, ?_⟩⟩
    · rcases hbatch.recorded_succeeded hid with hold | ⟨m, hm, hid', hadv, hs⟩
      · rcases (hiff id).mp hold with hold | ⟨m, hm, hid', hadv, b, hb, hrest⟩
        · exact .inl hold
        · exact .inr ⟨m, hm, hid', hadv, b, List.mem_append_left _ hb, hrest⟩
      · refine .inr ⟨m, Registry.mem_allMigrations.mp hm, hid', hadv, ⟨inv, es, out⟩,
          List.mem_append_right _ (List.mem_singleton_self _), ?_, hs⟩
        cases hdry : inv.dryRun with
        | false => rfl
        | true =>
          rw [(hbatch.dry_events hdry).1] at hs
          cases hs.1
    · rintro (hold | ⟨m, hm, rfl, hadv, b, hb, hlive, hs⟩)
      · exact hbatch.grows.subset ((hiff id).mpr (.inl hold))
      · rcases List.mem_append.mp hb with hb | hb
        · exact hbatch.grows.subset ((hiff _).mpr (.inr ⟨m, hm, rfl, hadv, b, hb, hlive, hs⟩))
        · rw [List.mem_singleton.mp hb] at hs
          exact hbatch.succeeded_recorded reg.allMigrations_ascending
            (Registry.mem_allMigrations.mpr hm) hadv hs

/-- **The law of the ledger holds of every invocation of every history.** -/
theorem ledger_law
    (hext : ∀ m ∈ reg.migrations, m = .external m.id m.description m.stopOnFailure m.advisory)
    (h₀ : w₀.Readable) (history : History reg w₀ past w) (hskip : inv.skip = false)
    (run : Run ledgerNode w (applyPending reg inv) w' (.pure out))
    (hev : w'.events = w.events ++ es) : Law reg w₀ past w w' ⟨inv, es, out⟩ := by
  obtain ⟨hread, -⟩ := history.invariant hext h₀
  obtain ⟨-, hiff⟩ := (History.invoke history hskip run hev).invariant hext h₀
  obtain ⟨rs, rfl, hbatch, -⟩ := batch_of_run hext hskip hread run hev
  have hasc := reg.allMigrations_ascending
  have hselects : inv.only = none → ∀ m, inv.selects m = true := by
    intro honly m
    simp [Invocation.selects, honly]
  -- two registered migrations of one id are one
  have hunique : ∀ m ∈ reg.migrations, ∀ m' ∈ reg.migrations, m.id = m'.id → m = m' :=
    fun m hm m' hm' => List.inj_on_of_nodup_map reg.unique hm hm'
  refine ⟨⟨rs, rfl⟩, hbatch.grows, hiff, ?_, hbatch.ranIds_ascending hasc, ?_, ?_, ?_⟩
  · intro m hm hadv hold hran
    obtain ⟨o, ho⟩ := mem_ranIds.mp hran
    obtain ⟨m', hm', hid, -, hwhy⟩ := hbatch.event_considered _ ho
    obtain rfl := hunique m' (Registry.mem_allMigrations.mp hm') m hm hid
    rcases hwhy with hnew | hadv'
    · exact hnew hold
    · rw [hadv] at hadv'
      cases hadv'
  · intro m hm hadv hrec
    rcases (hiff m.id).mp hrec with hold | ⟨m', hm', hid, hadv', -⟩
    · exact hold
    · obtain rfl := hunique m' hm' m hm hid
      rw [hadv] at hadv'
      cases hadv'
  · intro honly hlive m hm hadv
    rcases hbatch.attempts_advisory hasc hlive (Registry.mem_allMigrations.mpr hm)
      (hselects honly m) hadv with hc | ⟨f, hf, hhalted⟩
    · exact .inl hc
    · exact .inr ⟨rs, rfl, f, Registry.mem_allMigrations.mp hf, hhalted⟩
  · intro honly hlive hok m hm hadv
    exact hbatch.all_ok_recorded hlive (hok rs rfl) (Registry.mem_allMigrations.mpr hm)
      (hselects honly m) hadv

end Law

/-! ## A batch that is halted -/

/-- A migration that halts the batch when it fails, and an advisory one after it. -/
def haltingRegistry : Registry where
  migrations := [.external "0001_move" "move" true false, .external "0002_clean" "clean" false true]
  unique := by decide
  consistent := by simp [Migration.external]

/-- A node where `run` raises in every migration. -/
def failingBodies (w : Node) : (c : OpsCall) → Raises Answer Exn c × Node
  | .readLedger => (.ok w.ledger, w)
  | .replaceLedger l => (.ok (), { w with ledger := .object l })
  | .sentinelExists => (.ok false, w)
  | .checkPreconditions id => (.ok (), w.note (.checked id (.ok ())))
  | .runMigration id => (.error (.osError "EIO"), w.note (.ran id (.error (.osError "EIO"))))
  | _ => (.error (.osError "EIO"), w)

theorem failingBodies_serve (w : Node) (c : OpsCall) :
    ledgerNode.serve w c (failingBodies w c).1 (failingBodies w c).2 := by
  cases c <;> simp [ledgerNode, failingBodies]

theorem haltingRegistry_external : ∀ m ∈ haltingRegistry.migrations,
    m = .external m.id m.description m.stopOnFailure m.advisory := by
  simp [haltingRegistry, Migration.external]

/-- The one invocation on an empty ledger: `0001_move` raises, and the batch ends. -/
theorem halted_run : Run ledgerNode ⟨.absent, []⟩ (applyPending haltingRegistry {})
    ⟨.absent, [.checked "0001_move" (.ok ()), .ran "0001_move" (.error (.osError "EIO"))]⟩
    (.pure (.ok [⟨"0001_move", false, [], some (.raised "EIO")⟩])) :=
  Prog.run_evalFor failingBodies_serve 4 _ _

/-- **A full run that attempts no advisory migration**: the registry has one, the
batch selects every migration and is not dry, and it ends before. -/
theorem halted_batch_skips_advisory : ∃ (reg : Registry) (w w' : Node) (inv : Invocation)
    (out : Except Exn (List Result)),
    (∀ m ∈ reg.migrations, m = .external m.id m.description m.stopOnFailure m.advisory) ∧
    w.Readable ∧ w.events = [] ∧ inv.skip = false ∧ inv.only = none ∧ inv.dryRun = false ∧
    Run ledgerNode w (applyPending reg inv) w' (.pure out) ∧
    ∃ m ∈ reg.migrations, m.advisory = true ∧ ∀ o, Event.checked m.id o ∉ w'.events := by
  refine ⟨haltingRegistry, _, _, {}, _, haltingRegistry_external, .inl rfl, rfl, rfl, rfl, rfl,
    halted_run, .external "0002_clean" "clean" false true, by simp [haltingRegistry], rfl, ?_⟩
  intro o
  simp [Migration.external]

/-- The law at that invocation. -/
theorem ledger_law_halted : Law haltingRegistry ⟨.absent, []⟩ [] ⟨.absent, []⟩
    ⟨.absent, [.checked "0001_move" (.ok ()), .ran "0001_move" (.error (.osError "EIO"))]⟩
    ⟨{}, [.checked "0001_move" (.ok ()), .ran "0001_move" (.error (.osError "EIO"))],
      .ok [⟨"0001_move", false, [], some (.raised "EIO")⟩]⟩ :=
  ledger_law haltingRegistry_external (.inl rfl) .start rfl halted_run rfl

end Greffer.Ops

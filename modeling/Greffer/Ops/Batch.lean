import Greffer.Ops.Runner

/-! # What one batch does to the ledger

`Batch` says what one batch does to the recorded ids, event by event, with
nothing of the runner left in it; `applyPending_batch` shows that the runner does
exactly this on a node whose ledger can be read and written.

The bodies of migrations are taken whole here (`Migration.external`): a body may
raise anything, and what it returns is a summary in the framework's sense
(`IsSummary`).  The node keeps the events of the bodies, in order.
-/
namespace Greffer.Ops
open Effects

/-- What happened to a migration: its precondition hook ended, or its `run` did. -/
inductive Event where
  | checked (id : String) (outcome : Except Exn Unit)
  | ran (id : String) (outcome : Except Exn PyValue)

/-- The ledger file of a node, and the bodies' events so far. -/
structure Node where
  ledger : LedgerFile
  events : List Event

namespace Node

/-- The ids the ledger file records. -/
def recorded (w : Node) : List String :=
  match w.ledger with
  | .object l => l.appliedIds
  | _ => []

/-- One more event. -/
def note (w : Node) (e : Event) : Node := { w with events := w.events ++ [e] }

/-- The ledger file is absent, or holds an object `json` wrote. -/
def Readable (w : Node) : Prop :=
  w.ledger = .absent ∨ ∃ l : Ledger, w.ledger = .object l ∧ l.applied.all Ledger.Serialisable = true

end Node

/-- A summary in the framework's sense: falsy, or a dict `json` can write whose
`errors` is a count and whose `backups` is a list. -/
def IsSummary (v : PyValue) : Prop :=
  v.truthy = false ∨ ∃ entries : PyDict, v = .dict entries ∧ v.serialisable = true ∧
    (PyDict.get? entries "errors" = none ∨
      ∃ n : Nat, PyDict.get? entries "errors" = some (.int n)) ∧
    (PyDict.get? entries "backups" = none ∨
      ∃ items, PyDict.get? entries "backups" = some (.list items))

/-- The error count of a summary. -/
def errorsOf (v : PyValue) : Int :=
  match v with
  | .dict entries =>
    match PyDict.get? entries "errors" with
    | some (.int n) => n
    | _ => 0
  | _ => 0

/-- A node without a legacy sentinel, whose ledger can be read and written. -/
def ledgerNode : Machine (Raises Answer Exn) Node where
  serve w c r w' :=
    match c, r with
    | .readLedger, r => r = .ok w.ledger ∧ w' = w
    | .replaceLedger l, r => r = .ok () ∧ w' = { w with ledger := .object l }
    | .sentinelExists, r => r = .ok false ∧ w' = w
    | .checkPreconditions id, r => w' = w.note (.checked id r)
    | .runMigration id, r => (∀ v, r = .ok v → IsSummary v) ∧ w' = w.note (.ran id r)
    | _, _ => w' = w

/-! ## Judging a summary -/

section Judge

theorem get?_without (d : PyDict) {key other : String} (h : key ≠ other) :
    PyDict.get? (PyDict.without d other) key = PyDict.get? d key := by
  unfold PyDict.get? PyDict.without
  induction d with
  | nil => rfl
  | cons e d ih =>
    by_cases he : e.1 = other
    · have hne : e.1 ≠ key := by rw [he]; exact fun hx => h hx.symm
      simpa [List.filter_cons, he, List.find?_cons, hne, show other ≠ key from fun hx => h hx.symm]
        using ih
    · by_cases hk : e.1 = key
      · simp [hk, h]
      · simpa [List.filter_cons, he, List.find?_cons, hk] using ih

theorem serialisableDict_filter (d : PyDict) (p : String × PyValue → Bool)
    (h : PyValue.serialisableDict d = true) : PyValue.serialisableDict (d.filter p) = true := by
  induction d with
  | nil => rfl
  | cons e d ih =>
    obtain ⟨k, v⟩ := e
    rw [PyValue.serialisableDict, Bool.and_eq_true] at h
    rw [List.filter_cons]
    split
    · rw [PyValue.serialisableDict, Bool.and_eq_true]
      exact ⟨h.1, ih h.2⟩
    · exact ih h.2

theorem serialisable_of_get? {d : PyDict} {key : String} {v : PyValue}
    (hd : PyValue.serialisableDict d = true) (h : PyDict.get? d key = some v) :
    v.serialisable = true := by
  induction d with
  | nil => cases h
  | cons e d ih =>
    obtain ⟨k, u⟩ := e
    rw [PyValue.serialisableDict, Bool.and_eq_true] at hd
    by_cases hk : k = key
    · have : u = v := by simpa [PyDict.get?, hk] using h
      exact this ▸ hd.1
    · exact ih hd.2 (by simpa [PyDict.get?, hk] using h)

/-- The error count the runner reads is the one the summary states. -/
theorem errorCount_without {entries : PyDict}
    (h : PyDict.get? entries "errors" = none ∨
      ∃ n : Nat, PyDict.get? entries "errors" = some (.int n)) :
    errorCount (PyDict.without entries "backups") = .ok (errorsOf (.dict entries)) := by
  unfold errorCount
  rw [get?_without entries (by decide)]
  rcases h with h | ⟨n, h⟩
  · rw [h]
    simp only [errorsOf, h]
  · rw [h]
    have hn : errorsOf (.dict entries) = n := by simp only [errorsOf, h]
    rw [hn]
    by_cases hz : (n : Int) = 0
    · simp [PyValue.truthy, hz]
    · simp only [PyValue.truthy, bne_iff_ne, ne_eq, hz, not_false_eq_true, if_true,
        PyValue.toInt]

theorem backupsOf_summary {entries : PyDict}
    (hs : PyValue.serialisableDict entries = true)
    (h : PyDict.get? entries "backups" = none ∨
      ∃ items, PyDict.get? entries "backups" = some (.list items)) :
    ∃ backups, backupsOf entries = .ok backups ∧ PyValue.serialisableList backups = true := by
  unfold backupsOf
  rcases h with h | ⟨items, h⟩
  · exact ⟨[], by rw [h], rfl⟩
  · have hitems : PyValue.serialisableList items = true := by
      have := serialisable_of_get? hs h
      rwa [PyValue.serialisable] at this
    rw [h]
    cases items with
    | nil => exact ⟨[], rfl, rfl⟩
    | cons v vs => exact ⟨v :: vs, rfl, hitems⟩

/-- **A summary is judged by its error count**, and by nothing else. -/
theorem judge_summary (id : String) {v : PyValue} (h : IsSummary v) :
    (0 < errorsOf v ∧ ∃ r : Result, judge id (.ok v) = .ok (.refused r) ∧ r.id = id ∧ r.ok = false) ∨
    (errorsOf v = 0 ∧ ∃ summary backups, judge id (.ok v) = .ok (.clean summary backups) ∧
      PyValue.serialisableDict summary = true ∧ PyValue.serialisableList backups = true) := by
  rcases h with hfalsy | ⟨entries, rfl, hs, herr, hback⟩
  · refine .inr ⟨?_, [], [], ?_, rfl, rfl⟩
    · cases v with
      | dict entries =>
        have : entries = [] := by simpa [PyValue.truthy] using hfalsy
        rw [this]
        rfl
      | _ => rfl
    · simp only [judge, summaryOf, hfalsy]
      rfl
  · rw [PyValue.serialisable] at hs
    obtain ⟨backups, hbackups, hlist⟩ := backupsOf_summary hs hback
    have hcount := errorCount_without herr
    have hreturned : summaryOf (.dict entries) = some entries := by
      cases entries with
      | nil => rfl
      | cons e es => rfl
    have hnonneg : 0 ≤ errorsOf (.dict entries) := by
      unfold errorsOf
      rcases herr with h | ⟨n, h⟩ <;> simp [h]
    by_cases hpos : 0 < errorsOf (.dict entries)
    · refine .inl ⟨hpos, ⟨id, false, PyDict.without entries "backups",
        some (.perItem (errorsOf (.dict entries)))⟩, ?_, rfl, rfl⟩
      simp only [judge, hreturned, hbackups, hcount, if_pos hpos]
    · refine .inr ⟨by omega, PyDict.without entries "backups", backups, ?_,
        serialisableDict_filter entries _ hs, hlist⟩
      simp only [judge, hreturned, hbackups, hcount, if_neg hpos]

end Judge

/-! ## One attempt -/

/-- **What one attempt at a migration comes to**: the events, the result, and
whether the migration is recorded. -/
inductive Attempt (mig : Migration) : List Event → Result → Bool → Prop
  /-- The precondition hook raised. -/
  | blocked (e : Exn) (r : Result) (hid : r.id = mig.id) (hr : r.ok = false) :
      Attempt mig [.checked mig.id (.error e)] r false
  /-- `run` raised, or its summary counts errors. -/
  | failed (out : Except Exn PyValue) (r : Result) (hid : r.id = mig.id) (hr : r.ok = false)
      (hout : ∀ v, out = .ok v → 0 < errorsOf v) :
      Attempt mig [.checked mig.id (.ok ()), .ran mig.id out] r false
  /-- `run` returned a summary without errors. -/
  | passed (v : PyValue) (r : Result) (hid : r.id = mig.id) (hr : r.ok = true)
      (hv : errorsOf v = 0) :
      Attempt mig [.checked mig.id (.ok ()), .ran mig.id (.ok v)] r (!mig.advisory)

/-- The recorded ids after an attempt. -/
def recordIf (kept : Bool) (id : String) (ids : List String) : List String :=
  if kept then ids ++ [id] else ids

/-- The in-memory ledger and the node agree: the file can be read back to the
same ids, and what is in memory can be written. -/
structure InSync (l : Ledger) (w : Node) : Prop where
  readable : w.Readable
  recorded : w.recorded = l.appliedIds
  writable : l.applied.all Ledger.Serialisable = true

theorem InSync.note {l : Ledger} {w : Node} (h : InSync l w) (e : Event) : InSync l (w.note e) :=
  ⟨h.readable, h.recorded, h.writable⟩

/-- `markApplied` of an id not recorded yet appends it, on disk and in memory. -/
theorem markApplied_spec {l : Ledger} {w : Node} {id : String} {summary : PyDict}
    {backups : List PyValue} (h : InSync l w) (hid : id ∉ l.appliedIds)
    (hs : PyValue.serialisableDict summary = true)
    (hb : PyValue.serialisableList backups = true) :
    (l.markApplied id summary backups).Always ledgerNode (fun _ => True)
      (fun r w' => ∃ l', r = .ok l' ∧ l'.appliedIds = l.appliedIds ++ [id] ∧ InSync l' w' ∧
        w'.events = w.events) w := by
  have hnot : ¬ (l.isApplied id = true) := by rwa [Ledger.isApplied_iff]
  have hall : (l.record ⟨id, summary, backups⟩).applied.all Ledger.Serialisable = true := by
    have hnew : Ledger.Serialisable ⟨id, summary, backups⟩ = true := by
      simp [Ledger.Serialisable, hs, hb]
    simp only [Ledger.record, List.all_append, List.all_cons, List.all_nil, Bool.and_true,
      Bool.and_eq_true]
    exact ⟨h.writable, hnew⟩
  unfold Ledger.markApplied
  rw [if_neg hnot, Action.always_bind, Ledger.atomicWrite, if_pos hall]
  refine ⟨trivial, ?_⟩
  rintro r w' ⟨rfl, rfl⟩
  exact ⟨trivial, trivial, _, rfl, Ledger.appliedIds_record .., ⟨.inr ⟨_, rfl, hall⟩, rfl, hall⟩,
    rfl⟩

/-- **One attempt of the runner**: `runSingle` on a migration not recorded yet,
or on an advisory one. -/
theorem runSingle_attempt {mig : Migration} {l : Ledger} {w : Node}
    (hext : mig = .external mig.id mig.description mig.stopOnFailure mig.advisory)
    (h : InSync l w) (hpending : mig.id ∉ l.appliedIds ∨ mig.advisory = true) :
    (runSingle mig l).Always ledgerNode (fun _ => True)
      (fun out w' => ∃ r l' es kept, out = .ok (r, l') ∧ Attempt mig es r kept ∧
        w'.events = w.events ++ es ∧ InSync l' w' ∧
        l'.appliedIds = recordIf kept mig.id l.appliedIds) w := by
  unfold runSingle
  rw [Migration.bodies_of_external hext]
  simp only [Action.always_bind, Action.always_outcome]
  refine ⟨trivial, ?_⟩
  rintro (e | ⟨⟩) w₁ rfl
  · -- the precondition hook raised
    refine ⟨trivial, trivial, trivial, ?_⟩
    exact ⟨_, l, _, false, rfl, .blocked e ⟨mig.id, false, [], some (.raised e.text)⟩ rfl rfl,
      rfl, h.note _, rfl⟩
  refine ⟨trivial, trivial, ?_⟩
  rintro out w₂ ⟨hsummary, rfl⟩
  refine ⟨trivial, trivial, ?_⟩
  have hevents : ((w.note (.checked mig.id (.ok ()))).note (.ran mig.id out)).events =
      w.events ++ [.checked mig.id (.ok ()), .ran mig.id out] := by simp [Node.note]
  have hsync := (h.note (.checked mig.id (.ok ()))).note (.ran mig.id out)
  cases out with
  | error e =>
    refine ⟨trivial, ?_⟩
    exact ⟨_, l, _, false, rfl,
      .failed (.error e) ⟨mig.id, false, [], some (.raised e.text)⟩ rfl rfl (fun v hv => by cases hv),
      hevents, hsync, rfl⟩
  | ok v =>
    rcases judge_summary mig.id (hsummary v rfl) with
      ⟨hpos, r, hjudge, hid, hr⟩ | ⟨hzero, summary, backups, hjudge, hs, hb⟩
    · rw [hjudge]
      refine ⟨trivial, r, l, _, false, rfl, .failed (.ok v) r hid hr ?_, hevents, hsync, rfl⟩
      intro u hu
      rw [← Except.ok.inj hu]
      exact hpos
    · rw [hjudge]
      have hpassed : Attempt mig [.checked mig.id (.ok ()), .ran mig.id (.ok v)]
          ⟨mig.id, true, summary, none⟩ (!mig.advisory) := .passed v _ rfl rfl hzero
      cases hadv : mig.advisory with
      | true =>
        simp only [onOk_ok, conclude, hadv, if_true]
        refine ⟨trivial, _, l, _, _, rfl, hpassed, hevents, hsync, ?_⟩
        simp [hadv, recordIf]
      | false =>
        have hfresh : mig.id ∉ l.appliedIds := by
          rcases hpending with hfresh | htrue
          · exact hfresh
          · rw [hadv] at htrue
            cases htrue
        simp only [onOk_ok, conclude, hadv, Bool.false_eq_true, if_false, Action.always_bind]
        refine (markApplied_spec hsync hfresh hs hb).mono ?_
        rintro _ w₃ - ⟨l', rfl, hids, hsync', hev⟩
        refine ⟨trivial, _, l', _, _, rfl, hpassed, ?_, hsync', ?_⟩
        · rw [hev, hevents]
        · simp [hadv, recordIf, hids]

/-! ## One batch -/

/-- Whether the batch looks at the migration, when `ids` are recorded. -/
def Invocation.Considers (inv : Invocation) (ids : List String) (mig : Migration) : Prop :=
  inv.selects mig = true ∧ (mig.id ∉ ids ∨ mig.advisory = true)

theorem Invocation.passesOver_iff (inv : Invocation) (l : Ledger) (mig : Migration) :
    inv.passesOver l mig = true ↔ ¬ inv.Considers l.appliedIds mig := by
  unfold Invocation.passesOver Invocation.Considers
  rw [Bool.or_eq_true, Bool.and_eq_true, Ledger.isApplied_iff]
  cases inv.selects mig <;> cases mig.advisory <;> simp

/-- **What one batch does**: over the migrations still to come and the recorded
ids, the events, the results and the ids recorded at the end. -/
inductive Batch (inv : Invocation) :
    List Migration → List String → List Event → List Result → List String → Prop
  | nil (ids : List String) : Batch inv [] ids [] [] ids
  | passed {mig rest ids es rs ids'} (hover : ¬ inv.Considers ids mig)
      (tail : Batch inv rest ids es rs ids') : Batch inv (mig :: rest) ids es rs ids'
  | dry {mig rest ids es rs ids'} (hdry : inv.dryRun = true) (r : Result)
      (tail : Batch inv rest ids es rs ids') : Batch inv (mig :: rest) ids es (r :: rs) ids'
  | halted {mig rest ids es r kept} (hdry : inv.dryRun = false) (hin : inv.Considers ids mig)
      (attempt : Attempt mig es r kept) (halts : inv.halting mig r = true) :
      Batch inv (mig :: rest) ids es [inv.reported mig r] (recordIf kept mig.id ids)
  | went {mig rest ids es es' r rs ids' kept} (hdry : inv.dryRun = false)
      (hin : inv.Considers ids mig) (attempt : Attempt mig es r kept)
      (goes : inv.halting mig r = false)
      (tail : Batch inv rest (recordIf kept mig.id ids) es' rs ids') :
      Batch inv (mig :: rest) ids (es ++ es') (inv.reported mig r :: rs) ids'

/-- The loop of the runner is a `Batch`, and leaves the node in step with it. -/
theorem applyLoop_batch {inv : Invocation} {migs : List Migration} {l : Ledger} {w : Node}
    (hext : ∀ m ∈ migs, m = .external m.id m.description m.stopOnFailure m.advisory)
    (h : InSync l w) :
    (applyLoop inv migs l).Always ledgerNode (fun _ => True)
      (fun out w' => ∃ rs es ids', out = .ok rs ∧ Batch inv migs l.appliedIds es rs ids' ∧
        w'.events = w.events ++ es ∧ w'.recorded = ids' ∧ w'.Readable) w := by
  induction migs generalizing l w with
  | nil =>
    exact ⟨trivial, [], [], l.appliedIds, rfl, .nil _, (List.append_nil _).symm, h.recorded,
      h.readable⟩
  | cons mig rest ih =>
    have hrest : ∀ m ∈ rest, m = .external m.id m.description m.stopOnFailure m.advisory :=
      fun m hm => hext m (List.mem_cons_of_mem _ hm)
    unfold applyLoop
    by_cases hover : inv.passesOver l mig = true
    · rw [if_pos hover]
      refine (ih hrest h).mono ?_
      rintro _ w' - ⟨rs, es, ids', rfl, hbatch, hrec⟩
      exact ⟨rs, es, ids', rfl, .passed ((inv.passesOver_iff l mig).mp hover) hbatch, hrec⟩
    rw [if_neg hover]
    have hin : inv.Considers l.appliedIds mig :=
      Classical.not_not.mp fun hnot => hover ((inv.passesOver_iff l mig).mpr hnot)
    by_cases hdry : inv.dryRun = true
    · rw [if_pos hdry, Action.always_bind]
      refine (ih hrest h).mono ?_
      rintro _ w' - ⟨rs, es, ids', rfl, hbatch, hrec⟩
      exact ⟨trivial, _, es, ids', rfl, .dry hdry _ hbatch, hrec⟩
    rw [if_neg hdry, Action.always_bind]
    have hdry' : inv.dryRun = false := by simpa using hdry
    refine (runSingle_attempt (hext mig (List.mem_cons_self ..)) h hin.2).mono ?_
    rintro _ w₁ - ⟨r, l₁, es, kept, rfl, hattempt, hev, hsync, hids⟩
    by_cases halts : inv.halting mig r = true
    · simp only [onOk, if_pos halts]
      refine ⟨trivial, _, es, _, rfl, .halted hdry' hin hattempt halts, hev, ?_, hsync.readable⟩
      rw [hsync.recorded, hids]
    · simp only [onOk, if_neg halts, Action.always_bind]
      refine (ih hrest hsync).mono ?_
      rintro _ w' - ⟨rs, es', ids', rfl, hbatch, hev', hrec⟩
      rw [hids] at hbatch
      refine ⟨trivial, _, es ++ es', ids', rfl,
        .went hdry' hin hattempt (by simpa using halts) hbatch, ?_, hrec⟩
      rw [hev', hev, List.append_assoc]

/-- **The runner's batch.**  `applyPending` on a node whose ledger can be read and
written returns, and is a `Batch` over the registry in order. -/
theorem applyPending_batch {reg : Registry} {inv : Invocation} {w : Node}
    (hext : ∀ m ∈ reg.migrations, m = .external m.id m.description m.stopOnFailure m.advisory)
    (hskip : inv.skip = false) (h : w.Readable) :
    (applyPending reg inv).Always ledgerNode (fun _ => True)
      (fun out w' => ∃ rs es, out = .ok rs ∧
        Batch inv reg.allMigrations w.recorded es rs w'.recorded ∧
        w'.events = w.events ++ es ∧ w'.Readable) w := by
  have hloop : ∀ l : Ledger, InSync l w →
      (applyLoop inv reg.allMigrations l).Always ledgerNode (fun _ => True)
        (fun out w' => ∃ rs es, out = .ok rs ∧
          Batch inv reg.allMigrations w.recorded es rs w'.recorded ∧
          w'.events = w.events ++ es ∧ w'.Readable) w := by
    intro l hsync
    refine (applyLoop_batch (fun m hm => hext m (Registry.mem_allMigrations.mp hm)) hsync).mono ?_
    rintro _ w' - ⟨rs, es, ids', rfl, hbatch, hev, hrec, hread⟩
    rw [← hsync.recorded, ← hrec] at hbatch
    exact ⟨rs, es, rfl, hbatch, hev, hread⟩
  unfold applyPending Ledger.load Ledger.readOrEmpty Ledger.applyLegacySentinelShim
  simp only [hskip, Bool.false_eq_true, if_false, Action.always_bind]
  refine ⟨trivial, ?_⟩
  rintro _ w₁ ⟨rfl, rfl⟩
  rcases h with habs | ⟨l, hobj, hall⟩
  · have hrec : w₁.recorded = [] := by simp only [Node.recorded, habs]
    rw [habs]
    refine ⟨trivial, trivial, trivial, ?_⟩
    rintro _ w₂ ⟨rfl, rfl⟩
    exact ⟨trivial, trivial, hloop _ ⟨.inl habs, hrec, rfl⟩⟩
  · have hrec : w₁.recorded = l.appliedIds := by simp only [Node.recorded, hobj]
    rw [hobj]
    refine ⟨trivial, trivial, trivial, ?_⟩
    rintro _ w₂ ⟨rfl, rfl⟩
    exact ⟨trivial, trivial, hloop _ ⟨.inr ⟨l, hobj, hall⟩, hrec, hall⟩⟩

end Greffer.Ops

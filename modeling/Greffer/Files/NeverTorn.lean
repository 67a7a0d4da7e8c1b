import Greffer.Files.Writers

/-! # No file is ever torn

Each of these six writers keeps to the discipline of drafts.  So whatever set of them runs, in
whatever interleaving and wherever it is stopped, each of the files holds what it held at first or
the whole text of one of its writers (`never_torn`), and for those that call `fsync` this outlives a
loss of power (`durable_after_power_loss`).  A writer that returns has put its text in place, and
one that raises has not, and has at least tried to take its temporary file away
(`outcome_tells`).
-/
namespace Greffer.Writers
open Effects Files

/-! ## The writers keep to the discipline -/

section Discipline
variable {jobs : Job Exn → Prop} {job : Job Exn} {s : Draft} {fd : Nat} {tmp : Path}

/-- The draft is in the making. -/
structure Open (s : Draft) (fd : Nat) (tmp : Path) : Prop where
  holds : s.Holds fd tmp
  published : s.published = false

/-- The draft has this text, if nothing has failed. -/
def Holding (fd : Nat) (tmp : Path) (text : String) (r : Except Exn Unit) (s : Draft) : Prop :=
  Open s fd tmp ∧ (r = .ok () → s.text = some text)

/-- The text has arrived, and is on the disk if that is asked for. -/
def Stored (fd : Nat) (tmp : Path) (text : String) (synced : Bool) (r : Except Exn Unit)
    (s : Draft) : Prop :=
  Open s fd tmp ∧
    (r = .ok () → s.text = some text ∧ s.arrived = true ∧ (synced = true → s.synced = true))

theorem write_relies {t chunk : String} (hopen : Open s fd tmp) (ht : s.text = some t) :
    (onDisk (.write fd chunk) : Writing Unit).Relies (drafting faults jobs job)
      (Holding fd tmp (t ++ chunk)) s := by
  refine ⟨⟨tmp, hopen.holds⟩, ?_⟩
  rintro (e | u) -
  · exact ⟨⟨hopen.holds, hopen.published⟩, nofun⟩
  · exact ⟨⟨hopen.holds, hopen.published⟩, fun _ => by simp [drafting, ht]⟩

theorem writeChunks_relies {t : String} (chunks : List String) (hopen : Open s fd tmp)
    (ht : s.text = some t) : (writeChunks fd chunks).Relies (drafting faults jobs job)
      (Holding fd tmp (t ++ String.join chunks)) s := by
  induction chunks generalizing s t with
  | nil => exact ⟨hopen, fun _ => by simpa using ht⟩
  | cons chunk rest ih =>
    unfold writeChunks
    rw [Action.relies_bind]
    refine (write_relies hopen ht).mono ?_
    rintro (e | u) s' ⟨hopen', ht'⟩
    · exact ⟨hopen', nofun⟩
    · rw [String.join_cons, ← String.append_assoc]
      exact ih hopen' (ht' rfl)

theorem dump_relies (dumped : Dumped) (hopen : Open s fd tmp) (ht : s.text = some "") :
    (dump fd dumped).Relies (drafting faults jobs job)
      (Holding fd tmp (String.join dumped.chunks)) s := by
  unfold dump
  rw [Action.relies_bind]
  refine (writeChunks_relies dumped.chunks hopen ht).mono ?_
  rintro (e | u) s' ⟨hopen', ht'⟩
  · exact ⟨hopen', nofun⟩
  · rw [String.empty_append] at ht'
    rw [onOk_ok]
    cases dumped.failure with
    | none => exact ⟨hopen', fun _ => ht' rfl⟩
    | some e => exact ⟨hopen', nofun⟩

/-- After `flush` and `fsync` all is on the disk. -/
theorem flushAndSync_relies {t : String} (hopen : Open s fd tmp) (ht : s.text = some t) :
    (flushAndSync fd).Relies (drafting faults jobs job) (Stored fd tmp t true) s := by
  unfold flushAndSync
  refine Action.relies_call ⟨tmp, hopen.holds⟩ (fun e _ => ?_) fun _ _ => ?_
  · exact ⟨⟨hopen.holds, hopen.published⟩, nofun⟩
  · refine ⟨⟨tmp, hopen.holds⟩, ?_⟩
    rintro (e | u) -
    · exact ⟨⟨hopen.holds, hopen.published⟩, nofun⟩
    · exact ⟨⟨hopen.holds, hopen.published⟩, fun _ => ⟨ht, rfl, fun _ => rfl⟩⟩

/-- What is closed has arrived. -/
theorem closing_relies {t : String} {synced : Bool} {body : Writing Unit}
    (hbody : body.Relies (drafting faults jobs job)
      (fun r s => Holding fd tmp t r s ∧ (r = .ok () → synced = true → s.synced = true)) s) :
    (closing fd body).Relies (drafting faults jobs job) (Stored fd tmp t synced) s := by
  unfold closing
  rw [Action.relies_bind, Action.relies_outcome]
  refine hbody.mono ?_
  rintro r s' ⟨⟨hopen, ht⟩, hsynced⟩
  refine Action.relies_call ⟨tmp, hopen.holds⟩ (fun e _ => ?_) fun _ _ => ?_
  · exact ⟨⟨hopen.holds, hopen.published⟩, nofun⟩
  · exact ⟨⟨hopen.holds, hopen.published⟩, fun hr => ⟨ht hr, rfl, hsynced hr⟩⟩

theorem fillSynced_relies {t : String} {fill : Writing Unit}
    (hfill : fill.Relies (drafting faults jobs job) (Holding fd tmp t) s) :
    (closing fd do fill; flushAndSync fd).Relies (drafting faults jobs job) (Stored fd tmp t true) s := by
  refine closing_relies ?_
  rw [Action.relies_bind]
  refine hfill.mono ?_
  rintro (e | u) s' ⟨hopen, ht⟩
  · exact ⟨⟨hopen, nofun⟩, nofun⟩
  · refine (flushAndSync_relies hopen (ht rfl)).mono ?_
    rintro r s'' ⟨hopen', hstored⟩
    exact ⟨⟨hopen', fun hr => (hstored hr).1⟩, fun hr => (hstored hr).2.2⟩

/-- The file of one that does not. -/
theorem fillPlain_relies {text : String} (hopen : Open s fd tmp) (ht : s.text = some "") :
    (closing fd (onDisk (.write fd text))).Relies (drafting faults jobs job) (Stored fd tmp text false) s := by
  refine closing_relies ((write_relies hopen ht).mono ?_)
  rw [String.empty_append]
  exact fun r s' h => ⟨h, nofun⟩

/-- The thread has published, or its draft is still in the making. -/
def Published (fd : Nat) (tmp : Path) (r : Except Exn Unit) (s : Draft) : Prop :=
  match r with
  | .ok () => s.published = true
  | .error _ => Open s fd tmp

/-- **The rename**, once all is there. -/
theorem replace_relies (hgiven : jobs job) (hopen : Open s fd tmp) (hready : s.Ready job) :
    (onDisk (.replace tmp job.target) : Writing Unit).Relies (drafting faults jobs job)
      (Published fd tmp) s := by
  refine ⟨⟨hgiven, rfl, hready, fd, hopen.holds⟩, ?_⟩
  rintro (e | u) -
  · exact hopen
  · exact rfl

theorem chmod_relies {t : String} {synced : Bool} (hstored : Stored fd tmp t synced (.ok ()) s) :
    (onDisk (.chmod tmp 0o600) : Writing Unit).Relies (drafting faults jobs job)
      (Stored fd tmp t synced) s := by
  refine ⟨⟨rfl, fd, hstored.1.holds⟩, ?_⟩
  rintro (e | u) -
  · exact ⟨hstored.1, nofun⟩
  · exact hstored

/-- What a writer has come to: it has published, or has nothing left to take away. -/
def Ended (job : Job Exn) (r : Except Exn Unit) (s : Draft) : Prop :=
  match r with
  | .ok () => s.published = true
  | .error e => s.published = false ∧ (job.cleans e = true → s.Settled)

/-- Nothing is published, and nothing is left to take away. -/
def Away (s : Draft) : Prop := s.published = false ∧ s.Settled

theorem unlink_relies (hopen : Open s fd tmp) :
    (onDisk (.unlink tmp) : Writing Unit).Relies (drafting faults jobs job) (fun _ => Away) s := by
  refine ⟨⟨fd, hopen.holds⟩, ?_⟩
  rintro (e | u) -
  · exact ⟨hopen.published, .inr (.inr rfl)⟩
  · exact ⟨hopen.published, .inr (.inl rfl)⟩

theorem ignoringOSError_relies {m : Writing Unit} {P : Draft → Prop}
    (h : m.Relies (drafting faults jobs job) (fun _ => P) s) :
    (ignoringOSError m).Relies (drafting faults jobs job) (fun _ => P) s := by
  unfold ignoringOSError
  rw [Action.relies_tryExcept]
  refine h.mono ?_
  rintro (e | u) s' hs
  · cases e <;> exact hs
  · exact hs

theorem ignoringFileNotFound_relies {m : Writing Unit} {P : Draft → Prop}
    (h : m.Relies (drafting faults jobs job) (fun _ => P) s) :
    (ignoringFileNotFound m).Relies (drafting faults jobs job) (fun _ => P) s := by
  unfold ignoringFileNotFound
  rw [Action.relies_tryExcept]
  refine h.mono ?_
  rintro (e | u) s' hs
  · dsimp only
    rw [Action.relies_ite]
    exact ⟨fun _ => hs, fun _ => hs⟩
  · exact hs

/-- Whatever becomes of the attempt to take the draft away, the writer raises. -/
theorem giveUp_relies {m : Writing Unit} {e : Exn}
    (h : m.Relies (drafting faults jobs job) (fun _ => Away) s) :
    (do m; Action.raise e : Writing Unit).Relies (drafting faults jobs job) (Ended job) s := by
  rw [Action.relies_bind]
  refine h.mono ?_
  rintro (e' | u) s' ⟨hpublished, hsettled⟩
  · exact ⟨hpublished, fun _ => hsettled⟩
  · exact ⟨hpublished, fun _ => hsettled⟩

theorem attempt_relies (fd : Nat) (tmp : Path) {body : Writing Unit}
    {handler : Exn → Writing Unit}
    (hbody : body.Relies (drafting faults jobs job) (Published fd tmp) s)
    (hhandler : ∀ e s, Open s fd tmp → (handler e).Relies (drafting faults jobs job) (Ended job) s) :
    (body.tryExcept handler).Relies (drafting faults jobs job) (Ended job) s := by
  rw [Action.relies_tryExcept]
  refine hbody.mono ?_
  rintro (e | u) s' hs
  · exact hhandler e s' hs
  · exact hs

theorem open_made (fd : Nat) (tmp : Path) : Open { made := some (fd, tmp) } fd tmp :=
  ⟨⟨rfl, rfl⟩, rfl⟩

theorem ended_before (e : Exn) : Ended job (.error e) {} := ⟨rfl, fun _ => .inl rfl⟩

/-- The draft is made, after the directory. -/
theorem made_relies {pre suf dir : String} {next : Nat × Path → Writing Unit}
    (hnext : ∀ fd tmp, (next (fd, tmp)).Relies (drafting faults jobs job) (Ended job)
      { made := some (fd, tmp) }) :
    (onDisk (.mkstemp dir pre suf) >>= next).Relies (drafting faults jobs job) (Ended job) {} :=
  Action.relies_call rfl (fun e _ => ended_before e) fun made _ => hnext made.1 made.2

theorem Stored.ready {t : String} {synced : Bool} (h : Stored fd tmp t synced (.ok ()) s)
    (ht : t = job.text) (hsyncs : job.syncs = true → synced = true) : s.Ready job := by
  obtain ⟨htext, harrived, hsynced⟩ := h.2 rfl
  exact ⟨ht ▸ htext, harrived, fun hs => hsynced (hsyncs hs)⟩

/-! ### One by one -/

theorem unlinkIfThere_relies (hopen : Open s fd tmp) :
    (unlinkIfThere tmp).Relies (drafting faults jobs job) (fun _ => Away) s := by
  unfold unlinkIfThere
  refine ⟨⟨fd, hopen.holds⟩, ?_⟩
  rintro (e | there) hmay
  · exact (hmay e rfl).elim
  · cases there with
    | true => exact ignoringOSError_relies (unlink_relies hopen)
    | false => exact ⟨hopen.published, .inr (.inl rfl)⟩

theorem fillClientToml_relies {target content : String} (hgiven : jobs job)
    (htarget : job.target = target) (htext : job.text = content) (hopen : Open s fd tmp)
    (ht : s.text = some "") :
    (fillClientToml fd tmp target content).Relies (drafting faults jobs job) (Published fd tmp) s := by
  subst htarget
  unfold fillClientToml
  have hfill : (onDisk (.write fd content) : Writing Unit).Relies (drafting faults jobs job)
      (Holding fd tmp content) s := by
    refine (write_relies hopen ht).mono ?_
    rw [String.empty_append]
    exact fun _ _ h => h
  rw [Action.relies_bind]
  refine (fillSynced_relies hfill).mono ?_
  rintro (e | u) s' hstored
  · exact hstored.1
  · exact replace_relies hgiven hstored.1 (hstored.ready htext.symm fun _ => rfl)

theorem closeIgnored_relies (hopen : Open s fd tmp) :
    (ignoringOSError (onDisk (.close fd))).Relies (drafting faults jobs job)
      (fun r s => r = .ok () ∧ Open s fd tmp) s := by
  unfold ignoringOSError
  rw [Action.relies_tryExcept]
  refine ⟨⟨tmp, hopen.holds⟩, ?_⟩
  rintro (e | u) hmay
  · obtain ⟨text, rfl⟩ := hmay e rfl
    exact ⟨rfl, ⟨hopen.holds, hopen.published⟩⟩
  · exact ⟨rfl, ⟨hopen.holds, hopen.published⟩⟩

theorem writeClientToml_relies {content : String} {target : Target} (hgiven : jobs job)
    (htarget : job.target = target.path) (htext : job.text = content) :
    (writeClientToml content target).Relies (drafting faults jobs job) (Ended job) {} := by
  unfold writeClientToml
  refine Action.relies_attempt rfl ?_
  rintro (e | ⟨fd, tmp⟩) -
  · exact ended_before _
  · have hopen : Open { made := some (fd, tmp) } fd tmp := open_made fd tmp
    refine Action.relies_attempt trivial ?_
    rintro (e | u) -
    · -- nobody has taken the descriptor over
      dsimp only
      rw [Action.relies_bind]
      refine (closeIgnored_relies hopen).mono ?_
      rintro r s' ⟨rfl, hopen'⟩
      exact giveUp_relies (unlinkIfThere_relies hopen')
    · dsimp only
      rw [Action.relies_bind, Action.relies_outcome]
      refine (fillClientToml_relies hgiven htarget htext hopen rfl).mono ?_
      rintro (e | u) s' hs
      · exact giveUp_relies (unlinkIfThere_relies hs)
      · exact hs

/-- A text that is written, made readable to its owner only, and renamed. -/
theorem fillPrivate_relies {text target : String} (hgiven : jobs job) (htarget : job.target = target)
    (htext : job.text = text) (hsyncs : job.syncs = false) :
    (do
      onDisk (.fdopen fd)
      closing fd (onDisk (.write fd text))
      onDisk (.chmod tmp 0o600)
      onDisk (.replace tmp target) : Writing Unit).Relies (drafting faults jobs job)
        (Published fd tmp) { made := some (fd, tmp) } := by
  subst htarget
  refine Action.relies_call trivial (fun e _ => open_made fd tmp) fun _ _ => ?_
  rw [Action.relies_bind]
  refine (fillPlain_relies (open_made fd tmp) rfl).mono ?_
  rintro (e | u) s hstored
  · exact hstored.1
  · rw [onOk_ok, Action.relies_bind]
    refine (chmod_relies hstored).mono ?_
    rintro (e | u) s' hstored'
    · exact hstored'.1
    · exact replace_relies hgiven hstored'.1 (hstored'.ready htext.symm fun hs => hsyncs ▸ hs)

theorem writeToken_relies {content : String} {path : Target} (hgiven : jobs job)
    (htarget : job.target = path.path) (htext : job.text = content) (hsyncs : job.syncs = false)
    (hcleans : ∀ e, job.cleans e = (Writer.token content path).cleans e) :
    (writeToken content path).Relies (drafting faults jobs job) (Ended job) {} := by
  unfold writeToken
  refine Action.relies_call trivial (fun e _ => ended_before e) fun _ _ => ?_
  refine made_relies fun fd tmp => attempt_relies fd tmp ?_ ?_
  · exact fillPrivate_relies hgiven htarget htext hsyncs
  · intro e s hopen
    cases e with
    | osError text => exact giveUp_relies (ignoringOSError_relies (unlink_relies hopen))
    | _ =>
      -- this one it lets pass
      refine ⟨hopen.published, fun hc => ?_⟩
      rw [hcleans] at hc
      cases hc

theorem writeEnvFile_relies {text : String} {path : Target} (hgiven : jobs job)
    (htarget : job.target = path.path) (htext : job.text = text) (hsyncs : job.syncs = false) :
    (writeEnvFile text path).Relies (drafting faults jobs job) (Ended job) {} := by
  unfold writeEnvFile
  refine Action.relies_call trivial (fun e _ => ended_before e) fun _ _ => ?_
  refine made_relies fun fd tmp => attempt_relies fd tmp ?_ fun e s hopen => ?_
  · exact fillPrivate_relies hgiven htarget htext hsyncs
  · exact giveUp_relies (ignoringFileNotFound_relies (unlink_relies hopen))

theorem replaceDumped_relies {pre suf : String} {dumped : Dumped} {path : Target}
    (hgiven : jobs job) (htarget : job.target = path.path)
    (htext : job.text = String.join dumped.chunks) :
    (replaceDumped pre suf dumped path).Relies (drafting faults jobs job) (Ended job) {} := by
  unfold replaceDumped
  refine Action.relies_call trivial (fun e _ => ended_before e) fun _ _ => ?_
  refine made_relies fun fd tmp => attempt_relies fd tmp ?_ fun e s hopen => ?_
  · refine Action.relies_call trivial (fun e _ => open_made fd tmp) fun _ _ => ?_
    rw [Action.relies_bind]
    refine (fillSynced_relies (dump_relies dumped (open_made fd tmp) rfl)).mono ?_
    rintro (e | u) s hstored
    · exact hstored.1
    · rw [← htarget]
      exact replace_relies hgiven hstored.1 (hstored.ready htext.symm fun _ => rfl)
  · exact giveUp_relies (ignoringOSError_relies (unlink_relies hopen))

theorem fdopenOrClose_relies (hopen : Open s fd tmp) (ht : s.text = some "") :
    (fdopenOrClose fd).Relies (drafting faults jobs job) (Holding fd tmp "") s := by
  unfold fdopenOrClose
  rw [Action.relies_tryExcept]
  refine ⟨trivial, ?_⟩
  rintro (e | u) -
  · refine Action.relies_call ⟨tmp, hopen.holds⟩ (fun e _ => ?_) fun _ _ => ?_
    · exact ⟨⟨hopen.holds, hopen.published⟩, nofun⟩
    · exact ⟨⟨hopen.holds, hopen.published⟩, nofun⟩
  · exact ⟨hopen, fun _ => ht⟩

theorem writeComposeFile_relies {text : String} {path : Target} (hgiven : jobs job)
    (htarget : job.target = path.path) (htext : job.text = text) (hsyncs : job.syncs = false) :
    (writeComposeFile text path).Relies (drafting faults jobs job) (Ended job) {} := by
  unfold writeComposeFile
  refine made_relies fun fd tmp => attempt_relies fd tmp ?_ fun e s hopen => ?_
  · rw [Action.relies_bind]
    refine (fdopenOrClose_relies (open_made fd tmp) rfl).mono ?_
    rintro (e | u) s ⟨hopen, ht⟩
    · exact hopen
    · rw [onOk_ok, Action.relies_bind]
      refine (fillPlain_relies hopen (ht rfl)).mono ?_
      rintro (e | u) s' hstored
      · exact hstored.1
      · rw [← htarget]
        exact replace_relies hgiven hstored.1 (hstored.ready htext.symm fun hs => hsyncs ▸ hs)
  · exact giveUp_relies (ignoringFileNotFound_relies (unlink_relies hopen))

/-- **Each writer does its job.** -/
theorem write_ends (writer : Writer) (hgiven : jobs writer.job) :
    writer.write.Relies (drafting faults jobs writer.job) (Ended writer.job) {} := by
  cases writer with
  | clientToml content target => exact writeClientToml_relies hgiven rfl rfl
  | token content path => exact writeToken_relies hgiven rfl rfl rfl fun _ => rfl
  | stickyPorts dumped instDir => exact replaceDumped_relies hgiven rfl rfl
  | ledger dumped path => exact replaceDumped_relies hgiven rfl rfl
  | envFile text path => exact writeEnvFile_relies hgiven rfl rfl rfl
  | composeFile text path => exact writeComposeFile_relies hgiven rfl rfl rfl

theorem disciplined : Disciplined faults jobs Writer.job blocks := by
  intro writer l hgiven
  refine Action.relies_once.mpr ?_
  rw [Action.relies_bind, Action.relies_outcome]
  refine (write_ends writer hgiven).mono ?_
  rintro (e | u) s hended
  · exact ⟨hended, fun _ _ => rfl⟩
  · exact ⟨hended, fun _ _ => rfl⟩

end Discipline

/-! ## Runs -/

/-- The jobs of some writers. -/
def given (writers : List Writer) (job : Job Exn) : Prop := ∃ writer ∈ writers, writer.job = job

theorem unstarted (writers : List Writer) :
    ∀ t ∈ threads writers, Unstarted (given writers) Writer.job t := by
  intro t ht
  obtain ⟨writer, hmem, rfl⟩ := List.mem_map.mp ht
  exact ⟨⟨writer, hmem, rfl⟩, (), rfl⟩

section Runs
variable {writers : List Writer} {targets : Path → Prop} {w : Disk}
  {q : Crew (Replies Exn Writer) Label Disk} {es es' : List (Disk × Event (Replies Exn Writer))}

theorem filed_along (htargets : ∀ writer ∈ writers, targets writer.target) (hw : w.Initial)
    (rounds : (disk Writer faults targets).Rounds (fun _ => False) blocks ⟨w, threads writers⟩ es q) :
    Filed targets (given writers) w q.world := by
  refine whole_along ?_ disciplined (unstarted writers) hw rounds
  rintro job ⟨writer, hmem, rfl⟩
  exact htargets writer hmem

/-- **No file is ever torn.**  Whatever the interleaving of the writers, and wherever all of them are
stopped, a file that was there is still there, and what stands under its name is the file of the
start, or the whole text of one of its writers, which only its owner may read. -/
theorem never_torn (htargets : ∀ writer ∈ writers, targets writer.target) (hw : w.Initial)
    (rounds : (disk Writer faults targets).Rounds (fun _ => False) blocks ⟨w, threads writers⟩ es q)
    {p : Path} (hp : targets p) :
    (w.names p ≠ none → q.world.names p ≠ none) ∧
      ∀ i, q.world.names p = some i →
        (w.names p = some i ∧ q.world.files i = w.files i) ∨
          ∃ writer ∈ writers, writer.target = p ∧ (q.world.files i).stored = writer.text ∧
            (q.world.files i).mode = 0o600 := by
  have hfiled := filed_along htargets hw rounds
  have hnamed := hfiled.named p hp
  refine ⟨fun hthere hgone => ?_, fun i hi => ?_⟩
  · rw [hgone] at hnamed
    have hnone := hfiled.stays p hp hnamed
    rw [hw.past p, List.mem_singleton] at hnone
    exact hthere hnone.symm
  · rw [hi] at hnamed
    rcases hfiled.whole p hp i hnamed with ⟨hold, hsame⟩ | ⟨job, ⟨writer, hmem, rfl⟩, htarget, hwhole⟩
    · rw [hw.past p, List.mem_singleton] at hold
      exact .inl ⟨hold.symm, hsame⟩
    · exact .inr ⟨writer, hmem, htarget, hwhole.1, hwhole.2.1⟩

/-- A loss of power, as far as it concerns a name: it may stand again for what it has stood for, and
a file keeps what was on the disk; of what was not, anything may be left. -/
structure PowerLoss (p : Path) (w w' : Disk) : Prop where
  names : w'.names p ∈ w.past p
  files : ∀ i, (w.files i).synced = true → w'.files i = w.files i

/-- **A file whose writers call `fsync` outlives a loss of power** at any point of any run. -/
theorem durable_after_power_loss (htargets : ∀ writer ∈ writers, targets writer.target)
    (hw : w.Initial)
    (rounds : (disk Writer faults targets).Rounds (fun _ => False) blocks ⟨w, threads writers⟩ es q)
    {p : Path} (hp : targets p) (hbefore : ∀ i, w.names p = some i → (w.files i).synced = true)
    (hsyncs : ∀ writer ∈ writers, writer.target = p → writer.syncs = true)
    {w' : Disk} (loss : PowerLoss p q.world w') :
    (w.names p ≠ none → w'.names p ≠ none) ∧
      ∀ i, w'.names p = some i →
        (w.names p = some i ∧ w'.files i = w.files i) ∨
          ∃ writer ∈ writers, writer.target = p ∧ (w'.files i).stored = writer.text := by
  have hfiled := filed_along htargets hw rounds
  have hnamed := loss.names
  refine ⟨fun hthere hgone => ?_, fun i hi => ?_⟩
  · rw [hgone] at hnamed
    have hnone := hfiled.stays p hp hnamed
    rw [hw.past p, List.mem_singleton] at hnone
    exact hthere hnone.symm
  · rw [hi] at hnamed
    rcases hfiled.whole p hp i hnamed with ⟨hold, hsame⟩ | ⟨job, ⟨writer, hmem, rfl⟩, htarget, hwhole⟩
    · rw [hw.past p, List.mem_singleton] at hold
      have hkept : w'.files i = q.world.files i :=
        loss.files i (hsame ▸ hbefore i hold.symm)
      exact .inl ⟨hold.symm, hkept.trans hsame⟩
    · have hkept : w'.files i = q.world.files i :=
        loss.files i (hwhole.2.2 (hsyncs writer hmem htarget))
      exact .inr ⟨writer, hmem, htarget, hkept ▸ hwhole.1⟩

theorem renamed_whole (htargets : ∀ writer ∈ writers, targets writer.target) (hw : w.Initial)
    (rounds : (disk Writer faults targets).Rounds (fun _ => False) blocks ⟨w, threads writers⟩ es q)
    {w' : Disk} {n : Nat} {writer : Writer} {tmp path : Path} {r : Except Exn Unit}
    (he : (w', .called n writer (.replace tmp path) r) ∈ es) :
    path = writer.target ∧ ∃ i, w'.names tmp = some i ∧ (w'.files i).stored = writer.text := by
  have haimed : Aimed targets (given writers) := by
    rintro job ⟨writer, hmem, rfl⟩
    exact htargets writer hmem
  have hstart : Relied.Agrees (fun writer => drafting faults (given writers) writer.job)
      (AtStart (given writers) Writer.job) (Drafted targets)
      (fun _ w' => Filed targets (given writers) w w')
      (⟨w, threads writers⟩ : Crew (Replies Exn Writer) Label Disk) :=
    ⟨hw.filed, fun n t ht => ⟨{}, (unstarted writers t (List.mem_of_getElem? ht)).relies,
      fun _ _ hholds => nomatch hholds.1⟩⟩
  obtain ⟨N, s, -, hdraft, ⟨-, hpath, hready, fd, hholds⟩, -⟩ :=
    (relied haimed disciplined (fun _ => False.elim) w).at_call rounds hstart he
  have howned := hdraft fd tmp hholds
  have hfilled := howned.filled
  refine ⟨hpath, fd, howned.named, ?_⟩
  exact (hfilled.arrived hready.arrived).trans (hfilled.written _ hready.text)

/-- The calls of a thread are those of its writer, -/
theorem kind_before {w' w'' : Disk} {n : Nat} {k writer : Writer} {c c' : FileCall Exn}
    {r : Raises FileCall.Answer Exn c} {r' : Raises FileCall.Answer Exn c'}
    (rounds : (disk Writer faults targets).Rounds (fun _ => False) blocks ⟨w, threads writers⟩
      (es ++ (w', .called n writer c r) :: es') q)
    {t : Worker (Replies Exn Writer) Label} (ht : (threads writers)[n]? = some t)
    (hmem : (w'', .called n k c' r') ∈ es) : k = writer := by
  have hkind : writer = t.kind := rounds.kind_call ht
  obtain ⟨es₁, es₂, rfl⟩ := List.append_of_mem hmem
  rw [List.append_assoc, List.cons_append] at rounds
  exact (rounds.kind_call ht).trans hkind.symm

/-- and each is one that its discipline allows. -/
theorem allowed_before {n : Nat}
    (rounds : (disk Writer faults targets).Rounds (fun _ => False) blocks ⟨w, threads writers⟩
      (es ++ es') q)
    {t : Worker (Replies Exn Writer) Label} (ht : (threads writers)[n]? = some t) :
    Allowed faults (given writers) Writer.job n es := by
  rintro before after w k c r rfl
  rw [List.append_assoc, List.cons_append] at rounds
  exact rounds.allowed_call (fun served => served.1) (fun hat => disciplined.block hat) ht
    (unstarted writers t (List.mem_of_getElem? ht)).relies

/-- **What a writer tells its caller is so.**  It returns exactly if it has renamed a file with all
of its text onto the target; and when it raises an exception that it cleans up after, and `mkstemp`
has given it a temporary file, it has made the call that takes this file away, or has found it
gone. -/
theorem outcome_tells (htargets : ∀ writer ∈ writers, targets writer.target) (hw : w.Initial)
    {w' : Disk} {n : Nat} {writer : Writer} {outcome r : Except Exn Unit}
    (rounds : (disk Writer faults targets).Rounds (fun _ => False) blocks ⟨w, threads writers⟩
      (es ++ (w', .called n writer (.report outcome) r) :: es') q) :
    (outcome = .ok () ↔ ∃ w tmp i,
      (w, .called n writer (.replace tmp writer.target) (.ok ())) ∈ es ∧ w.names tmp = some i ∧
        (w.files i).stored = writer.text) ∧
      ∀ e, outcome = .error e → writer.cleans e = true → ∀ w dir pre suf fd tmp,
        (w, .called n writer (.mkstemp dir pre suf) (.ok (fd, tmp))) ∈ es →
          ∃ w, (∃ r, (w, .called n writer (.unlink tmp) r) ∈ es) ∨
            (w, .called n writer (.exists tmp) (.ok false)) ∈ es := by
  have hreport : (w', .called n writer (.report outcome) r) ∈
      es ++ (w', .called n writer (.report outcome) r) :: es' :=
    List.mem_append_right _ List.mem_cons_self
  obtain ⟨t, ht⟩ := rounds.thread_of_call (fun _ => id) hreport
  have hallowed := rounds.allowed_call (fun served => served.1)
    (fun hat => disciplined.block hat) ht
    (unstarted writers t (List.mem_of_getElem? ht)).relies
  cases outcome with
  | ok u =>
    refine ⟨iff_of_true rfl ?_, nofun⟩
    obtain ⟨w₁, k, c, r₁, hmem, hrenames⟩ := published_iff.mp hallowed
    -- the same thread, so the same writer
    obtain rfl : k = writer := kind_before rounds ht hmem
    obtain ⟨es₁, es₂, rfl⟩ := List.append_of_mem hmem
    rw [List.append_assoc, List.cons_append] at rounds
    cases c with
    | replace tmp path =>
      cases r₁ with
      | error e => exact hrenames.elim
      | ok u =>
        obtain ⟨rfl, i, hnamed, hstored⟩ := renamed_whole htargets hw rounds
          (List.mem_append_right _ List.mem_cons_self)
        exact ⟨w₁, tmp, i, hmem, hnamed, hstored⟩
    | _ => exact hrenames.elim
  | error e =>
    obtain ⟨hpublished, hsettled⟩ := hallowed
    have hnever : ¬ ∃ w k c r, (w, .called n k c r) ∈ es ∧ Renames c r := fun h =>
      nomatch hpublished.symm.trans (published_iff.mpr h)
    refine ⟨iff_of_false nofun ?_, ?_⟩
    · rintro ⟨w₁, tmp, i, hmem, -⟩
      exact hnever ⟨w₁, writer, _, _, hmem, trivial⟩
    · rintro _ ⟨rfl⟩ hcleans w₁ dir pre suf fd tmp hmade
      have hcalls := allowed_before rounds ht
      have hown := made_of_mkstemp hcalls hmade
      rcases hsettled hcleans with hnone | haway
      · exact nomatch hnone.symm.trans hown
      · obtain ⟨w₂, k, c, r₁, hmem, hrenames | hremoves⟩ := away_iff.mp haway
        · exact absurd ⟨w₂, k, c, r₁, hmem, hrenames⟩ hnever
        · obtain ⟨w₃, k', hgone⟩ := removes_made hcalls hmade ⟨w₂, k, c, r₁, hmem, hremoves⟩
          obtain rfl : k' = writer := by
            rcases hgone with ⟨r₂, hcall⟩ | hcall
            · exact kind_before rounds ht hcall
            · exact kind_before rounds ht hcall
          exact ⟨w₃, hgone⟩

end Runs

/-! ### Two that race -/

/-- Calls that succeed. -/
def obliging (target : Path) (n : Nat) (w : Disk) :
    (c : FileCall Exn) → Option (Raises FileCall.Answer Exn c × Disk)
  | .makedirs _ | .fdopen _ | .report _ => some (.ok (), w)
  | .mkstemp dir pre suf =>
    let tmp := dir ++ "/" ++ pre ++ toString w.opened ++ suf
    if w.names tmp = none ∧ tmp ≠ target then some (.ok (w.opened, tmp), w.make n tmp) else none
  | .write fd text => some (.ok (), w.put fd { w.files fd with
      written := (w.files fd).written ++ text, stored := "", synced := false })
  | .flush fd | .close fd => some (.ok (), w.put fd { w.files fd with
      stored := (w.files fd).written,
      synced := (w.files fd).synced && (w.files fd).stored == (w.files fd).written })
  | .fsync fd => some (.ok (), w.put fd { w.files fd with synced := true })
  | .replace tmp path => (w.names tmp).map fun i => (.ok (), (w.rename tmp none).rename path (some i))
  | .exists path => some (.ok (w.names path).isSome, w)
  | _ => none

theorem obliging_serves (target : Path) (n : Nat) (k : Writer) (w : Disk) (c : FileCall Exn)
    (r : Raises FileCall.Answer Exn c) (w' : Disk) (h : obliging target n w c = some (r, w')) :
    (disk Writer faults (· = target)).serve n k w c r w' := by
  cases c with
  | makedirs | fdopen | flush | close | fsync =>
    cases h
    exact ⟨nofun, rfl⟩
  | report | «exists» =>
    cases h
    exact ⟨nofun, rfl, rfl⟩
  | mkstemp dir pre suf =>
    simp only [obliging] at h
    split at h
    case isTrue hfree =>
      cases h
      exact ⟨nofun, rfl, ⟨_, rfl⟩, hfree.1, hfree.2, rfl⟩
    case isFalse => cases h
  | write fd text =>
    cases h
    exact ⟨nofun, "", List.nil_prefix, rfl⟩
  | replace tmp path =>
    obtain ⟨i, hi, heq⟩ := Option.map_eq_some_iff.mp h
    cases heq
    exact ⟨nofun, i, hi, rfl⟩
  | chmod | unlink => cases h

/-- The tunnel's configuration, -/
def clientToml : Target := ⟨"/data", "client.toml"⟩

/-- as the start of one instance and as the stop of another would have it. -/
def racers : List Writer := [.clientToml "started" clientToml, .clientToml "stopped" clientToml]

/-- A disk with nothing on it. -/
def emptyDisk : Disk where
  files _ := {}
  opened := 0
  names _ := none
  owner _ := none
  past _ := [none]

theorem emptyDisk_initial : emptyDisk.Initial := ⟨fun _ => rfl, nofun⟩

/-- Some calls of one of them. -/
def raceFor (n : Nat) (writer : Writer) (m : Nat)
    (p : Prog (Replies Exn Writer writer) (Option Unit)) (w : Disk) :=
  roundsFor (obliging clientToml.path n) (blocks writer) n m p w

/-- The first has written its file, -/
def firstWritten := raceFor 0 (.clientToml "started" clientToml) 7 (.pure (some ())) emptyDisk

/-- the second overtakes it -/
def secondRenamed :=
  raceFor 1 (.clientToml "stopped" clientToml) 8 (.pure (some ())) firstWritten.2.1

/-- and returns, -/
def secondReturned := raceFor 1 (.clientToml "stopped" clientToml) 1 secondRenamed.2.2 secondRenamed.2.1

/-- and the first goes on. -/
def firstReturned := raceFor 0 (.clientToml "started" clientToml) 3 firstWritten.2.2 secondReturned.2.1

theorem race_rounds : ∃ q, (disk Writer faults (· = clientToml.path)).Rounds (fun _ => False) blocks
    ⟨emptyDisk, threads racers⟩
    (firstWritten.1 ++ secondRenamed.1 ++
      (secondRenamed.2.1, .called 1 (.clientToml "stopped" clientToml) (.report (.ok ())) (.ok ())) ::
        firstReturned.1) q ∧ q.world = firstReturned.2.1 := by
  have halone (n : Nat) (writer : Writer) (m : Nat)
      (p : Prog (Replies Exn Writer writer) (Option Unit)) (w : Disk)
      (ts : List (Worker (Replies Exn Writer) Label)) (hn : ts[n]? = some ⟨writer, p⟩) :
      (disk Writer faults (· = clientToml.path)).Rounds (fun _ => False) blocks ⟨w, ts⟩
        (raceFor n writer m p w).1 ⟨(raceFor n writer m p w).2.1,
          ts.set n ⟨writer, (raceFor n writer m p w).2.2⟩⟩ :=
    Shared.Rounds.alone (obliging_serves clientToml.path n writer) m p w ts hn
  have h₁ := halone 0 (.clientToml "started" clientToml) 7 (.pure (some ())) emptyDisk
    (threads racers) rfl
  have h₂ := halone 1 (.clientToml "stopped" clientToml) 8 (.pure (some ())) firstWritten.2.1
    [⟨_, firstWritten.2.2⟩, ⟨_, .pure (some ())⟩] rfl
  have h₃ := halone 1 (.clientToml "stopped" clientToml) 1 secondRenamed.2.2 secondRenamed.2.1
    [⟨_, firstWritten.2.2⟩, ⟨_, secondRenamed.2.2⟩] rfl
  have h₄ := halone 0 (.clientToml "started" clientToml) 3 firstWritten.2.2 secondReturned.2.1
    [⟨_, firstWritten.2.2⟩, ⟨_, secondReturned.2.2⟩] rfl
  exact ⟨_, (h₁.append h₂).append (h₃.append h₄), rfl⟩

theorem race_targets : ∀ writer ∈ racers, writer.target = clientToml.path := by
  intro writer hmem
  simp only [racers, List.mem_cons, List.not_mem_nil, or_false] at hmem
  rcases hmem with rfl | rfl <;> rfl

/-- The one that renames last is what is left, whole. -/
theorem never_torn_race : (firstReturned.2.1.files 0).stored = "started" ∧
    ∃ writer ∈ racers, writer.target = clientToml.path ∧
      (firstReturned.2.1.files 0).stored = writer.text ∧
      (firstReturned.2.1.files 0).mode = 0o600 := by
  obtain ⟨q, rounds, hq⟩ := race_rounds
  have hnamed : q.world.names clientToml.path = some 0 := by
    rw [hq]
    decide +kernel
  have hwhole := (never_torn race_targets emptyDisk_initial rounds rfl).2 0 hnamed
  rw [hq] at hwhole
  exact ⟨by decide +kernel, hwhole.resolve_left (by simp [emptyDisk])⟩

/-- After a loss of power it may be the other one. -/
def restored : Disk := { firstReturned.2.1 with names := fun _ => some 1 }

theorem durable_after_power_loss_race : (restored.files 1).stored = "stopped" ∧
    ∃ writer ∈ racers, writer.target = clientToml.path ∧
      (restored.files 1).stored = writer.text := by
  obtain ⟨q, rounds, hq⟩ := race_rounds
  have loss : PowerLoss clientToml.path q.world restored := by
    rw [hq]
    exact ⟨by decide +kernel, fun _ _ => rfl⟩
  have hsyncs : ∀ writer ∈ racers, writer.target = clientToml.path → writer.syncs = true := by
    intro writer hmem _
    simp only [racers, List.mem_cons, List.not_mem_nil, or_false] at hmem
    rcases hmem with rfl | rfl <;> rfl
  have hwhole := (durable_after_power_loss race_targets emptyDisk_initial rounds rfl nofun hsyncs
    loss).2 1 rfl
  exact ⟨by decide +kernel, hwhole.resolve_left (by simp [emptyDisk])⟩

/-- The second one returns, since it has renamed its file. -/
theorem outcome_tells_race : ∃ w tmp i,
    (w, .called 1 (.clientToml "stopped" clientToml) (.replace tmp clientToml.path) (.ok ())) ∈
      firstWritten.1 ++ secondRenamed.1 ∧
      w.names tmp = some i ∧ (w.files i).stored = "stopped" := by
  obtain ⟨q, rounds, -⟩ := race_rounds
  exact (outcome_tells race_targets emptyDisk_initial rounds).1.mp rfl

end Greffer.Writers

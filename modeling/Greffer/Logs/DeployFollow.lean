import Greffer.Logs.Read

/-! # Following a deploy log

A deploy opens `deploy.log` with `'wb'`, so that its file begins anew in place, and what it writes
is appended.  A follower polls with the cursor of the answer before, a byte offset, and is handed
the lines that have been ended since.

**A rotation is noticed by the size alone**: where the new file has grown to the old offset before
the next poll, that poll reads on in the middle of it.  `follow_iff` says that this is the only way
in which a follower is misled.
-/
namespace Greffer.Logs.Deploy

/-! ## The lines of a file -/

/-- The bytes of these lines, each of them ended. -/
def ended (lines : List (List UInt8)) : List UInt8 := lines.flatMap (· ++ [10])

/-- How many bytes these are, as the poll counts them. -/
def sizeOfLines (lines : List (List UInt8)) : Nat := (lines.map fun b => b.length + 1).sum

@[simp] theorem ended_nil : ended [] = [] := rfl

@[simp] theorem ended_cons (line : List UInt8) (rest : List (List UInt8)) :
    ended (line :: rest) = line ++ 10 :: ended rest := by
  simp [ended]

theorem ended_append (lines lines' : List (List UInt8)) :
    ended (lines ++ lines') = ended lines ++ ended lines' := List.flatMap_append

theorem length_ended (lines : List (List UInt8)) : (ended lines).length = sizeOfLines lines := by
  induction lines with
  | nil => rfl
  | cons line rest ih =>
    rw [ended_cons, List.length_append, List.length_cons, ih]
    simp only [sizeOfLines, List.map_cons, List.sum_cons]
    omega

theorem sizeOfLines_append (lines lines' : List (List UInt8)) :
    sizeOfLines (lines ++ lines') = sizeOfLines lines + sizeOfLines lines' := by
  simp [sizeOfLines]

theorem completeLines_line {line : List UInt8} (h : 10 ∉ line) (read rest : List UInt8) :
    completeLines read (line ++ 10 :: rest) = (read ++ line) :: completeLines [] rest := by
  induction line generalizing read with
  | nil => simp [completeLines]
  | cons b line ih =>
    have hb : b ≠ 10 := fun heq => h (heq ▸ List.mem_cons_self)
    rw [List.cons_append, completeLines, if_neg hb, ih fun hmem => h (List.mem_cons_of_mem _ hmem)]
    simp

/-- The lines that are ended, and the lines of what comes behind them. -/
theorem completeLines_ended {lines : List (List UInt8)} (h : ∀ line ∈ lines, 10 ∉ line)
    (rest : List UInt8) : completeLines [] (ended lines ++ rest) = lines ++ completeLines [] rest := by
  induction lines with
  | nil => rfl
  | cons line lines ih =>
    rw [ended_cons, List.append_assoc, List.cons_append,
      completeLines_line (h line List.mem_cons_self),
      ih fun l hl => h l (List.mem_cons_of_mem _ hl)]
    rfl

/-- **A file is its complete lines and what comes behind them.** -/
theorem ended_completeLines (read bytes : List UInt8) (hread : 10 ∉ read) :
    (∀ line ∈ completeLines read bytes, 10 ∉ line) ∧
      ∃ rest, read ++ bytes = ended (completeLines read bytes) ++ rest := by
  induction bytes generalizing read with
  | nil => exact ⟨fun _ h => (by cases h), read, by simp [completeLines]⟩
  | cons b bytes ih =>
    by_cases hb : b = 10
    · subst hb
      obtain ⟨hplain, rest, hrest⟩ := ih [] (by simp)
      rw [completeLines, if_pos rfl]
      refine ⟨fun line hline => ?_, rest, ?_⟩
      · cases List.mem_cons.mp hline with
        | inl heq => exact heq ▸ hread
        | inr hmem => exact hplain line hmem
      · rw [ended_cons, List.append_assoc, List.cons_append, ← hrest]
        rfl
    · have hread' : 10 ∉ read ++ [b] := by
        simp only [List.mem_append, List.mem_singleton, not_or]
        exact ⟨hread, fun heq => hb heq.symm⟩
      obtain ⟨hplain, rest, hrest⟩ := ih (read ++ [b]) hread'
      rw [completeLines, if_neg hb]
      exact ⟨hplain, rest, by rw [← hrest]; simp⟩

/-! ## The follower -/

/-- What one poll asks for, and finds on the host besides the log. -/
structure Poll where
  tail : PyValue
  service : Option String
  deployed : Bool
  /-- `list_instance_containers`, which this stream does not look at. -/
  containers : Except Exn (List Source)

/-- What goes on. -/
inductive Event where
  /-- A deploy begins: `open(…, 'wb')`. -/
  | deploy
  | append (bytes : List UInt8)
  | poll (poll : Poll)

/-- The file, and what the follower has. -/
structure Watch where
  /-- `deploy.log`, once a deploy has begun. -/
  file : Option (List UInt8) := none
  cursor : Option CursorText := none
  /-- The messages handed out since the last deploy. -/
  emitted : List String := []
  /-- A deploy has begun since the poll that gave the cursor. -/
  redeployed : Bool := false

section Follow
variable (timestamp : String → Option Int) (decode : List UInt8 → String) (instanceId : String)

namespace Watch

/-- The bytes of the file. -/
def content (s : Watch) : List UInt8 := s.file.getD []

/-- What the poll finds. -/
def host (s : Watch) (poll : Poll) : Host where
  deployed := poll.deployed
  containers := poll.containers
  deployLog := match s.file with
    | none => .absent
    | some bytes => .content bytes

/-- The request, with the cursor of the answer before. -/
def request (s : Watch) (poll : Poll) : Except LogsError (Option Response) :=
  instanceLogs timestamp decode (s.host poll) instanceId .deploy poll.tail s.cursor poll.service

/-- An answer has come. -/
def answered (s : Watch) (r : Response) : Watch :=
  { s with
    cursor := r.nextCursor
    emitted := s.emitted ++ r.lines.map LogLine.msg
    redeployed := false }

/-- One event. -/
def step (s : Watch) : Event → Watch
  | .deploy => { s with file := some [], emitted := [], redeployed := s.cursor.isSome }
  | .append bytes => { s with file := s.file.map (· ++ bytes) }
  | .poll poll =>
    match s.request timestamp decode instanceId poll with
    | .ok (some r) => s.answered r
    | _ => s

/-- The cursor's offset. -/
def offset (s : Watch) : Nat :=
  match decodeCursor s.cursor with
  | .ok c => ((c.bind Cursor.off).getD 0)
  | .error _ => 0

end Watch

/-- After these events. -/
def after (events : List Event) : Watch :=
  events.foldl (Watch.step timestamp decode instanceId) {}

/-- An answer to the poll is what a follower may be told. -/
structure Told (s : Watch) (r : Response) : Prop where
  /-- A message is a complete line of the file. -/
  line : ∀ l ∈ r.lines, ∃ line ∈ completeLines [] s.content, l.msg = decode line
  /-- Since the last deploy, lines that follow each other have been handed out. -/
  segment : ∃ before handed behind, completeLines [] s.content = before ++ handed ++ behind ∧
    s.emitted ++ r.lines.map LogLine.msg = handed.map decode
  /-- After a deploy, the next poll says so and begins with the first line. -/
  rotation : s.redeployed = true → r.rotated = true ∧
    r.lines.map LogLine.msg <+: (completeLines [] s.content).map decode

/-- Every answer along these events is. -/
def Follows (events : List Event) : Prop :=
  ∀ before poll behind r, events = before ++ .poll poll :: behind →
    (after timestamp decode instanceId before).request timestamp decode instanceId poll =
      .ok (some r) → Told decode (after timestamp decode instanceId before) r

/-- **Every rotation can be noticed**: the first poll after a deploy finds a file that is shorter
than the offset. -/
def Noticed (events : List Event) : Prop :=
  ∀ before poll behind, events = before ++ .poll poll :: behind →
    (after timestamp decode instanceId before).redeployed = true →
      (∃ n, clampTail poll.tail = .ok n) →
        (after timestamp decode instanceId before).content.length <
          (after timestamp decode instanceId before).offset

end Follow

/-! ## One poll -/

/-- The cursor of an offset. -/
def offsetCursor (n : Nat) : CursorText := encodeCursor [("v", .int 1), ("off", .int n)]

/-- The cursors that a follower of this stream is handed, and the one it starts with. -/
def Minted (cursor : Option CursorText) : Prop := cursor = none ∨ ∃ n, cursor = some (offsetCursor n)

theorem decodeCursor_offset (n : Nat) :
    decodeCursor (some (offsetCursor n)) = .ok (some ⟨some n, []⟩) := by
  simp [decodeCursor, offsetCursor, encodeCursor, versionOne, cursorFields, field, PyDict.get?,
    offsetOf, Except.map]

/-- **A cursor says what it was made of.** -/
theorem offset_some {s : Watch} {n : Nat} (h : s.cursor = some (offsetCursor n)) : s.offset = n := by
  unfold Watch.offset
  rw [h, decodeCursor_offset]
  rfl

theorem offset_none {s : Watch} (h : s.cursor = none) : s.offset = 0 := by
  unfold Watch.offset
  rw [h]
  rfl

section Poll
variable {timestamp : String → Option Int} {decode : List UInt8 → String} {instanceId : String}
  {s : Watch} {poll : Poll} {r : Response}

/-- The cursor of a poll is one that decodes. -/
theorem decode_minted (h : Minted s.cursor) :
    ∃ c, decodeCursor s.cursor = .ok c ∧ (c.bind Cursor.off).getD 0 = s.offset := by
  unfold Watch.offset
  obtain hnone | ⟨n, hsome⟩ := h
  · rw [hnone]
    exact ⟨none, rfl, rfl⟩
  · rw [hsome, decodeCursor_offset]
    exact ⟨_, rfl, rfl⟩

/-- Where a read begins. -/
def startOf (size offset : Nat) : Nat := if size < offset then 0 else offset

/-- **What one read hands out**: the first of the lines that are complete behind its start. -/
theorem readDeploy_content (decode : List UInt8 → String) (bytes : List UInt8)
    (sinceOff : Option Nat) (tail : Nat) :
    ∃ handed behind truncated,
      readDeploy decode (.content bytes) sinceOff tail =
        some (handed.map fun b => ⟨"deploy", none, decode b⟩,
          startOf bytes.length (sinceOff.getD 0) + sizeOfLines handed,
          decide (bytes.length < sinceOff.getD 0), truncated) ∧
      completeLines [] (bytes.drop (startOf bytes.length (sinceOff.getD 0))) = handed ++ behind := by
  unfold readDeploy startOf
  simp only [decide_eq_true_eq]
  set raw := completeLines []
    (bytes.drop (if bytes.length < sinceOff.getD 0 then 0 else sinceOff.getD 0)) with hraw
  by_cases hmany : tail < raw.length
  · exact ⟨raw.take tail, raw.drop tail, _, by rw [if_pos hmany]; rfl,
      (List.take_append_drop tail raw).symm⟩
  · exact ⟨raw, [], _, by rw [if_neg hmany]; rfl, (List.append_nil raw).symm⟩

/-- Where the poll reads from. -/
def Watch.start (s : Watch) : Nat := startOf s.content.length s.offset

/-- A poll that is answered has read the file. -/
theorem request_read (hminted : Minted s.cursor) {n : Nat} (htail : clampTail poll.tail = .ok n)
    {bytes : List UInt8} (hfile : s.file = some bytes) :
    ∃ r handed behind, s.request timestamp decode instanceId poll = .ok (some r) ∧
      completeLines [] (s.content.drop s.start) = handed ++ behind ∧
      r.lines.map LogLine.msg = handed.map decode ∧
      r.nextCursor = some (offsetCursor (s.start + sizeOfLines handed)) ∧
      r.rotated = decide (s.content.length < s.offset) := by
  obtain ⟨c, hdecode, hoffset⟩ := decode_minted hminted
  have hcontent : s.content = bytes := by simp [Watch.content, hfile]
  obtain ⟨handed, behind, truncated, hread, hlines⟩ :=
    readDeploy_content decode bytes (c.bind Cursor.off) n
  rw [hoffset] at hread hlines
  unfold Watch.start
  rw [hcontent]
  refine ⟨⟨instanceId, .deploy, handed.map fun b => ⟨"deploy", none, decode b⟩,
    some (offsetCursor (startOf bytes.length s.offset + sizeOfLines handed)),
    decide (bytes.length < s.offset), truncated⟩, handed, behind, ?_, hlines, ?_, rfl, rfl⟩
  · unfold Watch.request instanceLogs
    simp only [htail, hdecode, Except.mapError, Watch.host, hfile, if_true, bind, Except.bind, pure,
      Except.pure, hread]
    rfl
  · rw [List.map_map]
    rfl

/-- A poll that is answered where there is no file has nothing to hand out. -/
theorem request_absent (hminted : Minted s.cursor) (hfile : s.file = none)
    (hr : s.request timestamp decode instanceId poll = .ok (some r)) :
    r.lines = [] ∧ r.nextCursor = s.cursor ∧ r.rotated = false := by
  obtain ⟨c, hdecode, -⟩ := decode_minted hminted
  unfold Watch.request instanceLogs at hr
  cases htail : clampTail poll.tail with
  | error e => simp [htail, Except.mapError, bind, Except.bind] at hr
  | ok n =>
    simp only [htail, hdecode, Except.mapError, Watch.host, hfile, if_true, bind, Except.bind, pure,
      Except.pure, readDeploy] at hr
    split at hr
    · obtain rfl := Option.some.inj (Except.ok.inj hr)
      exact ⟨rfl, rfl, rfl⟩
    · cases hr

/-- Of a poll that was answered, the number of lines was one. -/
theorem tail_of_answer (hr : s.request timestamp decode instanceId poll = .ok (some r)) :
    ∃ n, clampTail poll.tail = .ok n := by
  cases htail : clampTail poll.tail with
  | ok n => exact ⟨n, rfl⟩
  | error e =>
    unfold Watch.request instanceLogs at hr
    simp [htail, Except.mapError, bind, Except.bind] at hr

end Poll

/-! ## What the follower has caught up with -/

/-- **The follower is at the end of a line of the file**, or will notice that the file is another. -/
structure Caught (decode : List UInt8 → String) (s : Watch) : Prop where
  minted : Minted s.cursor
  /-- What was handed out are the first lines of the file, and the offset is behind them. -/
  place : s.redeployed = false → ∃ lines rest, s.content = ended lines ++ rest ∧
    (∀ line ∈ lines, 10 ∉ line) ∧ s.emitted = lines.map decode ∧ s.offset = sizeOfLines lines
  begun : s.redeployed = true → s.emitted = [] ∧ s.file.isSome = true
  absent : s.file = none → s.cursor = none

section Caught
variable {timestamp : String → Option Int} {decode : List UInt8 → String} {instanceId : String}
  {s : Watch} {poll : Poll} {r : Response}

/-- A poll reads on behind what was handed out. -/
theorem Caught.reads_on (hs : Caught decode s)
    (hnoticed : s.redeployed = true → s.content.length < s.offset) :
    ∃ lines rest, s.content = ended lines ++ rest ∧ (∀ line ∈ lines, 10 ∉ line) ∧
      s.emitted = lines.map decode ∧ s.start = sizeOfLines lines ∧
      (s.redeployed = true → lines = []) := by
  cases hredeployed : s.redeployed with
  | true =>
    -- a file that is seen to be another is read from its beginning
    refine ⟨[], s.content, rfl, fun _ h => (by cases h), (hs.begun hredeployed).1, ?_, fun _ => rfl⟩
    unfold Watch.start startOf
    rw [if_pos (hnoticed hredeployed)]
    rfl
  | false =>
    obtain ⟨lines, rest, hcontent, hplain, hemitted, hoffset⟩ := hs.place hredeployed
    refine ⟨lines, rest, hcontent, hplain, hemitted, ?_, fun h => by cases h⟩
    have hlength : ¬ s.content.length < s.offset := by
      rw [hcontent, List.length_append, length_ended, hoffset]
      omega
    unfold Watch.start startOf
    rw [if_neg hlength]
    exact hoffset

/-- An answer that hands out the next lines is one that the follower may be told. -/
theorem told_of_lines {lines handed behind : List (List UInt8)}
    (hlines : completeLines [] s.content = lines ++ (handed ++ behind))
    (hemitted : s.emitted = lines.map decode) (hmsgs : r.lines.map LogLine.msg = handed.map decode)
    (hrotated : s.redeployed = true → lines = [] ∧ r.rotated = true) : Told decode s r where
  line l hl := by
    have hmem : l.msg ∈ handed.map decode := hmsgs ▸ List.mem_map_of_mem hl
    obtain ⟨line, hline, heq⟩ := List.mem_map.mp hmem
    refine ⟨line, ?_, heq.symm⟩
    rw [hlines]
    exact List.mem_append_right _ (List.mem_append_left _ hline)
  segment := by
    refine ⟨[], lines ++ handed, behind, ?_, ?_⟩
    · rw [hlines, List.nil_append, List.append_assoc]
    · rw [hemitted, hmsgs, List.map_append]
  rotation h := by
    obtain ⟨rfl, hr⟩ := hrotated h
    refine ⟨hr, behind.map decode, ?_⟩
    rw [hmsgs, hlines, List.nil_append, List.map_append]

/-- **One poll**: what it tells is right, and the follower has caught up again. -/
theorem Caught.told (hs : Caught decode s)
    (hnoticed : s.redeployed = true → s.content.length < s.offset)
    (hr : s.request timestamp decode instanceId poll = .ok (some r)) :
    Told decode s r ∧ Caught decode (s.answered r) := by
  obtain ⟨lines, rest, hcontent, hplain, hemitted, hstart, hbegins⟩ := hs.reads_on hnoticed
  cases hfile : s.file with
  | none =>
    -- nothing was ever deployed, so that nothing is handed out and the cursor stays as it is
    obtain ⟨hnone, hcursor, -⟩ := request_absent hs.minted hfile hr
    have hfresh : s.redeployed = false := by
      rw [Bool.eq_false_iff]
      intro hredeployed
      have hsome := (hs.begun hredeployed).2
      rw [hfile] at hsome
      cases hsome
    have hoffset : (s.answered r).offset = s.offset := by
      unfold Watch.offset Watch.answered
      rw [hcursor]
    have hlines : completeLines [] s.content = lines ++ ([] ++ completeLines [] rest) := by
      rw [hcontent, completeLines_ended hplain]
      rfl
    refine ⟨told_of_lines hlines hemitted ?_ ?_, ?_⟩
    · rw [hnone]
      rfl
    · intro h
      rw [hfresh] at h
      cases h
    · obtain ⟨lines, rest, hplace⟩ := hs.place hfresh
      have hminted : Minted (s.answered r).cursor := (congrArg Minted hcursor).mpr hs.minted
      refine ⟨hminted, fun _ => ⟨lines, rest, hplace.1, hplace.2.1, ?_, ?_⟩,
        fun h => (by cases h), fun _ => hcursor.trans (hs.absent hfile)⟩
      · rw [← hplace.2.2.1]
        simp [Watch.answered, hnone]
      · exact hoffset.trans hplace.2.2.2
  | some bytes =>
    obtain ⟨n, htail⟩ := tail_of_answer hr
    obtain ⟨r', handed, behind, hr', hread, hmsgs, hcursor, hrotated⟩ :=
      @request_read timestamp decode instanceId s poll hs.minted n htail bytes hfile
    obtain rfl : r' = r := Option.some.inj (Except.ok.inj (hr'.symm.trans hr))
    -- the read begins behind the lines that were handed out, and hands out the next ones
    have hdrop : s.content.drop s.start = rest := by
      rw [hcontent, hstart, ← length_ended, List.drop_left]
    rw [hdrop] at hread
    obtain ⟨hplain', rest', hrest⟩ := ended_completeLines [] rest (by simp)
    rw [hread, List.nil_append] at hrest
    rw [hread] at hplain'
    have hlines : completeLines [] s.content = lines ++ (handed ++ behind) := by
      rw [hcontent, completeLines_ended hplain, hread]
    refine ⟨told_of_lines hlines hemitted hmsgs ?_,
      ⟨.inr ⟨_, hcursor⟩, fun _ => ⟨lines ++ handed, ended behind ++ rest', ?_, ?_, ?_, ?_⟩,
        fun h => (by cases h), fun h => ?_⟩⟩
    · intro h
      rw [hrotated]
      exact ⟨hbegins h, decide_eq_true (hnoticed h)⟩
    · show s.content = _
      rw [hcontent, hrest, ended_append, ended_append]
      simp
    · intro line hline
      cases List.mem_append.mp hline with
      | inl hmem => exact hplain line hmem
      | inr hmem => exact hplain' line (List.mem_append_left _ hmem)
    · show s.emitted ++ r'.lines.map LogLine.msg = _
      rw [hemitted, hmsgs, List.map_append]
    · rw [offset_some (s := s.answered r') hcursor, hstart, sizeOfLines_append]
    · have hnone : s.file = none := h
      rw [hfile] at hnone
      cases hnone

theorem caught_init : Caught decode {} where
  minted := .inl rfl
  place _ := ⟨[], [], rfl, fun _ h => (by cases h), rfl, rfl⟩
  begun h := by cases h
  absent _ := rfl

theorem Caught.deploy (hs : Caught decode s) :
    Caught decode (s.step timestamp decode instanceId .deploy) where
  minted := hs.minted
  place h := by
    refine ⟨[], [], rfl, fun _ h => (by cases h), rfl, offset_none ?_⟩
    exact Option.isNone_iff_eq_none.mp (by simpa [Watch.step] using h)
  begun _ := ⟨rfl, rfl⟩
  absent h := by cases h

theorem Caught.append (hs : Caught decode s) (bytes : List UInt8) :
    Caught decode (s.step timestamp decode instanceId (.append bytes)) := by
  cases hfile : s.file with
  | none =>
    have hsame : s.step timestamp decode instanceId (.append bytes) = s := by
      obtain ⟨file, cursor, emitted, redeployed⟩ := s
      subst hfile
      rfl
    rw [hsame]
    exact hs
  | some content =>
    have hcontent : (s.step timestamp decode instanceId (.append bytes)).content =
        s.content ++ bytes := by
      simp [Watch.step, Watch.content, hfile]
    refine ⟨hs.minted, fun h => ?_, fun h => ⟨(hs.begun h).1, ?_⟩, fun h => ?_⟩
    · obtain ⟨lines, rest, hplace, hplain, hemitted, hoffset⟩ := hs.place h
      exact ⟨lines, rest ++ bytes, by rw [hcontent, hplace, List.append_assoc], hplain, hemitted,
        hoffset⟩
    · simp [Watch.step, hfile]
    · simp [Watch.step, hfile] at h

end Caught

/-! ## Along the events -/

section Along
variable {timestamp : String → Option Int} {decode : List UInt8 → String} {instanceId : String}
  {events : List Event}

theorem after_concat (events : List Event) (e : Event) :
    after timestamp decode instanceId (events ++ [e]) =
      (after timestamp decode instanceId events).step timestamp decode instanceId e := by
  unfold after
  rw [List.foldl_append]
  rfl

/-- What is noticed along the events is noticed along the first of them. -/
theorem Noticed.first {events later : List Event}
    (h : Noticed timestamp decode instanceId (events ++ later)) :
    Noticed timestamp decode instanceId events := by
  rintro before poll behind rfl
  refine h before poll (behind ++ later) ?_
  simp

/-- **The follower has caught up**, whatever goes on, where it can notice every rotation. -/
theorem caught_after (h : Noticed timestamp decode instanceId events) :
    Caught decode (after timestamp decode instanceId events) := by
  induction events using List.reverseRecOn with
  | nil => exact caught_init
  | append_singleton events e ih =>
    have hs := ih h.first
    rw [after_concat]
    cases e with
    | deploy => exact hs.deploy
    | append bytes => exact hs.append bytes
    | poll poll =>
      simp only [Watch.step]
      split
      · rename_i r hr
        refine (hs.told (fun hredeployed => ?_) hr).2
        exact h events poll [] rfl hredeployed (tail_of_answer hr)
      · exact hs

theorem Noticed.concat {e : Event} (h : Noticed timestamp decode instanceId events)
    (hlast : ∀ poll, e = .poll poll →
      (after timestamp decode instanceId events).redeployed = true →
        (∃ n, clampTail poll.tail = .ok n) →
          (after timestamp decode instanceId events).content.length <
            (after timestamp decode instanceId events).offset) :
    Noticed timestamp decode instanceId (events ++ [e]) := by
  intro before poll behind hevents
  cases behind using List.reverseRecOn with
  | nil =>
    obtain ⟨rfl, hpoll⟩ := List.append_inj' hevents rfl
    exact hlast poll (List.cons.inj hpoll).1
  | append_singleton behind e' =>
    have hevents' : events ++ [e] = (before ++ .poll poll :: behind) ++ [e'] := by
      rw [hevents]
      simp
    exact h before poll behind (List.append_inj' hevents' rfl).1

theorem Follows.first {events later : List Event}
    (h : Follows timestamp decode instanceId (events ++ later)) :
    Follows timestamp decode instanceId events := by
  rintro before poll behind r rfl
  refine h before poll (behind ++ later) r ?_
  simp

/-- **A follower that is told what it should be** notices every rotation. -/
theorem noticed_of_follows (h : Follows timestamp decode instanceId events) :
    Noticed timestamp decode instanceId events := by
  induction events using List.reverseRecOn with
  | nil =>
    intro before poll behind hevents
    simp at hevents
  | append_singleton events e ih =>
    have hnoticed := ih h.first
    have hs := caught_after hnoticed
    refine hnoticed.concat fun poll he hredeployed ⟨n, htail⟩ => ?_
    subst he
    obtain ⟨bytes, hfile⟩ := Option.isSome_iff_exists.mp (hs.begun hredeployed).2
    obtain ⟨r, -, -, hr, -, -, -, hrotated⟩ := @request_read timestamp decode instanceId
      (after timestamp decode instanceId events) poll hs.minted n htail bytes hfile
    have htold := ((h events poll [] r rfl hr).rotation hredeployed).1
    rw [hrotated] at htold
    exact of_decide_eq_true htold

/-- **The follower is told what it should be** if and only if every rotation can be noticed. -/
theorem follow_iff (timestamp : String → Option Int) (decode : List UInt8 → String)
    (instanceId : String) (events : List Event) :
    Follows timestamp decode instanceId events ↔ Noticed timestamp decode instanceId events := by
  refine ⟨noticed_of_follows, fun h before poll behind r hevents hr => ?_⟩
  subst hevents
  refine ((caught_after h.first).told (fun hredeployed => ?_) hr).1
  exact h before poll behind rfl hredeployed (tail_of_answer hr)

end Along

/-- A poll of the default size. -/
def plainPoll : Poll where
  tail := .int 200
  service := none
  deployed := true
  containers := .ok []

/-- A deploy that writes a line, and another one that writes a longer line before the next poll. -/
def outgrown : List Event :=
  [.deploy, .append [97, 10], .poll plainPoll, .deploy, .append [98, 99, 100, 10], .poll plainPoll]

/-- **The new file has outgrown the offset.**  The follower is handed the end of its first line, and
is not told that the file is another. -/
theorem follow_outgrown : ¬ Follows (fun _ => none) (fun _ => "") "a" outgrown := by
  intro h
  have := noticed_of_follows h (outgrown.take 5) plainPoll [] rfl (by decide) ⟨200, by decide⟩
  revert this
  decide

end Greffer.Logs.Deploy

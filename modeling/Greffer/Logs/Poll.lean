import Greffer.Logs.Daemon

/-! # One poll of a follower

A poll asks for the logs of all containers of an instance, or of one service.  The merge
keeps the lines of a service in order, and the cursor keeps a position for each service,
so that what a poll hands out of one log is what that container was read to give.
-/
namespace Greffer.Logs
open Docker

/-- The lines of one service. -/
def ofService (service : String) (lines : List LogLine) : List LogLine :=
  lines.filter fun l => l.service == service

/-- **The merge keeps the lines of a service in order**, if they were. -/
theorem ofService_mergeLines {service : String} {lines : List LogLine}
    (h : (ofService service lines).Pairwise fun a b => a.ts.getD "" ≤ b.ts.getD "") :
    ofService service (mergeLines lines) = ofService service lines := by
  have hperm : (mergeLines lines).Perm lines := List.perm_insertionSort _ _
  have hsub : (ofService service lines).Sublist (mergeLines lines) :=
    List.sublist_insertionSort h List.filter_sublist
  have hfiltered := hsub.filter fun l => l.service == service
  have hself : (ofService service lines).filter (fun l => l.service == service) =
      ofService service lines := by
    unfold ofService
    rw [List.filter_filter]
    simp
  rw [hself] at hfiltered
  exact (hfiltered.eq_of_length (hperm.filter _).length_eq.symm).symm

section Gather
variable {timestamp : String → Option Int} {positions : List (String × String)} {tail : Nat}
  {service : String}

/-- A read hands out lines of its own service only. -/
theorem readOneContainer_service {source : Source} {cursor : Option String} {l : LogLine}
    (h : l ∈ (readOneContainer timestamp source cursor tail).1) : l.service = source.service := by
  unfold readOneContainer at h
  dsimp only at h
  split at h
  · simp at h
  · obtain ⟨p, -, rfl⟩ := List.mem_map.mp h
    rfl

theorem add_other {source : Source} {g : Gathered} (h : source.service ≠ service) :
    ofService service (g.add timestamp positions tail source).allLines =
        ofService service g.allLines ∧
      (g.add timestamp positions tail source).newPositions.lookup service =
        g.newPositions.lookup service ∧
      ((g.add timestamp positions tail source).truncated = false → g.truncated = false) := by
  refine ⟨?_, ?_, fun hfalse => (Bool.or_eq_false_iff.mp hfalse).1⟩
  · have hnone : ofService service
        (readOneContainer timestamp source (positions.lookup source.service) tail).1 = [] := by
      refine List.filter_eq_nil_iff.mpr fun l hl => ?_
      rw [readOneContainer_service hl, beq_iff_eq]
      exact h
    unfold Gathered.add ofService at *
    dsimp only
    rw [List.filter_append, hnone, List.append_nil]
  · unfold Gathered.add
    dsimp only
    split
    · exact lookup_upsert_ne _ _ (Ne.symm h)
    · rfl

theorem foldl_add_other {sources : List Source} {g : Gathered}
    (h : ∀ s ∈ sources, s.service ≠ service) :
    ofService service (sources.foldl (Gathered.add timestamp positions tail) g).allLines =
        ofService service g.allLines ∧
      (sources.foldl (Gathered.add timestamp positions tail) g).newPositions.lookup service =
        g.newPositions.lookup service ∧
      ((sources.foldl (Gathered.add timestamp positions tail) g).truncated = false →
        g.truncated = false) := by
  induction sources generalizing g with
  | nil => exact ⟨rfl, rfl, id⟩
  | cons source rest ih =>
    obtain ⟨hlines, hlookup, htruncated⟩ :=
      @add_other timestamp positions tail service source g (h source List.mem_cons_self)
    obtain ⟨hlines', hlookup', htruncated'⟩ := ih (g := g.add timestamp positions tail source)
      fun s hs => h s (List.mem_cons_of_mem _ hs)
    exact ⟨hlines'.trans hlines, hlookup'.trans hlookup, fun hfalse => htruncated (htruncated' hfalse)⟩

/-- **What the loop gathers of one service** is what its container was read to give. -/
theorem gather_service {before after : List Source} {source : Source}
    (hservice : source.service = service)
    (hothers : ∀ s ∈ before ++ after, s.service ≠ service) :
    let g := gather timestamp positions tail (before ++ source :: after)
    let read := readOneContainer timestamp source (positions.lookup service) tail
    ofService service g.allLines = read.1 ∧ g.newPositions.lookup service = nonEmpty read.2.1 ∧
      (g.truncated = false → read.2.2 = false) := by
  intro g read
  subst hservice
  obtain ⟨hbefore, hlookup, -⟩ := @foldl_add_other timestamp positions tail source.service before
    {} fun s hs => hothers s (List.mem_append_left _ hs)
  set g₁ := before.foldl (Gathered.add timestamp positions tail) {} with hg₁
  obtain ⟨hafter, hlookup', htruncated⟩ := @foldl_add_other timestamp positions tail source.service
    after (g₁.add timestamp positions tail source) fun s hs => hothers s (List.mem_append_right _ hs)
  have hg : g = after.foldl (Gathered.add timestamp positions tail)
      (g₁.add timestamp positions tail source) := by
    simp only [g, gather, List.foldl_append, List.foldl_cons, hg₁]
  have hown : ofService source.service read.1 = read.1 :=
    List.filter_eq_self.mpr fun l hl => beq_iff_eq.mpr (readOneContainer_service hl)
  refine ⟨?_, ?_, fun hfalse => ?_⟩
  · rw [hg, hafter]
    unfold Gathered.add
    dsimp only
    unfold ofService at *
    rw [List.filter_append, hbefore, hown]
    rfl
  · rw [hg, hlookup']
    unfold Gathered.add
    dsimp only
    cases hnext : nonEmpty (readOneContainer timestamp source (positions.lookup source.service) tail).2.1 with
    | none => simp [hlookup]
    | some ts => simp [lookup_upsert_self]
  · rw [hg] at hfalse
    exact (Bool.or_eq_false_iff.mp (htruncated hfalse)).2

end Gather

/-- The positions a cursor holds. -/
def heldPositions (cursor : Option CursorText) : List (String × String) :=
  match decodeCursor cursor with
  | .ok c => (c.map Cursor.positions).getD []
  | .error _ => []

/-- What the cursor says of a service. -/
def position (cursor : Option CursorText) (service : String) : Option String :=
  (heldPositions cursor).lookup service

/-- The cursors that `instanceLogs` hands out for container logs, and the one a follower
starts with. -/
def Minted (cursor : Option CursorText) : Prop :=
  cursor = none ∨ ∃ positions, cursor = some (positionsCursor positions)

/-- One poll of a follower of the log of `service`: what it asks for, and what it finds on
the host besides that log. -/
structure Poll (service : String) where
  stream : Stream
  stream_ne : stream ≠ .deploy
  tail : PyValue
  /-- The selector names the service; else it is not given. -/
  narrowed : Bool
  deployed : Bool
  /-- The exception of the listing, if it raises. -/
  listing : Option Exn
  /-- The other containers, before and after this one. -/
  before : List Source
  after : List Source
  others : ∀ s ∈ before ++ after, s.service ≠ service
  /-- The daemon answers the read of this log. -/
  reads : Bool

section Poll
variable (timestamp : String → Option Int) (time : String → Rat) (decode : List UInt8 → String)
  (instanceId : String) (container : Container)

/-- The container that is followed, as a poll finds it. -/
def followed (written : List Line) (reads : Bool) : Source :=
  ⟨container, fun since tail => if reads then some (daemonLogs time written since tail) else none⟩

namespace Poll
variable {container} (poll : Poll (serviceName container))

/-- What the poll finds on the host. -/
def host (written : List Line) : Host where
  deployed := poll.deployed
  containers :=
    match poll.listing with
    | some e => .error e
    | none => .ok (poll.before ++ followed time container written poll.reads :: poll.after)
  deployLog := .absent

/-- The request, with the cursor of the answer before. -/
def request (written : List Line) (cursor : Option CursorText) : Except LogsError (Option Response) :=
  instanceLogs timestamp decode (poll.host time written) instanceId poll.stream poll.tail cursor
    (if poll.narrowed then some (serviceName container) else none)

/-- Whether the poll is answered with lines, and with a cursor. -/
def answers : Bool :=
  (match clampTail poll.tail with
    | .ok _ => true
    | .error _ => false) && poll.deployed && poll.listing.isNone

/-- Whether it has read the log. -/
def looks : Bool := poll.answers && poll.reads

end Poll

variable {timestamp time decode instanceId container} {poll : Poll (serviceName container)}
  {written : List Line} {cursor : Option CursorText}

theorem heldPositions_minted (positions : List (String × String)) :
    heldPositions (some (positionsCursor positions)) = positions := by
  unfold heldPositions
  rw [decodeCursor_positions]
  rfl

theorem decode_minted (h : Minted cursor) : ∃ c, decodeCursor cursor = .ok c ∧
    (c.map Cursor.positions).getD [] = heldPositions cursor := by
  rcases h with rfl | ⟨positions, rfl⟩
  · exact ⟨none, rfl, rfl⟩
  · exact ⟨_, decodeCursor_positions positions, (heldPositions_minted positions).symm⟩

/-- A poll that is not answered hands out no cursor. -/
theorem request_unanswered (h : poll.answers = false) (hminted : Minted cursor) (r : Response) :
    poll.request timestamp time decode instanceId written cursor ≠ .ok (some r) := by
  obtain ⟨c, hdecode, -⟩ := decode_minted hminted
  intro hr
  unfold Poll.request instanceLogs at hr
  unfold Poll.answers at h
  cases htail : clampTail poll.tail with
  | error e =>
    rw [htail] at hr
    cases hr
  | ok n =>
    simp only [htail, hdecode, Except.mapError, Poll.host, poll.stream_ne, if_false, bind,
      Except.bind, pure, Except.pure] at hr h
    cases hdeployed : poll.deployed with
    | false => simp [hdeployed] at hr
    | true =>
      cases hlisting : poll.listing with
      | some e => simp [hdeployed, hlisting] at hr
      | none => simp [hdeployed, hlisting] at h

/-- What a poll selects: this container, and perhaps others of other services. -/
theorem selected (poll : Poll (serviceName container)) (source : Source)
    (hservice : source.service = serviceName container) :
    ∃ before after, (∀ s ∈ before ++ after, s.service ≠ serviceName container) ∧
      narrow (if poll.narrowed then some (serviceName container) else none)
        (poll.before ++ source :: poll.after) = before ++ source :: after := by
  cases hnarrowed : poll.narrowed with
  | false => exact ⟨poll.before, poll.after, poll.others, rfl⟩
  | true =>
    have hnone : ∀ sources : List Source, (∀ s ∈ sources, s.service ≠ serviceName container) →
        sources.filter (fun c => c.service == serviceName container) = [] := by
      intro sources hsources
      refine List.filter_eq_nil_iff.mpr fun s hs => ?_
      rw [beq_iff_eq]
      exact hsources s hs
    refine ⟨[], [], by simp, ?_⟩
    simp [narrow, List.filter_append, hservice,
      hnone poll.before fun s hs => poll.others s (List.mem_append_left _ hs),
      hnone poll.after fun s hs => poll.others s (List.mem_append_right _ hs)]

/-- **A poll that is answered** hands out what the container was read to give, and brings
its position up to date. -/
theorem request_answered (h : poll.answers = true) (hminted : Minted cursor) :
    ∃ n r, clampTail poll.tail = .ok n ∧
      poll.request timestamp time decode instanceId written cursor = .ok (some r) ∧
      Minted r.nextCursor ∧
      let read := readOneContainer timestamp (followed time container written poll.reads)
        (position cursor (serviceName container)) n
      ((read.1.Pairwise fun a b => a.ts.getD "" ≤ b.ts.getD "") →
        ofService (serviceName container) r.lines = read.1) ∧
      ((nonEmpty read.2.1 = none → position cursor (serviceName container) = none) →
        position r.nextCursor (serviceName container) = nonEmpty read.2.1) ∧
      (r.truncated = false → read.2.2 = false) := by
  obtain ⟨c, hdecode, hheld⟩ := decode_minted hminted
  unfold Poll.answers at h
  cases htail : clampTail poll.tail with
  | error e => simp [htail] at h
  | ok n =>
    simp only [htail, Bool.true_and, Bool.and_eq_true, Option.isNone_iff_eq_none] at h
    obtain ⟨hdeployed, hlisting⟩ := h
    set source := followed time container written poll.reads with hsource
    -- Of the sources of the request the service has one, and the others emit nothing for it.
    obtain ⟨before, after, hothers, hselected⟩ := selected poll source rfl
    obtain ⟨hlines, hlookup, htruncated⟩ := @gather_service timestamp
      (heldPositions cursor) n (serviceName container) before after source rfl hothers
    set g := gather timestamp (heldPositions cursor) n (before ++ source :: after) with hg
    refine ⟨n, ⟨instanceId, poll.stream, mergeLines g.allLines,
      if g.newPositions.isEmpty then cursor else some (positionsCursor g.newPositions), false,
      g.truncated⟩, rfl, ?_, ?_, ?_, ?_, htruncated⟩
    · unfold Poll.request instanceLogs
      simp only [htail, hdecode, Except.mapError, Poll.host, poll.stream_ne, hdeployed, hlisting,
        if_false, bind, Except.bind, pure, Except.pure, Bool.not_true, Bool.false_eq_true, hheld]
      rw [hselected]
    · by_cases hempty : g.newPositions.isEmpty = true
      · rw [if_pos hempty]
        exact hminted
      · rw [if_neg hempty]
        exact .inr ⟨_, rfl⟩
    · intro hsorted
      rw [ofService_mergeLines, hlines]
      · rfl
      · rw [hlines]
        exact hsorted
    · intro hnone
      by_cases hempty : g.newPositions.isEmpty = true
      · rw [List.isEmpty_iff.mp hempty] at hlookup
        rw [if_pos hempty]
        exact (hnone hlookup.symm).trans hlookup
      · rw [if_neg hempty]
        exact (congrArg (List.lookup _) (heldPositions_minted g.newPositions)).trans hlookup

end Poll

end Greffer.Logs

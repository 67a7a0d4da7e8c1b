import Mathlib.Data.List.Forall2
import Greffer.Cli.PutBack

/-! # A retag that is undone

`set_image_tag` hands out the references that it has replaced, one for each repository, and
`set_image_refs` is meant to write them back.  **It undoes the retag** where the services of a
repository all had the same reference, and where every image line but the last is ended by a newline
(`retag_undone_iff`); whatever the tag was.  Everywhere else something is lost: of two references of
one repository only the later is kept, and a line behind any other break becomes a part of the
reference before it.
-/
namespace Greffer.Cli
open Greffer

/-! ## How many lines there are -/

section Count
variable {chunks : List PyText}

/-- A chunk is read up to its break, or into the next one. -/
theorem keptLinesFrom_chunk {chunk : PyText} (hchunk : IsLine chunk) (hreturn : '\r' ∉ chunk)
    (line rest : PyText) :
    (Terminated chunk ∧
        keptLinesFrom line (chunk ++ rest) = (line ++ chunk) :: keptLinesFrom [] rest) ∨
      Unterminated chunk ∧
        keptLinesFrom line (chunk ++ rest) = keptLinesFrom (line ++ chunk) rest := by
  rcases hchunk with ⟨body, c, rfl, hbreak, hbody⟩ | hun
  · refine .inl ⟨⟨body, c, rfl, hbreak, hbody⟩, ?_⟩
    have hne : c ≠ '\r' := by
      rintro rfl
      exact hreturn (List.mem_append_right _ List.mem_cons_self)
    rw [List.append_assoc, keptLinesFrom_body hbody, List.singleton_append,
      keptLinesFrom_cons hne, if_pos hbreak, List.append_assoc]
  · exact .inr ⟨hun, keptLinesFrom_body hun.2 line rest⟩

theorem length_keptLinesFrom_nil (line : PyText) : (keptLinesFrom line []).length ≤ 1 := by
  rw [keptLinesFrom]
  split
  · exact Nat.zero_le _
  · exact Nat.le_refl _

/-- **Chunks that are lines make no more lines than they are.** -/
theorem length_keptLinesFrom_le (hchunks : ∀ chunk ∈ chunks, IsLine chunk)
    (hreturn : ∀ chunk ∈ chunks, '\r' ∉ chunk) (line : PyText) :
    (keptLinesFrom line chunks.flatten).length ≤ chunks.length + 1 ∧
      (chunks ≠ [] ∨ line = [] → (keptLinesFrom line chunks.flatten).length ≤ chunks.length) := by
  induction chunks generalizing line with
  | nil =>
    refine ⟨length_keptLinesFrom_nil line, fun h => ?_⟩
    obtain h | rfl := h
    · exact absurd rfl h
    · exact Nat.le_refl _
  | cons chunk rest ih =>
    have ih := ih (fun c hc => hchunks c (List.mem_cons_of_mem _ hc))
      fun c hc => hreturn c (List.mem_cons_of_mem _ hc)
    have hle : (keptLinesFrom line (chunk :: rest).flatten).length ≤ rest.length + 1 := by
      rw [List.flatten_cons]
      rcases keptLinesFrom_chunk (hchunks chunk List.mem_cons_self)
        (hreturn chunk List.mem_cons_self) line rest.flatten with ⟨-, hread⟩ | ⟨-, hread⟩
      · rw [hread, List.length_cons]
        exact Nat.succ_le_succ ((ih []).2 (.inr rfl))
      · rw [hread]
        exact (ih _).1
    exact ⟨Nat.le_succ_of_le hle, fun _ => hle⟩

/-- **A chunk that runs into the next one** makes a line less. -/
theorem length_keptLinesFrom_lt (hchunks : ∀ chunk ∈ chunks, IsLine chunk)
    (hreturn : ∀ chunk ∈ chunks, '\r' ∉ chunk) (hruns : ¬ LinesOf chunks) (line : PyText) :
    (keptLinesFrom line chunks.flatten).length < chunks.length := by
  induction chunks generalizing line with
  | nil => exact absurd trivial hruns
  | cons chunk rest ih =>
    have hrest : ∀ c ∈ rest, IsLine c := fun c hc => hchunks c (List.mem_cons_of_mem _ hc)
    have hreturn' : ∀ c ∈ rest, '\r' ∉ c := fun c hc => hreturn c (List.mem_cons_of_mem _ hc)
    cases rest with
    | nil => exact absurd (hchunks chunk List.mem_cons_self) hruns
    | cons next rest =>
      rw [List.flatten_cons]
      rcases keptLinesFrom_chunk (hchunks chunk List.mem_cons_self)
        (hreturn chunk List.mem_cons_self) line (next :: rest).flatten with
        ⟨hterminated, hread⟩ | ⟨-, hread⟩
      · have hruns' : ¬ LinesOf (next :: rest) := fun h => hruns ⟨hterminated, h⟩
        rw [hread, List.length_cons, List.length_cons]
        exact Nat.succ_lt_succ (ih hrest hreturn' hruns' [])
      · -- the next chunk is read as the rest of this one
        rw [hread]
        exact Nat.lt_succ_of_le
          ((length_keptLinesFrom_le hrest hreturn' _).2 (.inl (List.cons_ne_nil _ _)))

theorem LinesOf.isLine {lines : List PyText} (h : LinesOf lines) {line : PyText}
    (hline : line ∈ lines) : IsLine line := by
  induction lines with
  | nil => cases hline
  | cons first rest ih =>
    rcases List.mem_cons.mp hline with rfl | hrest
    · cases rest with
      | nil => exact h
      | cons => exact .inl h.1
    · exact ih h.tail hrest

end Count

/-! ## One line -/

section Line
variable {resolve : PyText → PyText → Option PyText} {line : PyText}

theorem rewriteLine_none (h : ∀ entry, lineRef line = some entry → resolve entry.1 entry.2 = none) :
    rewriteLine resolve line = line := by
  rcases rewriteLine_cases resolve line with ⟨-, hsame⟩ | ⟨l, himage, href, -⟩
  · exact hsame
  · rw [rewriteLine_of_imageLine resolve himage, h _ href]
    rfl

/-- **A rewritten line is a line**, whether or not it is followed by what followed it. -/
theorem rewriteLine_isLine (hline : IsLine line) (hreturn : '\r' ∉ line)
    (hresolve : ∀ entry, lineRef line = some entry →
      resolve entry.1 entry.2 = none ∨ Replaces resolve entry) :
    IsLine (rewriteLine resolve line) ∧ '\r' ∉ rewriteLine resolve line := by
  by_cases hreplaces : ∀ entry, lineRef line = some entry → Replaces resolve entry
  · have hkeeps := rewriteLine_keeps hline hreplaces
    exact ⟨hkeeps.isLine, hkeeps.noReturn hreturn⟩
  · have hsame : rewriteLine resolve line = line := by
      refine rewriteLine_none fun entry hentry => ?_
      rcases hresolve entry hentry with hnone | hthis
      · exact hnone
      · refine absurd (fun entry' hentry' => ?_) hreplaces
        obtain rfl : entry = entry' := Option.some.inj (hentry.symm.trans hentry')
        exact hthis
    rw [hsame]
    exact ⟨hline, hreturn⟩

end Line

/-! ## A text -/

section Text
variable {resolve : PyText → PyText → Option PyText} {text : PyText}

theorem rewritten_chunks (hread : '\r' ∉ text)
    (hresolve : ∀ entry ∈ imageRefs text,
      resolve entry.1 entry.2 = none ∨ Replaces resolve entry) :
    (∀ chunk ∈ (keptLines text).map (rewriteLine resolve), IsLine chunk ∧ '\r' ∉ chunk) ∧
      (rewriteImageLines text resolve).1 =
        ((keptLines text).map (rewriteLine resolve)).flatten := by
  obtain ⟨hlines, hflat⟩ := linesOf_keptLines hread
  refine ⟨fun chunk hchunk => ?_, by rw [rewriteImageLines, List.flatMap_def]⟩
  obtain ⟨line, hline, rfl⟩ := List.mem_map.mp hchunk
  refine rewriteLine_isLine (hlines.isLine hline) (fun hreturn => hread ?_) fun entry hentry => ?_
  · rw [← hflat]
    exact List.mem_flatten.mpr ⟨line, hline, hreturn⟩
  · exact hresolve entry (List.mem_filterMap.mpr ⟨line, hline, hentry⟩)

/-- **A rewriting makes no more lines**, and less where a line runs into the next one. -/
theorem length_rewritten (hread : '\r' ∉ text)
    (hresolve : ∀ entry ∈ imageRefs text,
      resolve entry.1 entry.2 = none ∨ Replaces resolve entry) :
    (keptLines (rewriteImageLines text resolve).1).length ≤ (keptLines text).length ∧
      '\r' ∉ (rewriteImageLines text resolve).1 ∧
      (¬ LinesOf ((keptLines text).map (rewriteLine resolve)) →
        (keptLines (rewriteImageLines text resolve).1).length < (keptLines text).length) := by
  obtain ⟨hchunks, htext⟩ := rewritten_chunks hread hresolve
  have hlines := fun chunk hchunk => (hchunks chunk hchunk).1
  have hreturn := fun chunk hchunk => (hchunks chunk hchunk).2
  have hlength : ((keptLines text).map (rewriteLine resolve)).length = (keptLines text).length :=
    List.length_map _
  rw [htext, ← hlength]
  refine ⟨(length_keptLinesFrom_le hlines hreturn []).2 (.inr rfl), fun hmem => ?_,
    fun hruns => length_keptLinesFrom_lt hlines hreturn hruns []⟩
  obtain ⟨chunk, hchunk, hmem⟩ := List.mem_flatten.mp hmem
  exact hreturn chunk hchunk hmem

end Text

/-! ## The retag -/

section Retag
variable {text : PyText} {target : String}

/-- A line of the text after the two rewritings: an image line has its old reference, and another
line is as it was. -/
def SameLine (line line' : PyText) : Prop :=
  lineRef line' = lineRef line ∧ (lineRef line = none → line' = line)

/-- The text after `set_image_tag`, and after `set_image_refs` with what it returned. -/
def retagUndone (text : PyText) (target : String) : PyText :=
  putBack (capturedRefs text) (retagText target text)

/-- **The retag is undone**: line by line, the text is the same. -/
def Undone (text : PyText) (target : String) : Prop :=
  List.Forall₂ SameLine (keptLines text) (keptLines (retagUndone text target))

/-- What a retag puts in the place of a reference. -/
def tagged (target : String) (repo _ref : PyText) : Option PyText :=
  some (repo ++ ':' :: target.toList)

theorem tagged_replaces (htarget : isValidImageTag target = true) (entry : PyText × PyText) :
    Replaces (tagged target) entry := ⟨_, isSuffix_of_valid htarget, rfl⟩

/-- **Where the retagged lines are still lines**, every image line but the last had a newline. -/
theorem newlineEnded_of_linesOf {lines : List PyText} (hlines : LinesOf lines)
    (htarget : isValidImageTag target = true)
    (h : LinesOf (lines.map (rewriteLine (tagged target)))) : NewlineEnded lines := by
  induction lines with
  | nil => trivial
  | cons line rest ih =>
    cases rest with
    | nil => trivial
    | cons next rest =>
      refine ⟨fun hsome => ?_, ih hlines.tail h.2⟩
      rcases rewriteLine_cases (tagged target) line with ⟨hnone, -⟩ | ⟨l, himage, -, hrewrite⟩
      · rw [hnone] at hsome
        cases hsome
      · by_contra hlast
        obtain ⟨hbreak, -⟩ :=
          imageLine_rewritten (.inl hlines.1) himage (isSuffix_of_valid htarget)
        have hnew := hrewrite _ rfl
        rw [newlineOf, if_neg hlast, List.append_nil] at hnew
        -- the rewritten line has lost its break
        obtain ⟨body, c, hbody, hc, -⟩ := h.1
        rw [hnew] at hbody
        have hmem : c ∈ l.indent ++ (l.withSuffix (':' :: target.toList)).ref := by
          have hnew' : l.indent ++ (l.withSuffix (':' :: target.toList)).ref = body ++ [c] := hbody
          rw [hnew']
          exact List.mem_append_right _ List.mem_cons_self
        rw [hbreak c hmem] at hc
        cases hc

/-- **The references that come back** are, for each repository, the one that was kept. -/
theorem imageRefs_retagUndone (h : LinedText text) (htarget : isValidImageTag target = true) :
    imageRefs (retagUndone text target) =
      (imageRefs text).map fun e => (e.1, ((capturedRefs text).lookup e.1).getD []) := by
  obtain ⟨hlined, hrepos⟩ := retagText_spec h htarget
  exact (imageRefs_putBack hlined hrepos).2

/-- **A line is undone** where what was kept of its repository is its own reference. -/
theorem sameLine_undone {line : PyText} (htarget : isValidImageTag target = true)
    (hline : IsLine line)
    (hkept : ∀ entry, lineRef line = some entry →
      (capturedRefs text).lookup entry.1 = some entry.2)
    (hreplaces : ∀ entry, lineRef (rewriteLine (tagged target) line) = some entry →
      Replaces (fun repo _ => (capturedRefs text).lookup repo) entry) :
    SameLine line (rewriteLine (fun repo _ => (capturedRefs text).lookup repo)
      (rewriteLine (tagged target) line)) := by
  have htagged := rewriteLine_keeps hline fun entry _ => tagged_replaces htarget entry
  have hback := rewriteLine_keeps htagged.isLine hreplaces
  constructor
  · rw [hback.ref, htagged.ref, Option.map_map]
    cases href : lineRef line with
    | none => rfl
    | some entry =>
      rw [Option.map_some]
      refine congrArg some (Prod.ext rfl ?_)
      have hlookup := hkept entry href
      show ((capturedRefs text).lookup entry.1).getD [] = entry.2
      rw [hlookup, Option.getD_some]
  · intro hnone
    have hsame : rewriteLine (tagged target) line = line :=
      rewriteLine_none fun entry hentry => by rw [hnone] at hentry; cases hentry
    rw [hsame]
    exact rewriteLine_none fun entry hentry => by rw [hnone] at hentry; cases hentry

theorem filterMap_sameLine {lines lines' : List PyText} (h : List.Forall₂ SameLine lines lines') :
    lines'.filterMap lineRef = lines.filterMap lineRef := by
  induction h with
  | nil => rfl
  | cons hline _ ih => rw [List.filterMap_cons, List.filterMap_cons, hline.1, ih]

/-- A text that was undone has as many lines as before, so that no line ran into the next one. -/
theorem Undone.newlineEnded (hread : '\r' ∉ text) (htarget : isValidImageTag target = true)
    (h : Undone text target) : NewlineEnded (keptLines text) := by
  have hlines := (linesOf_keptLines hread).1
  refine newlineEnded_of_linesOf hlines htarget ?_
  by_contra hruns
  obtain ⟨-, hreturn, hlt⟩ := @length_rewritten (tagged target) text hread
    fun entry _ => .inr (tagged_replaces htarget entry)
  obtain ⟨hle, -, -⟩ := @length_rewritten
    (fun repo _ => (capturedRefs text).lookup repo) _ hreturn
    fun entry _ => captured_replaces text entry
  have hlength := List.Forall₂.length_eq h
  have hlost := hlt hruns
  have hback : (keptLines (retagUndone text target)).length ≤
    (keptLines (rewriteImageLines text (tagged target)).1).length := hle
  omega

/-- `read_text`, of the characters of a file: a carriage return is read as a newline. -/
def readText : List Char → PyText
  | [] => []
  | '\r' :: '\n' :: rest => '\n' :: readText rest
  | '\r' :: rest => '\n' :: readText rest
  | c :: rest => c :: readText rest

theorem no_return_readText (file : List Char) : '\r' ∉ readText file := by
  fun_induction readText file with
  | case1 => exact List.not_mem_nil
  | case2 rest ih => simpa using ih
  | case3 rest _ ih => simpa using ih
  | case4 c rest _ hc ih =>
    rw [List.mem_cons, not_or]
    exact ⟨fun heq => hc heq.symm, ih⟩

/-- **When a retag is undone.** -/
theorem retag_undone_iff (file : List Char) (htarget : isValidImageTag target = true) :
    Undone (readText file) target ↔
      NewlineEnded (keptLines (readText file)) ∧ OneRef (imageRefs (readText file)) := by
  have hread := no_return_readText file
  constructor
  · intro h
    have hended := h.newlineEnded hread htarget
    have hlined := linedText_of_newlineEnded hread hended
    have hrefs := filterMap_sameLine h
    change imageRefs (retagUndone (readText file) target) = imageRefs (readText file) at hrefs
    rw [imageRefs_retagUndone hlined htarget] at hrefs
    have hown : ∀ e ∈ imageRefs (readText file),
        ((capturedRefs (readText file)).lookup e.1).getD [] = e.2 := by
      have hfixed := List.map_inj_left.mp (hrefs.trans (List.map_id _).symm)
      exact fun e he => congrArg Prod.snd (hfixed e he)
    refine ⟨hended, fun e he e' he' hrepo => Prod.ext hrepo ?_⟩
    rw [← hown e he, ← hown e' he', hrepo]
  · rintro ⟨hended, hone⟩
    have hlined := linedText_of_newlineEnded hread hended
    have hlines := hlined.linesOf
    obtain ⟨htagged, hrepos⟩ := retagText_spec hlined htarget
    have hreplaces := captured_replaces_of_sameRepos hrepos
    have hretag : keptLines (retagText target (readText file)) =
        (keptLines (readText file)).map (rewriteLine (tagged target)) :=
      keptLines_rewritten hlined fun entry _ => tagged_replaces htarget entry
    have hback := keptLines_rewritten htagged hreplaces
    unfold Undone retagUndone putBack
    rw [hback, hretag, List.map_map, List.forall₂_map_right_iff, List.forall₂_same]
    intro line hline
    refine sameLine_undone htarget (hlines.isLine hline) (fun entry hentry => ?_)
      fun entry hentry => hreplaces entry ?_
    · exact captured_lookup hone (List.mem_filterMap.mpr ⟨line, hline, hentry⟩)
    · refine List.mem_filterMap.mpr ⟨_, ?_, hentry⟩
      rw [hretag]
      exact List.mem_map_of_mem hline

/-- A compose file of one service. -/
def oneService : List Char := "services:\n  greffer:\n    image: greffon/greffer:0.5.0\n".toList

theorem retag_undone_one :
    Undone (readText oneService) "0.6.0" ↔
      NewlineEnded (keptLines (readText oneService)) ∧
        OneRef (imageRefs (readText oneService)) :=
  retag_undone_iff oneService (by decide)

/-- Two services of one repository, with different tags. -/
def twoTags : List Char := "image: greffon/node:1\nimage: greffon/node:2\n".toList

/-- **The first service gets the reference of the second.** -/
theorem retag_swapped : isValidImageTag "3" = true ∧ ¬ Undone (readText twoTags) "3" := by
  refine ⟨by decide, fun h => ?_⟩
  have hrefs := filterMap_sameLine h
  exact absurd hrefs (by decide)

end Retag

end Greffer.Cli

import Mathlib.Logic.Function.Iterate
import Greffer.Cli.ImageLines
import Greffer.Cli.Target

/-! # References that are put back

A rewriting goes line by line, so that it can be undone line by line, as long as the rewritten text
falls into the same lines.  It does where every image line ends with a newline or is the last one
(`Regular`): the rewriting drops any other break.  And one reference for each repository is kept, so
that the lines of a repository need to have one.

`imageRefs_putBack_iterate` is the result: **what was captured from a regular text gives back its
references**, whatever the target was and however often it is done.
-/
namespace Greffer.Cli
open Greffer

/-! ## Lines -/

/-- A line and the break it ends with. -/
def Terminated (line : PyText) : Prop :=
  ∃ body c, line = body ++ [c] ∧ isLineBreak c = true ∧ ∀ x ∈ body, isLineBreak x = false

/-- A last line without a break. -/
def Unterminated (line : PyText) : Prop := line ≠ [] ∧ ∀ x ∈ line, isLineBreak x = false

/-- The lines of a text: only the last one may be without a break. -/
def LinesOf : List PyText → Prop
  | [] => True
  | [line] => Terminated line ∨ Unterminated line
  | line :: rest => Terminated line ∧ LinesOf rest

theorem linesOf_cons {line : PyText} {rest : List PyText} (h : Terminated line)
    (hrest : LinesOf rest) : LinesOf (line :: rest) := by
  cases rest with
  | nil => exact .inl h
  | cons => exact ⟨h, hrest⟩

theorem LinesOf.tail {line : PyText} {rest : List PyText} (h : LinesOf (line :: rest)) :
    LinesOf rest := by
  cases rest with
  | nil => trivial
  | cons => exact h.2

/-- One character of a text without carriage returns. -/
theorem keptLinesFrom_cons {c : Char} (hc : c ≠ '\r') (line rest : PyText) :
    keptLinesFrom line (c :: rest) = if isLineBreak c then (line ++ [c]) :: keptLinesFrom [] rest
      else keptLinesFrom (line ++ [c]) rest := by
  rw [keptLinesFrom]
  rintro rest' rfl
  exact absurd rfl hc

/-- **The lines of a text without carriage returns.** -/
theorem linesOf_keptLinesFrom {text : PyText} (htext : '\r' ∉ text) (line : PyText)
    (hline : ∀ x ∈ line, isLineBreak x = false) :
    LinesOf (keptLinesFrom line text) ∧ (keptLinesFrom line text).flatten = line ++ text := by
  induction text generalizing line with
  | nil =>
    rw [keptLinesFrom]
    split
    case isTrue hempty => exact ⟨trivial, by simp [List.isEmpty_iff.mp hempty]⟩
    case isFalse hne =>
      exact ⟨.inr ⟨fun h => hne (List.isEmpty_iff.mpr h), hline⟩, by simp⟩
  | cons c rest ih =>
    rw [List.mem_cons, not_or] at htext
    obtain ⟨hc, hrest⟩ := htext
    rw [keptLinesFrom_cons (Ne.symm hc)]
    split
    case isTrue hbreak =>
      obtain ⟨hlines, hflat⟩ := ih hrest [] (fun x hx => absurd hx List.not_mem_nil)
      refine ⟨linesOf_cons ⟨line, c, rfl, hbreak, hline⟩ hlines, ?_⟩
      rw [List.flatten_cons, hflat, List.nil_append, List.append_assoc, List.singleton_append]
    case isFalse hbreak =>
      have hline' : ∀ x ∈ line ++ [c], isLineBreak x = false := by
        intro x hx
        rcases List.mem_append.mp hx with hx | hx
        · exact hline x hx
        · rw [List.mem_singleton.mp hx]
          simpa using hbreak
      obtain ⟨hlines, hflat⟩ := ih hrest _ hline'
      exact ⟨hlines, by rw [hflat, List.append_assoc, List.singleton_append]⟩

theorem linesOf_keptLines {text : PyText} (htext : '\r' ∉ text) :
    LinesOf (keptLines text) ∧ (keptLines text).flatten = text :=
  linesOf_keptLinesFrom htext [] fun _ hx => absurd hx List.not_mem_nil

/-- A line is read up to its break. -/
theorem keptLinesFrom_body {body : PyText} (hbody : ∀ x ∈ body, isLineBreak x = false)
    (line rest : PyText) :
    keptLinesFrom line (body ++ rest) = keptLinesFrom (line ++ body) rest := by
  induction body generalizing line with
  | nil => simp
  | cons c body ih =>
    have hc := hbody c List.mem_cons_self
    have hne : c ≠ '\r' := by
      rintro rfl
      exact absurd hc (by decide)
    rw [List.cons_append, keptLinesFrom_cons hne, if_neg (by simp [hc]),
      ih fun x hx => hbody x (List.mem_cons_of_mem _ hx), List.append_assoc, List.singleton_append]

/-- **Lines are read back as they are.** -/
theorem keptLines_flatten {lines : List PyText} (h : LinesOf lines)
    (hreturn : ∀ line ∈ lines, '\r' ∉ line) : keptLines lines.flatten = lines := by
  unfold keptLines
  induction lines with
  | nil => rfl
  | cons line rest ih =>
    have ih := ih h.tail fun l hl => hreturn l (List.mem_cons_of_mem _ hl)
    have hterminated (ht : Terminated line) :
        keptLinesFrom [] (line :: rest).flatten = line :: rest := by
      obtain ⟨body, c, rfl, hbreak, hbody⟩ := ht
      have hne : c ≠ '\r' := by
        rintro rfl
        exact hreturn _ List.mem_cons_self (List.mem_append_right _ List.mem_cons_self)
      rw [List.flatten_cons, List.append_assoc, keptLinesFrom_body hbody, List.singleton_append,
        keptLinesFrom_cons hne, if_pos hbreak, ih, List.nil_append]
    cases rest with
    | nil =>
      rcases h with ht | ⟨hne, hbody⟩
      · exact hterminated ht
      · rw [List.flatten_cons, keptLinesFrom_body hbody, List.flatten_nil, keptLinesFrom,
          if_neg (by simpa using hne), List.nil_append]
    | cons => exact hterminated h.1

/-! ## One image line -/

/-- The tag or digest of a reference. -/
inductive IsSuffix : PyText → Prop where
  | none : IsSuffix []
  | tag {tag : PyText} (hne : tag ≠ []) (h : ∀ c ∈ tag, isTagChar c = true) : IsSuffix (':' :: tag)
  | digest {hex : PyText} (hlength : hex.length = 64) (h : ∀ c ∈ hex, isHexChar c = true) :
      IsSuffix ('@' :: "sha256:".toList ++ hex)

/-- The groups of a match are of the form the pattern asks for. -/
structure ImageLine.Valid (l : ImageLine) : Prop where
  indent : ∃ blanks blanks', l.indent = blanks ++ "image:".toList ++ blanks' ∧
    (∀ c ∈ blanks, isSpace c = true) ∧ ∀ c ∈ blanks', isSpace c = true
  repo : ∃ name, l.repo = "greffon/".toList ++ name ∧ name ≠ [] ∧ ∀ c ∈ name, isNameChar c = true
  suffix : IsSuffix l.suffix

theorem not_nameChar_of_isSpace {c : Char} (h : isSpace c = true) : isNameChar c = false := by
  by_contra hname
  rw [Bool.not_eq_false] at hname
  rw [isSpace_of_isNameChar hname] at h
  cases h

/-- A suffix and the blanks behind it are told apart. -/
theorem refSuffix_append {suffix blanks : PyText} (h : IsSuffix suffix)
    (hblanks : ∀ c ∈ blanks, isSpace c = true) : refSuffix (suffix ++ blanks) = some suffix := by
  have hall : blanks.all isSpace = true := List.all_eq_true.mpr hblanks
  cases h with
  | none =>
    cases blanks with
    | nil => rfl
    | cons c rest =>
      have hc := hblanks c List.mem_cons_self
      rw [List.nil_append]
      unfold refSuffix
      split
      case h_1 heq =>
        cases heq
        exact absurd hc (by decide)
      case h_2 heq =>
        cases heq
        exact absurd hc (by decide)
      case h_3 => rw [if_pos hall]
  | @tag tag hne htag =>
    have hstop : ∀ c ∈ blanks.head?, isTagChar c = false := by
      intro c hc
      unfold isTagChar
      rw [hblanks c (List.mem_of_mem_head? hc)]
      rfl
    obtain ⟨htake, hdrop⟩ := takeWhile_append_stop _ htag hstop
    rw [List.cons_append]
    rw [refSuffix, htake, hdrop, if_pos ⟨hne, hall⟩]
  | @digest hex hlength hhex =>
    have htake : (hex ++ blanks).take 64 = hex := by rw [← hlength, List.take_left]
    have hdrop : (hex ++ blanks).drop 64 = blanks := by rw [← hlength, List.drop_left]
    rw [List.append_assoc, List.cons_append]
    rw [refSuffix, rest?_append]
    dsimp only
    rw [htake, hdrop, if_pos ⟨hlength, List.all_eq_true.mpr hhex, hall⟩]

/-- What `refSuffix` finds is a suffix, with blanks behind it. -/
theorem isSuffix_of_refSuffix {text suffix : PyText} (h : refSuffix text = some suffix) :
    IsSuffix suffix ∧ ∃ blanks, text = suffix ++ blanks ∧ ∀ c ∈ blanks, isSpace c = true := by
  unfold refSuffix at h
  split at h
  case h_1 tag =>
    split at h
    case isTrue hif =>
      cases h
      refine ⟨.tag hif.1 (List.all_eq_true.mp List.all_takeWhile), _, ?_, List.all_eq_true.mp hif.2⟩
      rw [List.cons_append, List.takeWhile_append_dropWhile]
    case isFalse => cases h
  case h_2 digest =>
    split at h
    case h_1 => cases h
    case h_2 hex hrest =>
      split at h
      case isTrue hif =>
        cases h
        refine ⟨.digest hif.1 (List.all_eq_true.mp hif.2.1), _, ?_, List.all_eq_true.mp hif.2.2⟩
        rw [List.append_assoc, List.cons_append, List.take_append_drop, ← rest?_eq_some hrest]
      case isFalse => cases h
  case h_3 =>
    split at h
    case isTrue hall =>
      cases h
      exact ⟨.none, text, rfl, List.all_eq_true.mp hall⟩
    case isFalse => cases h

/-- The blanks, the names and the suffixes of a line, one behind the other. -/
theorem imageLine_of_valid {l : ImageLine} (hl : l.Valid) (blanks : PyText)
    (hblanks : ∀ c ∈ blanks, isSpace c = true) :
    imageLine (l.indent ++ l.repo ++ l.suffix ++ blanks) = some l := by
  obtain ⟨before, between, hindent, hbefore, hbetween⟩ := hl.indent
  obtain ⟨name, hrepo, hne, hname⟩ := hl.repo
  have hstop : ∀ c ∈ (l.suffix ++ blanks).head?, isNameChar c = false := by
    intro c hc
    cases hsuffix : l.suffix with
    | nil =>
      rw [hsuffix, List.nil_append] at hc
      exact not_nameChar_of_isSpace (hblanks c (List.mem_of_mem_head? hc))
    | cons d rest =>
      rw [hsuffix] at hc
      cases hc
      have hsuffix' := hl.suffix
      rw [hsuffix] at hsuffix'
      cases hsuffix' <;> decide
  have htext : l.indent ++ l.repo ++ l.suffix ++ blanks =
      before ++ ("image:".toList ++ (between ++ ("greffon/".toList ++
        (name ++ (l.suffix ++ blanks))))) := by
    rw [hindent, hrepo]
    simp only [List.append_assoc]
  obtain ⟨htake₁, hdrop₁⟩ := takeWhile_append_stop
    ("image:".toList ++ (between ++ ("greffon/".toList ++ (name ++ (l.suffix ++ blanks)))))
    hbefore (by rintro c ⟨⟩; decide)
  obtain ⟨htake₂, hdrop₂⟩ := takeWhile_append_stop
    ("greffon/".toList ++ (name ++ (l.suffix ++ blanks))) hbetween (by rintro c ⟨⟩; decide)
  obtain ⟨htake₃, hdrop₃⟩ := takeWhile_append_stop _ hname hstop
  rw [htext]
  unfold imageLine
  rw [hdrop₁, rest?_append]
  dsimp only
  rw [hdrop₂, rest?_append]
  dsimp only
  rw [htake₃, hdrop₃, if_neg hne, refSuffix_append hl.suffix hblanks, htake₁, htake₂,
    Option.map_some, ← hindent, ← hrepo]

/-- A match is of the form of the pattern, with blanks behind it. -/
theorem valid_of_imageLine {body : PyText} {l : ImageLine} (h : imageLine body = some l) :
    l.Valid ∧ ∃ blanks, body = l.indent ++ l.repo ++ l.suffix ++ blanks ∧
      ∀ c ∈ blanks, isSpace c = true := by
  unfold imageLine at h
  split at h
  case h_1 => cases h
  case h_2 value hvalue =>
    split at h
    case h_1 => cases h
    case h_2 named hnamed =>
      split at h
      case isTrue => cases h
      case isFalse hne =>
        obtain ⟨suffix, hsuffix, rfl⟩ := Option.map_eq_some_iff.mp h
        obtain ⟨his, blanks, hrest, hblanks⟩ := isSuffix_of_refSuffix hsuffix
        refine ⟨⟨⟨_, _, rfl, List.all_eq_true.mp List.all_takeWhile,
          List.all_eq_true.mp List.all_takeWhile⟩,
          ⟨_, rfl, hne, List.all_eq_true.mp List.all_takeWhile⟩, his⟩, blanks, ?_, hblanks⟩
        have hvalue' := rest?_eq_some hvalue
        have hnamed' := rest?_eq_some hnamed
        calc body = body.takeWhile isSpace ++ body.dropWhile isSpace :=
              List.takeWhile_append_dropWhile.symm
          _ = body.takeWhile isSpace ++ ("image:".toList ++
                (value.takeWhile isSpace ++ value.dropWhile isSpace)) := by
              rw [hvalue', List.takeWhile_append_dropWhile]
          _ = body.takeWhile isSpace ++ ("image:".toList ++ (value.takeWhile isSpace ++
                ("greffon/".toList ++
                  (named.takeWhile isNameChar ++ named.dropWhile isNameChar)))) := by
              rw [hnamed', List.takeWhile_append_dropWhile]
          _ = _ := by
              rw [hrest]
              simp only [List.append_assoc]

/-! ## References of a line -/

theorem IsSuffix.visible {suffix : PyText} (h : IsSuffix suffix) :
    ∀ c ∈ suffix, isSpace c = false := by
  intro c hc
  cases h with
  | none => cases hc
  | tag hne htag =>
    rcases List.mem_cons.mp hc with rfl | hc
    · decide
    · exact isSpace_of_isTagChar (htag c hc)
  | digest hlength hhex =>
    rcases List.mem_append.mp hc with hc | hc
    · have hall : ('@' :: "sha256:".toList).all (fun c => !isSpace c) = true := by decide
      simpa using List.all_eq_true.mp hall c hc
    · exact isSpace_of_isHexChar (hhex c hc)

theorem ImageLine.Valid.visible {l : ImageLine} (hl : l.Valid) :
    ∀ c ∈ l.ref, isSpace c = false := by
  intro c hc
  obtain ⟨name, hrepo, -, hname⟩ := hl.repo
  unfold ImageLine.ref at hc
  rw [hrepo] at hc
  rcases List.mem_append.mp hc with hc | hc
  · rcases List.mem_append.mp hc with hc | hc
    · have hall : ("greffon/".toList).all (fun c => !isSpace c) = true := by decide
      simpa using List.all_eq_true.mp hall c hc
    · exact isSpace_of_isNameChar (hname c hc)
  · exact hl.suffix.visible c hc

theorem ImageLine.Valid.ref_ne_nil {l : ImageLine} (hl : l.Valid) : l.ref ≠ [] := by
  obtain ⟨name, hrepo, -, -⟩ := hl.repo
  unfold ImageLine.ref
  rw [hrepo]
  simp

/-- A line is what `rstrip` leaves of it, and newlines. -/
theorem withoutNewline_append (line : PyText) :
    ∃ newlines, line = withoutNewline line ++ newlines ∧ ∀ c ∈ newlines, c = '\n' := by
  refine ⟨(line.reverse.takeWhile (· == '\n')).reverse, ?_, ?_⟩
  · unfold withoutNewline
    rw [← List.reverse_append, List.takeWhile_append_dropWhile, List.reverse_reverse]
  · intro c hc
    have hall := List.all_eq_true.mp List.all_takeWhile c (List.mem_reverse.mp hc)
    simpa using hall

/-- **The reference of an image line** is its repository with its tag or digest. -/
theorem lineRef_of_imageLine {line : PyText} {l : ImageLine}
    (h : imageLine (withoutNewline line) = some l) : lineRef line = some (l.repo, l.ref) := by
  obtain ⟨hl, blanks, hbody, hblanks⟩ := valid_of_imageLine h
  obtain ⟨newlines, hline, hnewlines⟩ := withoutNewline_append line
  obtain ⟨before, between, hindent, hbefore, hbetween⟩ := hl.indent
  have hafter : ∀ c ∈ blanks ++ newlines, isSpace c = true := by
    intro c hc
    rcases List.mem_append.mp hc with hc | hc
    · exact hblanks c hc
    · rw [hnewlines c hc]
      decide
  have hlast : ∀ (start : PyText), ∀ c ∈ (start ++ l.ref).getLast?, isSpace c = false := by
    intro start c hc
    rw [List.getLast?_append_of_ne_nil _ hl.ref_ne_nil] at hc
    exact hl.visible c (List.mem_of_getLast? hc)
  have htext : line = before ++ ("image:".toList ++ between ++ l.ref) ++ (blanks ++ newlines) := by
    rw [hline, hbody, hindent]
    unfold ImageLine.ref
    simp only [List.append_assoc]
  have hstrip : pyStrip line = "image:".toList ++ between ++ l.ref := by
    conv_lhs => rw [htext]
    exact pyStrip_append _ hbefore hafter (by rintro c ⟨⟩; decide) (hlast _) (by simp)
  have hdrop : ("image:".toList ++ between ++ l.ref).drop "image:".toList.length =
      between ++ l.ref := by rw [List.append_assoc, List.drop_left]
  have hfirst : ∀ c ∈ l.ref.head?, isSpace c = false := fun c hc =>
    hl.visible c (List.mem_of_mem_head? hc)
  have hvalue : pyStrip (between ++ l.ref) = l.ref := by
    have hstrip := pyStrip_append [] hbetween (fun c hc => absurd hc List.not_mem_nil)
      hfirst (by simpa using hlast []) hl.ref_ne_nil
    rwa [List.append_nil] at hstrip
  unfold lineRef
  rw [h, Option.map_some, hstrip, hdrop, hvalue]

theorem lineRef_eq_none {line : PyText} (h : imageLine (withoutNewline line) = none) :
    lineRef line = none := by
  unfold lineRef
  rw [h, Option.map_none]

/-! ## A line that is rewritten -/

section Rewriting
variable {line : PyText} {l : ImageLine} {suffix : PyText}

/-- A line of a text. -/
def IsLine (line : PyText) : Prop := Terminated line ∨ Unterminated line

theorem IsLine.inside (h : IsLine line) : ∀ x ∈ line.dropLast, isLineBreak x = false := by
  intro x hx
  rcases h with ⟨body, c, rfl, -, hbody⟩ | ⟨-, hbody⟩
  · rw [List.dropLast_concat] at hx
    exact hbody x hx
  · exact hbody x (List.dropLast_subset _ hx)

theorem not_break_of_visible {c : Char} (h : isSpace c = false) : isLineBreak c = false := by
  by_contra hbreak
  rw [Bool.not_eq_false] at hbreak
  rw [isSpace_of_isLineBreak hbreak] at h
  cases h

theorem IsLine.start {start rest : PyText} (h : IsLine (start ++ rest)) (hne : rest ≠ []) :
    ∀ x ∈ start, isLineBreak x = false := by
  intro x hx
  refine h.inside x ?_
  rw [List.dropLast_append_of_ne_nil hne]
  exact List.mem_append_left _ hx

theorem withoutNewline_of_newline {body : PyText} (h : ∀ x ∈ body, isLineBreak x = false) :
    withoutNewline (body ++ ['\n']) = body ∧ withoutNewline body = body := by
  have hbody : body.reverse.dropWhile (· == '\n') = body.reverse := by
    cases hreverse : body.reverse with
    | nil => rfl
    | cons c rest =>
      have hc := h c (List.mem_reverse.mp (hreverse ▸ List.mem_cons_self))
      have hne : (c == '\n') = false := by
        rw [beq_eq_false_iff_ne]
        rintro rfl
        exact absurd hc (by decide)
      rw [List.dropWhile_cons, hne]
      rfl
  unfold withoutNewline
  constructor
  · rw [List.reverse_append, List.reverse_singleton, List.singleton_append, List.dropWhile_cons,
      if_pos (by decide), hbody, List.reverse_reverse]
  · rw [hbody, List.reverse_reverse]

/-- The line with another suffix. -/
def ImageLine.withSuffix (l : ImageLine) (suffix : PyText) : ImageLine := { l with suffix := suffix }

theorem ImageLine.Valid.withSuffix (hl : l.Valid) (h : IsSuffix suffix) :
    (l.withSuffix suffix).Valid := ⟨hl.indent, hl.repo, h⟩

/-- The text of a rewritten line, without its newline. -/
theorem ImageLine.Valid.no_break (hl : l.Valid) (hindent : ∀ x ∈ l.indent, isLineBreak x = false) :
    ∀ x ∈ l.indent ++ l.ref, isLineBreak x = false := by
  intro x hx
  rcases List.mem_append.mp hx with hx | hx
  · exact hindent x hx
  · exact not_break_of_visible (hl.visible x hx)

theorem newlineOf_eq (line : PyText) : newlineOf line = ['\n'] ∨ newlineOf line = [] := by
  unfold newlineOf
  split
  · exact .inl rfl
  · exact .inr rfl

/-- **A rewritten line** is the image line it was, with the new reference and at most a newline. -/
theorem imageLine_rewritten (hline : IsLine line) (h : imageLine (withoutNewline line) = some l)
    (hsuffix : IsSuffix suffix) :
    (∀ x ∈ l.indent ++ (l.withSuffix suffix).ref, isLineBreak x = false) ∧
      lineRef (l.indent ++ (l.withSuffix suffix).ref ++ newlineOf line) =
        some (l.repo, l.repo ++ suffix) := by
  obtain ⟨hl, blanks, hbody, -⟩ := valid_of_imageLine h
  obtain ⟨newlines, htext, -⟩ := withoutNewline_append line
  have hvalid := hl.withSuffix hsuffix
  have hindent : ∀ x ∈ l.indent, isLineBreak x = false := by
    have hsplit : line = l.indent ++ (l.ref ++ (blanks ++ newlines)) := by
      rw [htext, hbody]
      unfold ImageLine.ref
      simp only [List.append_assoc]
    rw [hsplit] at hline
    exact hline.start (List.append_ne_nil_of_left_ne_nil hl.ref_ne_nil _)
  have hbreak := hvalid.no_break hindent
  refine ⟨hbreak, ?_⟩
  have hwithout : withoutNewline (l.indent ++ (l.withSuffix suffix).ref ++ newlineOf line) =
      l.indent ++ (l.withSuffix suffix).ref := by
    rcases newlineOf_eq line with hnewline | hnewline
    · rw [hnewline]
      exact (withoutNewline_of_newline hbreak).1
    · rw [hnewline, List.append_nil]
      exact (withoutNewline_of_newline hbreak).2
  have himage : imageLine (withoutNewline
      (l.indent ++ (l.withSuffix suffix).ref ++ newlineOf line)) = some (l.withSuffix suffix) := by
    have hparsed := imageLine_of_valid hvalid [] fun c hc => absurd hc List.not_mem_nil
    rw [hwithout]
    unfold ImageLine.ref
    rwa [List.append_nil, List.append_assoc] at hparsed
  exact lineRef_of_imageLine himage

/-- What a rewriting puts in the place of a reference is a reference of the repository. -/
def Replaces (resolve : PyText → PyText → Option PyText) (entry : PyText × PyText) : Prop :=
  ∃ suffix, IsSuffix suffix ∧ resolve entry.1 entry.2 = some (entry.1 ++ suffix)

/-- The entry of a rewritten line. -/
def replaced (resolve : PyText → PyText → Option PyText) (entry : PyText × PyText) :
    PyText × PyText := (entry.1, (resolve entry.1 entry.2).getD [])

variable {resolve : PyText → PyText → Option PyText}

/-- **An image line is rewritten**, if its reference is. -/
theorem rewriteLine_of_imageLine (resolve : PyText → PyText → Option PyText) {line : PyText}
    {l : ImageLine} (h : imageLine (withoutNewline line) = some l) :
    rewriteLine resolve line =
      ((resolve l.repo l.ref).map fun new => l.indent ++ new ++ newlineOf line).getD line := by
  have href := lineRef_of_imageLine h
  have hvalue : pyStrip ((pyStrip line).drop "image:".toList.length) = l.ref := by
    unfold lineRef at href
    rw [h, Option.map_some] at href
    exact congrArg Prod.snd (Option.some.inj href)
  unfold rewriteLine
  rw [h]
  dsimp only
  rw [hvalue]
  cases resolve l.repo l.ref with
  | none => rfl
  | some new => rfl

/-- A line is rewritten, or is no image line. -/
theorem rewriteLine_cases (resolve : PyText → PyText → Option PyText) (line : PyText) :
    lineRef line = none ∧ rewriteLine resolve line = line ∨
      ∃ l, imageLine (withoutNewline line) = some l ∧ lineRef line = some (l.repo, l.ref) ∧
        ∀ new, resolve l.repo l.ref = some new →
          rewriteLine resolve line = l.indent ++ new ++ newlineOf line := by
  cases h : imageLine (withoutNewline line) with
  | none =>
    refine .inl ⟨lineRef_eq_none h, ?_⟩
    unfold rewriteLine
    rw [h]
  | some l =>
    refine .inr ⟨l, rfl, lineRef_of_imageLine h, fun new hnew => ?_⟩
    rw [rewriteLine_of_imageLine resolve h, hnew]
    rfl

/-- **One line.**  It stays a line, keeps its repository, and ends as it must. -/
structure Keeps (resolve : PyText → PyText → Option PyText) (line : PyText) : Prop where
  ref : lineRef (rewriteLine resolve line) = (lineRef line).map (replaced resolve)
  isLine : IsLine (rewriteLine resolve line)
  noReturn : '\r' ∉ line → '\r' ∉ rewriteLine resolve line
  newline : (lineRef line).isSome = true → line.getLast? = some '\n' →
    (rewriteLine resolve line).getLast? = some '\n'

theorem rewriteLine_keeps (hline : IsLine line)
    (hreplaces : ∀ entry, lineRef line = some entry → Replaces resolve entry) :
    Keeps resolve line := by
  rcases rewriteLine_cases resolve line with ⟨hnone, hsame⟩ | ⟨l, himage, href, hrewrite⟩
  · refine ⟨?_, ?_, fun hreturn => ?_, fun hsome => ?_⟩
    · rw [hsame, hnone, Option.map_none]
    · rw [hsame]
      exact hline
    · rw [hsame]
      exact hreturn
    · rw [hnone] at hsome
      cases hsome
  · obtain ⟨suffix, hsuffix, hresolve⟩ := hreplaces _ href
    have hnew := hrewrite _ hresolve
    obtain ⟨hbreak, hentry⟩ := imageLine_rewritten hline himage hsuffix
    have hvalid := (valid_of_imageLine himage).1.withSuffix hsuffix
    have hnew' : rewriteLine resolve line =
        l.indent ++ (l.withSuffix suffix).ref ++ newlineOf line := hnew
    have hne : l.indent ++ (l.withSuffix suffix).ref ≠ [] :=
      List.append_ne_nil_of_right_ne_nil _ hvalid.ref_ne_nil
    rw [← hnew'] at hentry
    refine ⟨?_, ?_, fun _ => ?_, fun _ hlast => ?_⟩
    · rw [hentry, href]
      unfold replaced
      rw [Option.map_some, hresolve, Option.getD_some]
    · rw [hnew']
      rcases newlineOf_eq line with hnewline | hnewline
      · rw [hnewline]
        exact .inl ⟨_, _, rfl, by decide, hbreak⟩
      · rw [hnewline, List.append_nil]
        exact .inr ⟨hne, hbreak⟩
    · rw [hnew']
      intro hreturn
      rcases List.mem_append.mp hreturn with hreturn | hreturn
      · exact absurd (hbreak _ hreturn) (by decide)
      · rcases newlineOf_eq line with hnewline | hnewline
        · rw [hnewline] at hreturn
          exact absurd hreturn (by decide)
        · rw [hnewline] at hreturn
          cases hreturn
    · rw [hnew']
      unfold newlineOf
      rw [if_pos hlast, List.getLast?_append, List.getLast?_singleton, Option.some_or]

/-! ## The lines of a text -/

/-- Every image line but the last line ends with a newline. -/
def NewlineEnded : List PyText → Prop
  | [] | [_] => True
  | line :: rest => ((lineRef line).isSome = true → line.getLast? = some '\n') ∧ NewlineEnded rest

/-- The lines of a text that can be rewritten back. -/
structure Lined (lines : List PyText) : Prop where
  linesOf : LinesOf lines
  noReturn : ∀ line ∈ lines, '\r' ∉ line
  newline : NewlineEnded lines

theorem Lined.tail {line : PyText} {rest : List PyText} (h : Lined (line :: rest)) : Lined rest := by
  refine ⟨h.linesOf.tail, fun l hl => h.noReturn l (List.mem_cons_of_mem _ hl), ?_⟩
  have hnewline := h.newline
  cases rest with
  | nil => trivial
  | cons => exact hnewline.2

theorem Lined.head {line : PyText} {rest : List PyText} (h : Lined (line :: rest)) :
    IsLine line := by
  have hlines := h.linesOf
  cases rest with
  | nil => exact hlines
  | cons => exact .inl hlines.1

/-- A line that is not the last stays terminated. -/
theorem terminated_rewritten (hkeeps : Keeps resolve line) (hline : Terminated line)
    (hnewline : (lineRef line).isSome = true → line.getLast? = some '\n') :
    Terminated (rewriteLine resolve line) := by
  rcases hkeeps.isLine with hterminated | ⟨hne, hbreak⟩
  · exact hterminated
  · exfalso
    have hlast : ∃ c, (rewriteLine resolve line).getLast? = some c ∧ isLineBreak c = true := by
      rcases rewriteLine_cases resolve line with ⟨-, hsame⟩ | ⟨l, -, href, -⟩
      · obtain ⟨body, c, rfl, hc, -⟩ := hline
        rw [hsame]
        exact ⟨c, List.getLast?_concat, hc⟩
      · have hsome : (lineRef line).isSome = true := by rw [href]; rfl
        exact ⟨'\n', hkeeps.newline hsome (hnewline hsome), by decide⟩
    obtain ⟨c, hc, hbreak'⟩ := hlast
    rw [hbreak c (List.mem_of_getLast? hc)] at hbreak'
    cases hbreak'

/-- **All lines.**  They are the lines of the rewritten text, with the references replaced. -/
theorem lined_rewritten {lines : List PyText} (h : Lined lines)
    (hreplaces : ∀ entry ∈ lines.filterMap lineRef, Replaces resolve entry) :
    Lined (lines.map (rewriteLine resolve)) ∧
      (lines.map (rewriteLine resolve)).filterMap lineRef =
        (lines.filterMap lineRef).map (replaced resolve) := by
  induction lines with
  | nil => exact ⟨h, rfl⟩
  | cons line rest ih =>
    have hkeeps : Keeps resolve line := rewriteLine_keeps h.head fun entry hentry =>
      hreplaces entry (List.mem_filterMap.mpr ⟨line, List.mem_cons_self, hentry⟩)
    obtain ⟨hrest, hrefs⟩ := ih h.tail fun entry hentry => by
      obtain ⟨l, hl, hl'⟩ := List.mem_filterMap.mp hentry
      exact hreplaces entry (List.mem_filterMap.mpr ⟨l, List.mem_cons_of_mem _ hl, hl'⟩)
    constructor
    · have hreturn : ∀ l ∈ (line :: rest).map (rewriteLine resolve), '\r' ∉ l := by
        intro l hl
        rw [List.map_cons] at hl
        rcases List.mem_cons.mp hl with rfl | hl
        · exact hkeeps.noReturn (h.noReturn line List.mem_cons_self)
        · exact hrest.noReturn l hl
      have hlines := h.linesOf
      have hnewline := h.newline
      cases rest with
      | nil => exact ⟨hkeeps.isLine, hreturn, trivial⟩
      | cons next rest =>
        refine ⟨⟨terminated_rewritten hkeeps hlines.1 hnewline.1, hrest.linesOf⟩, hreturn,
          fun hsome => ?_, hrest.newline⟩
        have hsome' : (lineRef line).isSome = true := by
          rw [hkeeps.ref, Option.isSome_map] at hsome
          exact hsome
        exact hkeeps.newline hsome' (hnewline.1 hsome')
    · rw [List.map_cons, List.filterMap_cons, List.filterMap_cons, hkeeps.ref, hrefs]
      cases lineRef line with
      | none => rfl
      | some entry => rfl

/-! ## The text -/

/-- A text whose image lines end with a newline or the text. -/
def LinedText (text : PyText) : Prop := Lined (keptLines text)

/-- **The lines of a rewritten text** are the rewritten lines. -/
theorem keptLines_rewritten {text : PyText} (h : LinedText text)
    (hreplaces : ∀ entry ∈ imageRefs text, Replaces resolve entry) :
    keptLines (rewriteImageLines text resolve).1 = (keptLines text).map (rewriteLine resolve) := by
  have hlined := (lined_rewritten h hreplaces).1
  rw [rewriteImageLines, List.flatMap_def]
  exact keptLines_flatten hlined.linesOf hlined.noReturn

/-- **A rewritten text** has the references that were put into it, and can be rewritten again. -/
theorem imageRefs_rewritten {text : PyText} (h : LinedText text)
    (hreplaces : ∀ entry ∈ imageRefs text, Replaces resolve entry) :
    LinedText (rewriteImageLines text resolve).1 ∧
      imageRefs (rewriteImageLines text resolve).1 = (imageRefs text).map (replaced resolve) := by
  unfold LinedText imageRefs
  rw [keptLines_rewritten h hreplaces]
  exact lined_rewritten h hreplaces

end Rewriting

/-! ## References that are captured -/

section PutBack
variable {text t : PyText} {target : String}

/-- The lines of one repository have one reference. -/
def OneRef (refs : Refs) : Prop := ∀ e ∈ refs, ∀ e' ∈ refs, e.1 = e'.1 → e = e'

/-- A text whose references can be put back. -/
structure Regular (text : PyText) : Prop where
  lined : LinedText text
  oneRef : OneRef (imageRefs text)

/-- **The condition on the file.**  However often the captured references are put back into the
rewritten file, its references are the old ones. -/
def Restorable (text : PyText) : Prop :=
  ∀ target, isValidImageTag target = true → ∀ k,
    imageRefs ((putBack (capturedRefs text))^[k + 1] (retagText target text)) = imageRefs text

theorem entry_of_mem {entry : PyText × PyText} (h : entry ∈ imageRefs text) :
    ∃ suffix, IsSuffix suffix ∧ entry.2 = entry.1 ++ suffix := by
  obtain ⟨line, -, hline⟩ := List.mem_filterMap.mp h
  cases himage : imageLine (withoutNewline line) with
  | none =>
    rw [lineRef_eq_none himage] at hline
    cases hline
  | some l =>
    rw [lineRef_of_imageLine himage] at hline
    cases hline
    exact ⟨l.suffix, (valid_of_imageLine himage).1.suffix, rfl⟩

theorem lookup_of_mem {refs : Refs} {repo : PyText} (h : ∃ e ∈ refs, e.1 = repo) :
    ∃ ref, refs.lookup repo = some ref ∧ (repo, ref) ∈ refs := by
  induction refs with
  | nil =>
    obtain ⟨e, he, -⟩ := h
    cases he
  | cons e rest ih =>
    obtain ⟨key, ref⟩ := e
    by_cases hkey : repo = key
    · subst hkey
      exact ⟨ref, List.lookup_cons_self, List.mem_cons_self⟩
    · obtain ⟨e, he, hrepo⟩ := h
      have hrest : ∃ e ∈ rest, e.1 = repo := by
        rcases List.mem_cons.mp he with rfl | he
        · exact absurd hrepo.symm hkey
        · exact ⟨e, he, hrepo⟩
      obtain ⟨ref', hlookup, hmem⟩ := ih hrest
      refine ⟨ref', ?_, List.mem_cons_of_mem _ hmem⟩
      rw [List.lookup_cons, beq_false_of_ne hkey]
      exact hlookup

theorem captured_lookup (h : OneRef (imageRefs text)) {entry : PyText × PyText}
    (hentry : entry ∈ imageRefs text) : (capturedRefs text).lookup entry.1 = some entry.2 := by
  have hcaptured : ∃ e ∈ capturedRefs text, e.1 = entry.1 :=
    ⟨entry, List.mem_reverse.mpr hentry, rfl⟩
  obtain ⟨ref, hlookup, hmem⟩ := lookup_of_mem hcaptured
  have hsame := h entry hentry (entry.1, ref) (List.mem_reverse.mp hmem) rfl
  rw [hlookup, congrArg Prod.snd hsame]

theorem isTagChar_of_startsTag {c : Char}
    (h : (startsTag c || c == '.' || c == '-') = true) : isTagChar c = true := by
  have hname : isNameChar c = true := by
    unfold isNameChar
    unfold startsTag at h
    revert h
    cases c.isAlphanum <;> cases c == '_' <;> cases c == '.' <;> cases c == '-' <;> decide
  have hat : c ≠ '@' := by
    rintro rfl
    exact absurd hname (by decide)
  unfold isTagChar
  rw [isSpace_of_isNameChar hname]
  simpa using hat

theorem isSuffix_of_valid (h : isValidImageTag target = true) : IsSuffix (':' :: target.toList) := by
  unfold isValidImageTag at h
  split at h
  case h_1 => cases h
  case h_2 c rest hcs =>
    rw [Bool.and_eq_true, Bool.and_eq_true] at h
    refine .tag (by rw [hcs]; exact List.cons_ne_nil _ _) fun d hd => ?_
    rw [hcs] at hd
    rcases List.mem_cons.mp hd with rfl | hd
    · exact isTagChar_of_startsTag (by rw [h.1.1]; rfl)
    · exact isTagChar_of_startsTag (List.all_eq_true.mp h.1.2 d hd)

/-- A text with the repositories of another. -/
def SameRepos (text t : PyText) : Prop :=
  (imageRefs t).map Prod.fst = (imageRefs text).map Prod.fst

theorem replaced_fst (resolve : PyText → PyText → Option PyText) (entries : Refs) :
    (entries.map (replaced resolve)).map Prod.fst = entries.map Prod.fst := by
  rw [List.map_map]
  rfl

/-- **The rewritten text.** -/
theorem retagText_spec (h : LinedText text) (htarget : isValidImageTag target = true) :
    LinedText (retagText target text) ∧ SameRepos text (retagText target text) := by
  have hreplaces : ∀ entry ∈ imageRefs text,
      Replaces (fun repo _ => some (repo ++ ':' :: target.toList)) entry :=
    fun entry _ => ⟨_, isSuffix_of_valid htarget, rfl⟩
  obtain ⟨hlined, hrefs⟩ := imageRefs_rewritten h hreplaces
  refine ⟨hlined, ?_⟩
  unfold SameRepos retagText
  rw [hrefs, replaced_fst]

theorem captured_replaces (text : PyText) (entry : PyText × PyText) :
    (capturedRefs text).lookup entry.1 = none ∨
      Replaces (fun repo _ => (capturedRefs text).lookup repo) entry := by
  cases hlookup : (capturedRefs text).lookup entry.1 with
  | none => exact .inl rfl
  | some ref =>
    have hmem := mem_of_lookup hlookup
    obtain ⟨suffix, hsuffix, hvalue⟩ := entry_of_mem (List.mem_reverse.mp hmem)
    exact .inr ⟨suffix, hsuffix, hlookup.trans (congrArg some hvalue)⟩

/-- Something was captured of every repository of the text. -/
theorem captured_replaces_of_sameRepos (hrepos : SameRepos text t) :
    ∀ entry ∈ imageRefs t, Replaces (fun repo _ => (capturedRefs text).lookup repo) entry := by
  intro entry hentry
  have hrepo : entry.1 ∈ (imageRefs text).map Prod.fst := by
    rw [← hrepos]
    exact List.mem_map_of_mem hentry
  obtain ⟨old, hold, heq⟩ := List.mem_map.mp hrepo
  have hcaptured : ∃ e ∈ capturedRefs text, e.1 = entry.1 := ⟨old, List.mem_reverse.mpr hold, heq⟩
  obtain ⟨ref, hlookup, -⟩ := lookup_of_mem hcaptured
  rcases captured_replaces text entry with hnone | hreplaces
  · rw [hlookup] at hnone
    cases hnone
  · exact hreplaces

/-- **The references put back** are, for each repository, the one that was captured. -/
theorem imageRefs_putBack (ht : LinedText t) (hrepos : SameRepos text t) :
    LinedText (putBack (capturedRefs text) t) ∧
      imageRefs (putBack (capturedRefs text) t) =
        (imageRefs text).map fun e => (e.1, ((capturedRefs text).lookup e.1).getD []) := by
  obtain ⟨hlined, hrefs⟩ := imageRefs_rewritten ht (captured_replaces_of_sameRepos hrepos)
  refine ⟨hlined, ?_⟩
  -- an entry is replaced according to its repository alone
  have hfst (entries : Refs) :
      entries.map (replaced fun repo _ => (capturedRefs text).lookup repo) =
        (entries.map Prod.fst).map fun repo =>
          (repo, ((capturedRefs text).lookup repo).getD []) := by
    rw [List.map_map]
    rfl
  unfold putBack
  calc imageRefs (rewriteImageLines t fun repo _ => (capturedRefs text).lookup repo).1
      = (imageRefs t).map (replaced fun repo _ => (capturedRefs text).lookup repo) := hrefs
    _ = (imageRefs text).map (replaced fun repo _ => (capturedRefs text).lookup repo) := by
        rw [hfst, hfst, hrepos]

/-- **The references of a regular text come back.** -/
theorem putBack_spec (htext : Regular text) (ht : LinedText t) (hrepos : SameRepos text t) :
    LinedText (putBack (capturedRefs text) t) ∧
      imageRefs (putBack (capturedRefs text) t) = imageRefs text := by
  obtain ⟨hlined, hrefs⟩ := imageRefs_putBack ht hrepos
  refine ⟨hlined, ?_⟩
  calc imageRefs (putBack (capturedRefs text) t)
      = (imageRefs text).map fun e => (e.1, ((capturedRefs text).lookup e.1).getD []) := hrefs
    _ = (imageRefs text).map id := by
        refine List.map_congr_left fun entry hentry => ?_
        rw [captured_lookup htext.oneRef hentry]
        rfl
    _ = imageRefs text := List.map_id _

/-- **A regular file is restorable.** -/
theorem restorable_of_regular (h : Regular text) : Restorable text := by
  intro target htarget k
  have hstart := retagText_spec h.lined htarget
  -- along the iteration the text stays lined, with the same repositories
  have halong : ∀ k, LinedText ((putBack (capturedRefs text))^[k] (retagText target text)) ∧
      SameRepos text ((putBack (capturedRefs text))^[k] (retagText target text)) := by
    intro k
    induction k with
    | zero => exact hstart
    | succ k ih =>
      rw [Function.iterate_succ_apply']
      obtain ⟨hlined, hrefs⟩ := putBack_spec h ih.1 ih.2
      exact ⟨hlined, congrArg (List.map Prod.fst) hrefs⟩
  rw [Function.iterate_succ_apply']
  exact (putBack_spec h (halong k).1 (halong k).2).2

/-- The lines of a text without carriage returns are lines; what is left to ask is their ends. -/
theorem linedText_of_newlineEnded (hreturn : '\r' ∉ text) (h : NewlineEnded (keptLines text)) :
    LinedText text := by
  obtain ⟨hlines, hflat⟩ := linesOf_keptLines hreturn
  refine ⟨hlines, fun line hline hmem => hreturn ?_, h⟩
  rw [← hflat]
  exact List.mem_flatten.mpr ⟨line, hline, hmem⟩

end PutBack

end Greffer.Cli

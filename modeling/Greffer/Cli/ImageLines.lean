import Mathlib.Data.List.Basic
import Greffer.Python.Lines

/-! # The image lines of a compose file

The CLI changes the compose file as a text: it goes through the lines, and rewrites each that
is an `image:` line of a `greffon/` repository.  The line's reference is kept, so that the lines can
be rewritten back.

`rewrite_refs` says what a rewriting leaves of the references, and `Regular` of which texts: the
rewritten line ends with a newline or not at all, so **every other line break behind an image line
is lost**, and the line behind it with it.
-/
namespace Greffer.Cli
open Greffer

/-- A text, as `read_text` gives it. -/
abbrev PyText : Type := List Char

/-- `c.isspace()`, which is also what `\\s` matches. -/
def isSpace (c : Char) : Bool :=
  c == ' ' || c == '\t' || isLineBreak c || c == '\x1f' || c == '\xa0' || c == '\u1680' ||
    ('\u2000' ≤ c && c ≤ '\u200a') || c == '\u202f' || c == '\u205f' || c == '\u3000'

/-- `text.splitlines(keepends=True)`, of the rest of a text; `line` has been read of the first
one. -/
def keptLinesFrom (line : List Char) : List Char → List (List Char)
  | [] => if line.isEmpty then [] else [line]
  | '\r' :: '\n' :: rest => (line ++ ['\r', '\n']) :: keptLinesFrom [] rest
  | c :: rest => if isLineBreak c then (line ++ [c]) :: keptLinesFrom [] rest
    else keptLinesFrom (line ++ [c]) rest

/-- `text.splitlines(keepends=True)`. -/
def keptLines (text : PyText) : List PyText := keptLinesFrom [] text

/-- `text.strip()`. -/
def pyStrip (text : PyText) : PyText := ((text.dropWhile isSpace).reverse.dropWhile isSpace).reverse

/-- What follows a text in another that begins with it. -/
def rest? (start text : PyText) : Option PyText :=
  if start.isPrefixOf text then some (text.drop start.length) else none

/-! ## One line -/

/-- A character of `[A-Za-z0-9._-]`. -/
def isNameChar (c : Char) : Bool := c.isAlphanum || c == '.' || c == '_' || c == '-'

/-- A character of `[^\\s@]`. -/
def isTagChar (c : Char) : Bool := !isSpace c && c != '@'

/-- A character of `[0-9a-fA-F]`. -/
def isHexChar (c : Char) : Bool := c.isDigit || ('a' ≤ c && c ≤ 'f') || ('A' ≤ c && c ≤ 'F')

/-- The tag or digest that a reference ends with, if nothing but blanks follows. -/
def refSuffix (text : PyText) : Option PyText :=
  match text with
  | ':' :: tag =>
    if tag.takeWhile isTagChar ≠ [] ∧ (tag.dropWhile isTagChar).all isSpace then
      some (':' :: tag.takeWhile isTagChar)
    else none
  | '@' :: digest =>
    match rest? "sha256:".toList digest with
    | none => none
    | some hex =>
      if (hex.take 64).length = 64 ∧ (hex.take 64).all isHexChar ∧ (hex.drop 64).all isSpace then
        some ('@' :: "sha256:".toList ++ hex.take 64)
      else none
  | blanks => if blanks.all isSpace then some [] else none

/-- The groups of a match of `_IMAGE_LINE_RE`. -/
structure ImageLine where
  indent : PyText
  repo : PyText
  /-- The tag or digest, with its sign. -/
  suffix : PyText
  deriving DecidableEq

namespace ImageLine

/-- The full reference. -/
def ref (l : ImageLine) : PyText := l.repo ++ l.suffix

end ImageLine

/-- `_IMAGE_LINE_RE.match`. -/
def imageLine (body : PyText) : Option ImageLine :=
  match rest? "image:".toList (body.dropWhile isSpace) with
  | none => none
  | some value =>
    match rest? "greffon/".toList (value.dropWhile isSpace) with
    | none => none
    | some named =>
      if named.takeWhile isNameChar = [] then none
      else (refSuffix (named.dropWhile isNameChar)).map fun suffix =>
        { indent := body.takeWhile isSpace ++ "image:".toList ++ value.takeWhile isSpace
          repo := "greffon/".toList ++ named.takeWhile isNameChar
          suffix := suffix }

/-- `line.rstrip("\n")`. -/
def withoutNewline (line : PyText) : PyText := (line.reverse.dropWhile (· == '\n')).reverse

/-- The newline that a rewritten line ends with. -/
def newlineOf (line : PyText) : PyText := if line.getLast? = some '\n' then ['\n'] else []

/-- The repository and the old reference of a line, if it is an image line. -/
def lineRef (line : PyText) : Option (PyText × PyText) :=
  (imageLine (withoutNewline line)).map fun l =>
    (l.repo, pyStrip ((pyStrip line).drop "image:".toList.length))

/-- What becomes of a line. -/
def rewriteLine (resolve : PyText → PyText → Option PyText) (line : PyText) : PyText :=
  match imageLine (withoutNewline line) with
  | none => line
  | some l =>
    match resolve l.repo (pyStrip ((pyStrip line).drop "image:".toList.length)) with
    | none => line
    | some new => l.indent ++ new ++ newlineOf line

/-! ## The text -/

/-- The image references of a compose file, in their order, each with its repository. -/
def imageRefs (text : PyText) : List (PyText × PyText) := (keptLines text).filterMap lineRef

/-- A dictionary from repositories to references. -/
abbrev Refs : Type := List (PyText × PyText)

/-- The dictionary of the references, the later entries first: the last reference of a repository
stands. -/
def refsByRepo (refs : List (PyText × PyText)) : Refs := refs.reverse

/-- `_rewrite_image_lines`. -/
def rewriteImageLines (text : PyText) (resolve : PyText → PyText → Option PyText) : PyText × Refs :=
  ((keptLines text).flatMap (rewriteLine resolve), refsByRepo (imageRefs text))

/-- The text that `set_image_tag` writes. -/
def retagText (target : String) (text : PyText) : PyText :=
  (rewriteImageLines text fun repo _ => some (repo ++ ':' :: target.toList)).1

/-- What `set_image_tag` returns. -/
def capturedRefs (text : PyText) : Refs := refsByRepo (imageRefs text)

/-- The text that `set_image_refs` writes. -/
def putBack (refs : Refs) (text : PyText) : PyText :=
  (rewriteImageLines text fun repo _ => refs.lookup repo).1

/-! ## Blanks and prefixes -/

section Characters

theorem isSpace_of_isLineBreak {c : Char} (h : isLineBreak c = true) : isSpace c = true := by
  unfold isSpace
  simp [h]

theorem not_isSpace_of_visible {c : Char} (h : '!' ≤ c) (h' : c ≤ '~') : isSpace c = false := by
  have hlow : 33 ≤ c.toNat := h
  have hhigh : c.toNat ≤ 126 := h'
  have hne (d : Char) (hd : d.toNat < 33 ∨ 126 < d.toNat) : (c == d) = false := by
    rw [beq_eq_false_iff_ne]
    rintro rfl
    omega
  have hle : ('\u2000' ≤ c) = False := by
    refine eq_false fun hle => ?_
    have hwide : 8192 ≤ c.toNat := hle
    omega
  unfold isSpace isLineBreak
  simp [hne, hle]

theorem visible_of_isAlphanum {c : Char} (h : c.isAlphanum = true) : '!' ≤ c ∧ c ≤ '~' := by
  delta Char.isAlphanum Char.isAlpha Char.isUpper Char.isLower Char.isDigit at h
  simp only [ge_iff_le, Bool.or_eq_true, Bool.and_eq_true, decide_eq_true_eq] at h
  constructor
  · show (33 : UInt32) ≤ c.val
    rcases h with (h | h) | h
    · exact UInt32.le_trans (by decide) h.1
    · exact UInt32.le_trans (by decide) h.1
    · exact UInt32.le_trans (by decide) h.1
  · show c.val ≤ (126 : UInt32)
    rcases h with (h | h) | h
    · exact UInt32.le_trans h.2 (by decide)
    · exact UInt32.le_trans h.2 (by decide)
    · exact UInt32.le_trans h.2 (by decide)

theorem isSpace_of_isNameChar {c : Char} (h : isNameChar c = true) : isSpace c = false := by
  simp only [isNameChar, Bool.or_eq_true, beq_iff_eq] at h
  rcases h with ((h | rfl) | rfl) | rfl
  · exact not_isSpace_of_visible (visible_of_isAlphanum h).1 (visible_of_isAlphanum h).2
  · decide
  · decide
  · decide

theorem isSpace_of_isHexChar {c : Char} (h : isHexChar c = true) : isSpace c = false := by
  simp only [isHexChar, Char.isDigit, Bool.or_eq_true, Bool.and_eq_true, decide_eq_true_eq] at h
  rcases h with (h | h) | h
  · exact not_isSpace_of_visible (UInt32.le_trans (by decide) h.1)
      (UInt32.le_trans h.2 (by decide))
  · exact not_isSpace_of_visible (UInt32.le_trans (by decide) h.1)
      (UInt32.le_trans h.2 (by decide))
  · exact not_isSpace_of_visible (UInt32.le_trans (by decide) h.1)
      (UInt32.le_trans h.2 (by decide))

theorem isSpace_of_isTagChar {c : Char} (h : isTagChar c = true) : isSpace c = false := by
  unfold isTagChar at h
  rw [Bool.and_eq_true, Bool.not_eq_true'] at h
  exact h.1

end Characters

theorem rest?_append (start rest : PyText) : rest? start (start ++ rest) = some rest := by
  unfold rest?
  rw [if_pos (List.isPrefixOf_iff_prefix.mpr (List.prefix_append _ _)), List.drop_left]

theorem rest?_eq_some {start text rest : PyText} (h : rest? start text = some rest) :
    text = start ++ rest := by
  unfold rest? at h
  split at h
  case isTrue hprefix =>
    obtain ⟨t, rfl⟩ := List.isPrefixOf_iff_prefix.mp hprefix
    rw [List.drop_left] at h
    rw [Option.some.inj h]
  case isFalse => cases h

/-- A run of characters of one kind ends where another kind begins. -/
theorem takeWhile_append_stop {p : Char → Bool} {run : PyText} (rest : PyText)
    (hrun : ∀ c ∈ run, p c = true) (hrest : ∀ c ∈ rest.head?, p c = false) :
    (run ++ rest).takeWhile p = run ∧ (run ++ rest).dropWhile p = rest := by
  rw [List.takeWhile_append_of_pos hrun, List.dropWhile_append_of_pos hrun]
  cases rest with
  | nil => simp
  | cons c rest =>
    have hc := hrest c rfl
    simp [hc]

theorem dropWhile_blanks {blanks rest : PyText} (hblanks : ∀ c ∈ blanks, isSpace c = true)
    (hrest : ∀ c ∈ rest.head?, isSpace c = false) : (blanks ++ rest).dropWhile isSpace = rest :=
  (takeWhile_append_stop _ hblanks hrest).2

theorem pyStrip_append {before core : PyText} (after : PyText)
    (hbefore : ∀ c ∈ before, isSpace c = true)
    (hafter : ∀ c ∈ after, isSpace c = true) (hfirst : ∀ c ∈ core.head?, isSpace c = false)
    (hlast : ∀ c ∈ core.getLast?, isSpace c = false) (hne : core ≠ []) :
    pyStrip (before ++ core ++ after) = core := by
  have hhead : ∀ c ∈ (core ++ after).head?, isSpace c = false := by
    intro c hc
    rw [List.head?_append_of_ne_nil _ hne] at hc
    exact hfirst c hc
  unfold pyStrip
  rw [List.append_assoc, dropWhile_blanks hbefore hhead, List.reverse_append,
    dropWhile_blanks (fun c hc => hafter c (List.mem_reverse.mp hc)), List.reverse_reverse]
  intro c hc
  rw [List.head?_reverse] at hc
  exact hlast c hc

end Greffer.Cli

import Greffer.Compose.IntegrationStrip

/-! # What the preflight warns of

The preflight of a custom compose warns of the values that the strip would take although they
refer to no integration: it takes the expressions out of a value (`stripExpressions`)
and searches what is left for a mention.  The strip searches the value as it stands.

**The two agree unless the cut shows**: taking the expressions out joins the pieces of
literal text, and a mention that begins before a seam can be completed past it (`Made`), or lose
at a seam the boundary before it, so that it is no longer among those that show (`Shown`).  A
mention that an expression quotes is seen by the strip alone.
-/
namespace Greffer.Compose

/-- The rounds of the loop of `_strip_expressions`: the literal text before each expression,
with the expression, and the tail. -/
def expressionsFrom : Nat → List Char → List (List Char × List Char) × List Char
  | 0, text => ([], text)
  | fuel + 1, text =>
    match cut openBraces text with
    | none => ([], text)
    | some (before, body) =>
      match cut closeBraces body with
      | none => ([], text)
      | some (inside, after) =>
        ((before, inside) :: (expressionsFrom fuel after).1, (expressionsFrom fuel after).2)

/-- The literal pieces and the expressions of a text. -/
def expressionsOf (text : List Char) : List (List Char × List Char) × List Char :=
  expressionsFrom text.length text

/-- `_strip_expressions`. -/
def stripExpressions (text : List Char) : List Char :=
  ((expressionsOf text).1.flatMap Prod.fst) ++ (expressionsOf text).2

/-- A row of `_strip_warnings`. -/
def stripWarning (service : Yaml) (key type : String) : PreflightRow :=
  ⟨some service, .str key, "this value's literal text mentions '" ++ type ++
    "' outside its template expression; the unset-integration env strip deletes the whole " ++
    "key when no " ++ type ++ " integration is selected"⟩

/-- `_env_items`, at one entry. -/
def EnvEntry.read : EnvEntry → Except Exn (Option (String × Yaml))
  | .pair key value => key.text.map fun key => some (key, value)
  | .item (.str s) =>
    match partition '=' s with
    | (name, true, value) => .ok (some (stripBlanks name, .str value))
    | _ => .ok none
  | .item _ => .ok none

/-- The types that `_strip_warnings` names at a value. -/
def warnedTypes (w : WordClass) : Yaml → List String
  | .str s =>
    if occurs openBraces s.toList then
      knownIntegrationTypes.filter fun t => mentions w t (stripExpressions s.toList)
    else []
  | _ => []

/-- `_strip_warnings`, at one entry. -/
def entryWarnings (w : WordClass) (p : Yaml × EnvEntry) : Except Exn (List PreflightRow) := do
  match ← p.2.read with
  | some (key, value) => return (warnedTypes w value).map (stripWarning p.1 key)
  | none => return []

/-- `_strip_warnings`. -/
def stripWarnings (w : WordClass) (compose : Yaml) : Except Exn (List PreflightRow) := do
  let rows ← (environmentEntries compose).mapM (entryWarnings w)
  return rows.flatten

/-! ## Cutting a text -/

theorem cut_some {sub text before after : List Char} (h : cut sub text = some (before, after)) :
    text = before ++ sub ++ after := by
  induction text generalizing before with
  | nil =>
    rw [cut] at h
    split at h
    · rename_i hempty
      cases h
      rw [List.isEmpty_iff.mp hempty]
      rfl
    · cases h
  | cons c rest ih =>
    rw [cut] at h
    split at h
    · rename_i hprefix
      cases h
      obtain ⟨tail, htail⟩ := List.isPrefixOf_iff_prefix.mp hprefix
      rw [← htail, List.nil_append, List.drop_left]
    · cases hcut : cut sub rest with
      | none =>
        rw [hcut] at h
        cases h
      | some p =>
        obtain ⟨b, a⟩ := p
        rw [hcut] at h
        cases h
        rw [ih hcut]
        rfl

/-- The text, put together again. -/
def rejoin (parts : List (List Char × List Char) × List Char) : List Char :=
  parts.1.flatMap (fun p => p.1 ++ openBraces ++ p.2 ++ closeBraces) ++ parts.2

theorem rejoin_expressionsFrom (fuel : Nat) (text : List Char) :
    rejoin (expressionsFrom fuel text) = text := by
  induction fuel generalizing text with
  | zero => rfl
  | succ fuel ih =>
    rw [expressionsFrom]
    split
    · rfl
    · rename_i before body hopen
      split
      · rfl
      · rename_i inside after hclose
        have hrest := ih after
        rw [rejoin] at hrest
        rw [cut_some hopen, cut_some hclose, rejoin, List.flatMap_cons, List.append_assoc, hrest]
        simp only [List.append_assoc]

/-- The loop does not run out of rounds: one for each character is more than enough. -/
theorem expressionsFrom_enough (fuel : Nat) (text : List Char) (h : text.length ≤ fuel) :
    expressionsFrom (fuel + 1) text = expressionsFrom fuel text := by
  induction fuel generalizing text with
  | zero =>
    rw [List.length_eq_zero_iff.mp (Nat.le_zero.mp h)]
    rfl
  | succ fuel ih =>
    rw [expressionsFrom, expressionsFrom]
    cases hopen : cut openBraces text with
    | none => rfl
    | some p =>
      obtain ⟨before, body⟩ := p
      simp only
      cases hclose : cut closeBraces body with
      | none => rfl
      | some q =>
        obtain ⟨inside, after⟩ := q
        have hlength : after.length ≤ fuel := by
          have hone := congrArg List.length (cut_some hopen)
          have htwo := congrArg List.length (cut_some hclose)
          simp only [List.length_append, openBraces, closeBraces, List.length_cons,
            List.length_nil] at hone htwo
          omega
        simp only [ih after hlength]

/-! ## Searching a text in pieces -/

section Search
variable {w : WordClass} {name : List Char}

/-- A character that ends every search: it is no part of the name, it is no word, and it
does not follow a name. -/
structure Ends (w : WordClass) (name : List Char) (c : Char) : Prop where
  fresh : c ∉ name
  word : w.isWord c = false
  noAccess : c ≠ '.' ∧ c ≠ '['

theorem memberFollows_other {x : Char} (hdot : x ≠ '.') (hbracket : x ≠ '[') (rest : List Char) :
    memberFollows w (x :: rest) = false := by
  unfold memberFollows
  split
  · rename_i heq
    exact absurd (List.cons.inj heq).1 hdot
  · rename_i heq
    exact absurd (List.cons.inj heq).1 hbracket
  · rfl

theorem memberFollows_append {c : Char} (hc : Ends w name c) (a b : List Char) :
    memberFollows w (a ++ c :: b) = memberFollows w a := by
  cases a with
  | nil => exact memberFollows_other hc.noAccess.1 hc.noAccess.2 b
  | cons x rest =>
    rw [List.cons_append]
    by_cases hdot : x = '.'
    · subst hdot
      cases rest with
      | nil => exact hc.word
      | cons y tail => rfl
    · by_cases hbracket : x = '['
      · subst hbracket
        rfl
      · rw [memberFollows_other hdot hbracket, memberFollows_other hdot hbracket]

/-- A name that is not over before a character that it does not have is not there. -/
theorem isPrefixOf_append {c : Char} (hc : c ∉ name) (a b : List Char) :
    name.isPrefixOf (a ++ c :: b) = name.isPrefixOf a := by
  rw [Bool.eq_iff_iff, List.isPrefixOf_iff_prefix, List.isPrefixOf_iff_prefix]
  constructor
  · intro h
    rcases Nat.le_total name.length a.length with hle | hle
    · exact List.prefix_of_prefix_length_le h (List.prefix_append _ _) hle
    · obtain ⟨tail, rfl⟩ := List.prefix_of_prefix_length_le (List.prefix_append _ _) h hle
      cases tail with
      | nil => exact ⟨[], by simp⟩
      | cons x tail =>
        obtain ⟨rfl, -⟩ := List.cons_prefix_cons.mp ((List.prefix_append_right_inj a).mp h)
        exact absurd (List.mem_append_right a List.mem_cons_self) hc
  · exact fun h => h.trans (List.prefix_append _ _)

theorem mentionHere_append {c : Char} (hc : Ends w name c) (a b : List Char) :
    mentionHere w name (a ++ c :: b) = mentionHere w name a := by
  rw [mentionHere, mentionHere, isPrefixOf_append hc.fresh]
  cases h : name.isPrefixOf a with
  | false => rfl
  | true =>
    obtain ⟨tail, rfl⟩ := List.isPrefixOf_iff_prefix.mp h
    rw [List.append_assoc, List.drop_left, List.drop_left, memberFollows_append hc]

/-- **A search stops at such a character**, and starts again past it. -/
theorem mentionsFrom_append {c : Char} (hc : Ends w name c) (before : Option Char)
    (a b : List Char) :
    mentionsFrom w name before (a ++ c :: b) =
      (mentionsFrom w name before a || mentionsFrom w name (some c) b) := by
  induction a generalizing before with
  | nil =>
    have hhere : mentionHere w name (c :: b) = false := by
      rw [← List.nil_append (c :: b), mentionHere_append hc, mentionHere, List.drop_nil]
      exact Bool.and_false _
    rw [List.nil_append, mentionsFrom.eq_def]
    simp only [hhere, Bool.and_false, mentionsFrom]
  | cons x rest ih =>
    rw [List.cons_append, mentionsFrom, mentionsFrom, ih (some x), ← List.cons_append,
      mentionHere_append hc, Bool.or_assoc]

/-- What is before the text does not count unless it is a word. -/
theorem mentionsFrom_past {c : Char} (hc : w.isWord c = false) (text : List Char) :
    mentionsFrom w name (some c) text = mentionsFrom w name none text := by
  cases text with
  | nil => rfl
  | cons x rest => simp [mentionsFrom, boundary, hc]

theorem ends_brace {type : String} (ht : type ∈ knownIntegrationTypes) {c : Char}
    (hc : c = '{' ∨ c = '}') : Ends w type.toList c := by
  have hword : w.isWord c = false := by
    rcases hc with rfl | rfl <;> exact w.ascii _ (by decide)
  rw [knownIntegrationTypes, List.mem_cons, List.mem_singleton] at ht
  rcases hc with rfl | rfl <;> rcases ht with rfl | rfl <;>
    exact ⟨by decide, hword, by decide, by decide⟩

/-- A mention in one of the literal pieces. -/
def someMention (w : WordClass) (type : String) (parts : List (List Char × List Char) × List Char) :
    Bool :=
  (parts.1.any fun p => mentions w type p.1) || mentions w type parts.2

/-- **The strip sees the pieces and the expressions one by one.** -/
theorem mentions_rejoin {type : String} (ht : type ∈ knownIntegrationTypes)
    (parts : List (List Char × List Char) × List Char) :
    mentions w type (rejoin parts) =
      (someMention w type parts || parts.1.any fun p => mentions w type p.2) := by
  obtain ⟨pairs, tail⟩ := parts
  have hopen : Ends w type.toList '{' := ends_brace ht (.inl rfl)
  have hclose : Ends w type.toList '}' := ends_brace ht (.inr rfl)
  simp only [mentions, someMention, rejoin]
  induction pairs with
  | nil => simp
  | cons p rest ih =>
    obtain ⟨before, inside⟩ := p
    have hshape : before ++ openBraces ++ inside ++ closeBraces ++
        (rest.flatMap (fun p => p.1 ++ openBraces ++ p.2 ++ closeBraces) ++ tail) =
        before ++ '{' :: ([] ++ '{' :: (inside ++ '}' :: ([] ++ '}' ::
          (rest.flatMap (fun p => p.1 ++ openBraces ++ p.2 ++ closeBraces) ++ tail)))) := by
      simp [openBraces, closeBraces]
    rw [List.flatMap_cons, List.append_assoc, hshape, mentionsFrom_append hopen,
      mentionsFrom_append hopen, mentionsFrom_append hclose, mentionsFrom_append hclose]
    simp only [mentionsFrom_past hopen.word, mentionsFrom_past hclose.word, ih, List.any_cons]
    simp only [mentionsFrom, Bool.false_or, Bool.or_assoc, Bool.or_left_comm]

/-! ### Pieces that are joined -/

/-- A mention stays one when text comes after it. -/
theorem memberFollows_extend {a : List Char} (h : memberFollows w a = true) (b : List Char) :
    memberFollows w (a ++ b) = true := by
  cases a with
  | nil => cases h
  | cons x rest =>
    by_cases hdot : x = '.'
    · subst hdot
      cases rest with
      | nil => cases h
      | cons y tail => exact h
    · by_cases hbracket : x = '['
      · subst hbracket
        rfl
      · rw [memberFollows_other hdot hbracket] at h
        cases h

theorem mentionHere_extend {a : List Char} (h : mentionHere w name a = true) (b : List Char) :
    mentionHere w name (a ++ b) = true := by
  rw [mentionHere, Bool.and_eq_true] at h
  obtain ⟨hname, hmember⟩ := h
  obtain ⟨tail, rfl⟩ := List.isPrefixOf_iff_prefix.mp hname
  rw [List.drop_left] at hmember
  rw [mentionHere, List.append_assoc, List.drop_left, memberFollows_extend hmember b, Bool.and_true,
    List.isPrefixOf_iff_prefix]
  exact List.prefix_append _ _

variable (w name)

/-- A mention that begins in the text, past the character `before`, and is complete only with what
is to the right of it. -/
def completedFrom (right : List Char) : Option Char → List Char → Bool
  | _, [] => false
  | before, c :: rest =>
    (boundary w before c && !mentionHere w name (c :: rest) &&
      mentionHere w name (c :: rest ++ right)) || completedFrom right (some c) rest

/-- A mention within one of the pieces, where the boundary is that to the end of the piece before. -/
def shownFrom : Option Char → List (List Char) → Bool
  | _, [] => false
  | before, piece :: rest =>
    mentionsFrom w name before piece || shownFrom (piece.getLast?.or before) rest

/-- A mention that begins in one of the pieces and is complete only past its end. -/
def madeFrom : Option Char → List (List Char) → Bool
  | _, [] => false
  | before, piece :: rest =>
    completedFrom w name rest.flatten before piece || madeFrom (piece.getLast?.or before) rest

variable {w name}

/-- A search through two texts, one after the other. -/
theorem mentionsFrom_join (before : Option Char) (a b : List Char) :
    mentionsFrom w name before (a ++ b) =
      ((mentionsFrom w name before a || completedFrom w name b before a) ||
        mentionsFrom w name (a.getLast?.or before) b) := by
  induction a generalizing before with
  | nil => rfl
  | cons c rest ih =>
    have hlast : ((c :: rest).getLast?.or before) = rest.getLast?.or (some c) := by
      cases rest with
      | nil => rfl
      | cons x tail => simp [List.getLast?_cons]
    rw [hlast, List.cons_append, mentionsFrom, mentionsFrom, completedFrom, ih (some c),
      ← List.cons_append]
    by_cases hhere : mentionHere w name (c :: rest) = true
    · rw [mentionHere_extend hhere b, hhere]
      simp [Bool.or_assoc]
    · rw [Bool.not_eq_true] at hhere
      rw [hhere]
      simp [Bool.or_assoc, Bool.or_left_comm]

/-- **A mention in the joined text** shows in a piece, or is made at a seam. -/
theorem mentionsFrom_flatten (before : Option Char) (pieces : List (List Char)) :
    mentionsFrom w name before pieces.flatten =
      (shownFrom w name before pieces || madeFrom w name before pieces) := by
  induction pieces generalizing before with
  | nil => rfl
  | cons piece rest ih =>
    rw [List.flatten_cons, mentionsFrom_join, ih, shownFrom, madeFrom]
    simp only [Bool.or_assoc, Bool.or_left_comm]

/-- What shows behind another piece is a mention of its piece alone: a name begins with a word. -/
theorem mentionsFrom_alone {c : Char} (hname : name.head?.any w.isWord = true)
    {text : List Char} (h : mentionsFrom w name (some c) text = true) :
    mentionsFrom w name none text = true := by
  cases text with
  | nil => cases h
  | cons x rest =>
    rw [mentionsFrom, Bool.or_eq_true] at h ⊢
    refine h.imp_left fun hfirst => ?_
    rw [Bool.and_eq_true] at hfirst ⊢
    obtain ⟨hboundary, hhere⟩ := hfirst
    refine ⟨?_, hhere⟩
    cases name with
    | nil => cases hname
    | cons y tail =>
      rw [mentionHere, Bool.and_eq_true] at hhere
      obtain ⟨rfl, -⟩ := List.cons_prefix_cons.mp (List.isPrefixOf_iff_prefix.mp hhere.1)
      have hword : w.isWord y = true := hname
      simp [boundary, hword]

theorem shownFrom_any (hname : name.head?.any w.isWord = true) (before : Option Char)
    (pieces : List (List Char)) (h : shownFrom w name before pieces = true) :
    (pieces.any fun piece => mentionsFrom w name none piece) = true := by
  induction pieces generalizing before with
  | nil => cases h
  | cons piece rest ih =>
    rw [shownFrom, Bool.or_eq_true] at h
    rw [List.any_cons, Bool.or_eq_true]
    refine h.imp ?_ (ih _)
    intro hpiece
    cases before with
    | none => exact hpiece
    | some c => exact mentionsFrom_alone hname hpiece

theorem head_isWord {type : String} (ht : type ∈ knownIntegrationTypes) :
    type.toList.head?.any w.isWord = true := by
  rw [knownIntegrationTypes, List.mem_cons, List.mem_singleton] at ht
  rcases ht with rfl | rfl <;> exact w.ascii _ (by decide)

end Search

/-! ## The agreement -/

/-- The pieces of literal text: before, between and behind the expressions. -/
def literalPieces (text : List Char) : List (List Char) :=
  (expressionsOf text).1.map Prod.fst ++ [(expressionsOf text).2]

theorem flatten_literalPieces (text : List Char) :
    (literalPieces text).flatten = stripExpressions text := by
  rw [literalPieces, List.flatten_append, List.flatten_singleton, stripExpressions, List.flatMap]

/-- The text of an expression outside its quotes; a quoted part leaves a blank. -/
def unquotedFrom : Option Char → List Char → List Char
  | _, [] => []
  | none, c :: rest =>
    if c = '\'' ∨ c = '"' then ' ' :: unquotedFrom (some c) rest else c :: unquotedFrom none rest
  | some quote, c :: rest =>
    if c = '\\' then
      match rest with
      | [] => []
      | _ :: rest => unquotedFrom (some quote) rest
    else if c = quote then unquotedFrom none rest
    else unquotedFrom (some quote) rest

/-- Whether the name occurs as a word, past the character `before`. -/
def namesFrom (w : WordClass) (name : List Char) : Option Char → List Char → Bool
  | _, [] => false
  | before, c :: rest =>
    boundary w before c && name.isPrefixOf (c :: rest) &&
      !((c :: rest).drop name.length).head?.any w.isWord || namesFrom w name (some c) rest

/-- Whether an expression of the text refers to an integration type. -/
def refersToIntegration (w : WordClass) (text : List Char) : Bool :=
  (expressionsOf text).1.any fun p =>
    knownIntegrationTypes.any fun t => namesFrom w t.toList none (unquotedFrom none p.2)

/-- Whether the preflight warns that an entry would be stripped for a type. -/
def Warned (w : WordClass) (type : String) (p : Yaml × EnvEntry) : Prop :=
  ∃ rows key, entryWarnings w p = .ok rows ∧ stripWarning p.1 key type ∈ rows

/-- A piece of literal text, or a text inside an expression, mentions the type by itself. -/
def Mentioned (w : WordClass) (type : String) (text : List Char) : Prop :=
  (∃ piece ∈ literalPieces text, mentions w type piece = true) ∨
    ∃ p ∈ (expressionsOf text).1, mentions w type p.2 = true

/-- A piece mentions the type, and the end of the text before does not hide it. -/
def Shown (w : WordClass) (type : String) (text : List Char) : Prop :=
  shownFrom w type.toList none (literalPieces text) = true

/-- A mention of the type begins in a piece and is complete only past the seam at its end. -/
def Made (w : WordClass) (type : String) (text : List Char) : Prop :=
  madeFrom w type.toList none (literalPieces text) = true

/-- **The seams do not show**: a mention that a seam makes is not the only one, and of the mentions
there are without the seams, not all are hidden by them or in an expression, unless a seam makes
one. -/
structure SeamsQuiet (w : WordClass) (type : String) (text : List Char) : Prop where
  made : Made w type text → Mentioned w type text
  hidden : Mentioned w type text → Shown w type text ∨ Made w type text

/-- Without an expression there is nothing to compare. -/
def Seamless (w : WordClass) (type : String) (text : List Char) : Prop :=
  occurs openBraces text = true → SeamsQuiet w type text

theorem Shown.mentioned {w : WordClass} {type : String} (ht : type ∈ knownIntegrationTypes)
    {text : List Char} (h : Shown w type text) : Mentioned w type text := by
  have hany := shownFrom_any (head_isWord ht) none (literalPieces text) h
  exact .inl (List.any_eq_true.mp hany)

/-- What the preflight and the strip search, by the pieces and their seams. -/
theorem seamsQuiet_iff {w : WordClass} {type : String} (ht : type ∈ knownIntegrationTypes)
    (text : List Char) : SeamsQuiet w type text ↔
      (mentions w type (stripExpressions text) = true ↔ mentions w type text = true) := by
  have hjoined : mentions w type (stripExpressions text) = true ↔
      Shown w type text ∨ Made w type text := by
    rw [← flatten_literalPieces, mentions, mentionsFrom_flatten, Bool.or_eq_true]
    rfl
  have hwhole : mentions w type text = true ↔ Mentioned w type text := by
    have hpieces := mentions_rejoin (w := w) ht (expressionsOf text)
    rw [expressionsOf, rejoin_expressionsFrom] at hpieces
    rw [hpieces, Bool.or_eq_true, Mentioned, List.any_eq_true, literalPieces]
    refine or_congr_left ?_
    rw [someMention, Bool.or_eq_true, List.any_eq_true]
    simp only [List.mem_append, List.mem_map, List.mem_singleton]
    constructor
    · rintro (⟨p, hp, hmention⟩ | htail)
      · exact ⟨p.1, .inl ⟨p, hp, rfl⟩, hmention⟩
      · exact ⟨_, .inr rfl, htail⟩
    · rintro ⟨piece, ⟨p, hp, rfl⟩ | rfl, hmention⟩
      · exact .inl ⟨p, hp, hmention⟩
      · exact .inr hmention
  rw [hjoined, hwhole]
  constructor
  · rintro ⟨hmade, hhidden⟩
    exact ⟨fun h => h.elim (Shown.mentioned ht) hmade, hhidden⟩
  · intro h
    exact ⟨fun hmade => h.mp (.inr hmade), h.mpr⟩

theorem stripWarning_inj {service : Yaml} {key key' t u : String} (ht : t ∈ knownIntegrationTypes)
    (hu : u ∈ knownIntegrationTypes) (h : stripWarning service key t = stripWarning service key' u) :
    t = u := by
  have hmessage := congrArg PreflightRow.message h
  simp only [stripWarning] at hmessage
  rw [knownIntegrationTypes, List.mem_cons, List.mem_singleton] at ht hu
  rcases ht with rfl | rfl <;> rcases hu with rfl | rfl
  · rfl
  · exact absurd hmessage (by decide +kernel)
  · exact absurd hmessage (by decide +kernel)
  · rfl

theorem read_ok {e : EnvEntry} {read : Option (String × Yaml)} (h : e.read = .ok read) :
    e.value? = read.map Prod.snd := by
  cases e with
  | pair key value =>
    obtain ⟨text, -, rfl⟩ := map_ok_iff.mp h
    rfl
  | item v =>
    cases v with
    | str s =>
      rw [EnvEntry.read] at h
      rw [EnvEntry.value?]
      generalize partition '=' s = parts at h ⊢
      obtain ⟨name, found, value⟩ := parts
      cases found <;> cases h <;> rfl
    | _ =>
      cases h
      rfl

/-- When the preflight warns of an entry that it can read. -/
theorem warned_iff {w : WordClass} {type : String} (ht : type ∈ knownIntegrationTypes)
    {p : Yaml × EnvEntry} {rows : List PreflightRow} (h : entryWarnings w p = .ok rows) :
    Warned w type p ↔ occurs openBraces p.2.text = true ∧
      mentions w type (stripExpressions p.2.text) = true := by
  have hrows : Warned w type p ↔ ∃ key, stripWarning p.1 key type ∈ rows := by
    constructor
    · rintro ⟨rows', key, h', hmem⟩
      cases h.symm.trans h'
      exact ⟨key, hmem⟩
    · rintro ⟨key, hmem⟩
      exact ⟨rows, key, h, hmem⟩
  rw [hrows]
  obtain ⟨read, hread, h⟩ := bind_ok_iff.mp h
  have hvalue := read_ok hread
  cases read with
  | none =>
    cases h
    simp [EnvEntry.text, hvalue, occurs, cut, openBraces]
  | some kv =>
    obtain ⟨key, value⟩ := kv
    cases h
    have htypes : (∃ key', stripWarning p.1 key' type ∈
        (warnedTypes w value).map (stripWarning p.1 key)) ↔ type ∈ warnedTypes w value := by
      constructor
      · rintro ⟨key', hmem⟩
        obtain ⟨u, hu, heq⟩ := List.mem_map.mp hmem
        have hknown : u ∈ knownIntegrationTypes := by
          cases value with
          | str s =>
            simp only [warnedTypes] at hu
            split at hu
            · exact (List.mem_filter.mp hu).1
            · cases hu
          | _ => cases hu
        rwa [stripWarning_inj ht hknown heq.symm]
      · exact fun hmem => ⟨key, List.mem_map_of_mem hmem⟩
    rw [htypes, EnvEntry.text, hvalue]
    cases value with
    | str s =>
      simp only [warnedTypes, Option.map_some]
      split
      · rename_i hbraces
        simp [List.mem_filter, ht, hbraces]
      · rename_i hbraces
        simp [hbraces]
    | _ => simp [warnedTypes, occurs, cut, openBraces]

theorem exists_ok_of_mapM {ε α β : Type} {f : α → Except ε β} {as : List α} {bs : List β} {a : α}
    (h : as.mapM f = .ok bs) (ha : a ∈ as) : ∃ b, f a = .ok b := by
  rw [mapM_ok_iff] at h
  induction h with
  | nil => cases ha
  | cons hb _ ih =>
    rcases List.mem_cons.mp ha with rfl | ha
    · exact ⟨_, hb⟩
    · exact ih ha

theorem mem_unsetTypes {integrations : Entries} {t : String} (h : t ∈ unsetTypes integrations) :
    t ∈ knownIntegrationTypes :=
  (List.mem_filter.mp h).1

/-- **When the warnings predict the strip**, of the entries whose expressions refer to no
integration: exactly when the seams of their values do not show. -/
theorem strip_predicted_iff {w : WordClass} {objects : Objects} {compose compose' : Yaml}
    {integrations : Entries} {configurations : List Configuration} {type : String}
    {rows : List PreflightRow}
    (hunset : unsetTypes integrations = [type])
    (hplain : ∀ d ∈ allDestinations configurations, ∀ t ∈ knownIntegrationTypes,
      fieldOf d "type" ≠ .str t)
    (hstrip : deleteUnsetIntegrationEnvKeys w objects compose integrations configurations =
      .ok compose')
    (hwarn : stripWarnings w compose = .ok rows) :
    (∀ p ∈ environmentEntries compose, refersToIntegration w p.2.text = false →
      (Warned w type p ↔ p ∉ environmentEntries compose')) ↔
    ∀ p ∈ environmentEntries compose, refersToIntegration w p.2.text = false →
      Seamless w type p.2.text := by
  have htype : type ∈ knownIntegrationTypes := mem_unsetTypes (hunset ▸ List.mem_singleton_self type)
  have hpopped : ∀ p : Yaml × EnvEntry,
      poppedUnset objects (servicesIn compose) [type] configurations p.1 p.2 = false := by
    intro p
    simp only [poppedUnset, List.any_cons, List.any_nil, Bool.or_false]
    rw [List.any_eq_false]
    intro d hd hpop
    simp only [poppedBy, isOfType, Bool.and_eq_true] at hpop
    exact hplain d hd type htype ((Yaml.sameKey_str _ _).mp hpop.1.1.1.1)
  have hfilter := strip_ok hstrip
  rw [hunset] at hfilter
  obtain ⟨all, hall, -⟩ := bind_ok_iff.mp hwarn
  refine forall_congr' fun p => forall_congr' fun hp => forall_congr' fun _ => ?_
  obtain ⟨warnings, hrows⟩ := exists_ok_of_mapM hall hp
  have htaken : p ∉ environmentEntries compose' ↔
      occurs openBraces p.2.text = true ∧ mentions w type p.2.text = true := by
    rw [hfilter, List.mem_filter, takes_eq, hpopped p]
    simp [hp]
  rw [warned_iff htype hrows, htaken, and_congr_right_iff, Seamless, seamsQuiet_iff htype]

instance (w : WordClass) (type : String) (text : List Char) : Decidable (Mentioned w type text) :=
  inferInstanceAs (Decidable (_ ∨ _))

instance (w : WordClass) (type : String) (text : List Char) : Decidable (Shown w type text) :=
  inferInstanceAs (Decidable (_ = _))

instance (w : WordClass) (type : String) (text : List Char) : Decidable (Made w type text) :=
  inferInstanceAs (Decidable (_ = _))

instance (w : WordClass) (type : String) (text : List Char) : Decidable (SeamsQuiet w type text) :=
  decidable_of_iff ((Made w type text → Mentioned w type text) ∧
      (Mentioned w type text → Shown w type text ∨ Made w type text))
    ⟨fun h => ⟨h.1, h.2⟩, fun h => ⟨h.made, h.hidden⟩⟩

instance (w : WordClass) (type : String) (text : List Char) : Decidable (Seamless w type text) :=
  inferInstanceAs (Decidable (_ → _))

/-- The integrations of a user without `smtp`. -/
def oidcOnly : Entries := [(.str "oidc", .dict [(.str "issuer", .str "https://id.example")])]

/-- A compose with one entry: a scheme from a variable, and a mail server in plain text. -/
def mailUrl : Yaml :=
  appWithEnvironment (.list [.str "URL=\x7b\x7b scheme \x7d\x7d://smtp.example.com"])

theorem strip_predicted_mail : unsetTypes oidcOnly = ["smtp"] ∧
    ∀ p ∈ environmentEntries mailUrl, refersToIntegration asciiWords p.2.text = false →
    (Warned asciiWords "smtp" p ↔
      p ∉ environmentEntries (appWithEnvironment (.list []))) := by
  have hunset : unsetTypes oidcOnly = ["smtp"] := by decide
  have hplain : ∀ d ∈ allDestinations [], ∀ t ∈ knownIntegrationTypes,
      fieldOf d "type" ≠ .str t := fun _ hd => by cases hd
  have hstrip : deleteUnsetIntegrationEnvKeys asciiWords soleObjects mailUrl oidcOnly [] =
      .ok (appWithEnvironment (.list [])) := rfl
  exact ⟨hunset, (strip_predicted_iff hunset hplain hstrip rfl).mpr (by decide +kernel)⟩

/-- A compose whose one entry has the server's name right behind an expression. -/
def mailUser : Yaml :=
  appWithEnvironment (.list [.str "URL=user\x7b\x7b id \x7d\x7dsmtp.example.com"])

/-- **A seam hides a mention**: the entry is stripped, and no warning says so. -/
theorem seam_hides_mention : ¬ ∀ (w : WordClass) (objects : Objects) (compose compose' : Yaml)
    (integrations : Entries) (configurations : List Configuration) (type : String)
    (rows : List PreflightRow),
    unsetTypes integrations = [type] →
    (∀ d ∈ allDestinations configurations, ∀ t ∈ knownIntegrationTypes,
      fieldOf d "type" ≠ .str t) →
    deleteUnsetIntegrationEnvKeys w objects compose integrations configurations = .ok compose' →
    stripWarnings w compose = .ok rows →
    ∀ p ∈ environmentEntries compose, refersToIntegration w p.2.text = false →
      (Warned w type p ↔ p ∉ environmentEntries compose') := by
  intro hall
  have hentry := hall asciiWords soleObjects mailUser _ oidcOnly [] "smtp" _ (by decide)
    (fun _ h => by cases h) rfl rfl (.str "app",
      .item (.str "URL=user\x7b\x7b id \x7d\x7dsmtp.example.com")) List.mem_cons_self
    (by decide +kernel)
  obtain ⟨rows, key, hrows, hmem⟩ := hentry.mpr (fun hmem => by cases hmem)
  cases hrows
  cases hmem

end Greffer.Compose

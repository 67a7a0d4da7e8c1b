import Mathlib.Data.List.Sort
import Greffer.Cli.ImageLines

/-! # The env file

The CLI keeps the operator's settings, credentials among them, in `env.env`: one line `KEY="value"` for
each.  A value is written with its double quotes escaped, and read as what stands between the outer
ones.  **Nothing takes the escapes off again**, so that a value comes back if and only if it has no
double quote (`round_trip_iff`); blanks, backslashes, `#` and `=` make no difference.
-/
namespace Greffer.Cli.Env

/-! ## The file -/

/-- A character of `[A-Z_]`. -/
def startsKey (c : Char) : Bool := c.isUpper || c == '_'

/-- A character of `[A-Z0-9_]`. -/
def isKeyChar (c : Char) : Bool := startsKey c || c.isDigit

/-- A key, as `[A-Z_][A-Z0-9_]*` has it. -/
def isEnvKey (key : PyText) : Bool :=
  match key with
  | [] => false
  | c :: rest => startsKey c && rest.all isKeyChar

/-- `EnvFile`: a dictionary with such keys. -/
structure EnvFile where
  values : List (String × String)
  distinct : (values.map Prod.fst).Nodup
  keys : ∀ e ∈ values, isEnvKey e.1.toList = true

/-- `"?` at the beginning of a text. -/
def afterQuote : PyText → PyText
  | '"' :: rest => rest
  | text => text

/-- Whether a text is `"?\s*`. -/
def isTrailer (text : PyText) : Bool := (afterQuote text).all isSpace

/-- `(.*?)`, before a `"?\s*$`: as little as leaves such a trailer. -/
def beforeTrailer : PyText → PyText
  | [] => []
  | c :: rest => if isTrailer (c :: rest) then [] else c :: beforeTrailer rest

/-- The groups of a match of `_LINE_RE`, in a line. -/
def lineEntry (line : PyText) : Option (PyText × PyText) :=
  let body := line.dropWhile isSpace
  let key := body.takeWhile isKeyChar
  match (body.dropWhile isKeyChar).dropWhile isSpace with
  | '=' :: value =>
    if isEnvKey key then some (key, beforeTrailer (afterQuote (value.dropWhile isSpace))) else none
  | _ => none

/-- The entry that a line of the file sets. -/
def setBy (line : String) : Option (PyText × PyText) :=
  let stripped := pyStrip line.toList
  if stripped = [] ∨ stripped.head? = some '#' then none else lineEntry stripped

/-- One line of `from_text`. -/
def readEntry (values : List (String × String)) (line : String) : List (String × String) :=
  match setBy line with
  | none => values
  | some (key, value) => upsert values (String.ofList key) (String.ofList value)

/-- The values that `from_text` reads. -/
def parseEnv (text : String) : List (String × String) := (splitlines text).foldl readEntry []

/-- `value.replace('"', '\\"')`. -/
def escapeQuotes (value : PyText) : PyText :=
  value.flatMap fun c => if c = '"' then ['\\', '"'] else [c]

/-- A value, escaped. -/
def escaped (value : String) : String := String.ofList (escapeQuotes value.toList)

/-- The line of an entry. -/
def entryLine (e : String × String) : String := e.1 ++ "=\"" ++ escaped e.2 ++ "\""

namespace EnvFile

/-- The entries, in the order of the keys. -/
def sorted (env : EnvFile) : List (String × String) :=
  env.values.mergeSort fun e e' => decide (e.1 ≤ e'.1)

/-- `to_text`. -/
def toText (env : EnvFile) : String := "\n".intercalate (env.sorted.map entryLine) ++ "\n"

/-- `get`. -/
def get (env : EnvFile) (key : String) : Option String := env.values.lookup key

end EnvFile

/-! ## What is read is an env file -/

section Reading
variable {values : List (String × String)} {line : String}

/-- **What a line sets**: a key of the pattern, and a part of what is behind the equals sign. -/
theorem lineEntry_some {line key value : PyText} (h : lineEntry line = some (key, value)) :
    isEnvKey key = true ∧ ∃ text, '=' :: text <:+ line ∧
      value = beforeTrailer (afterQuote (text.dropWhile isSpace)) := by
  unfold lineEntry at h
  dsimp only at h
  split at h
  case h_2 => cases h
  case h_1 text heq =>
    split at h
    case isFalse => cases h
    case isTrue hkey =>
      cases h
      refine ⟨hkey, text, ?_, rfl⟩
      rw [← heq]
      exact ((List.dropWhile_suffix _).trans (List.dropWhile_suffix _)).trans
        (List.dropWhile_suffix _)

/-- It is read without the blanks around it. -/
theorem lineEntry_of_setBy {e : PyText × PyText} (h : setBy line = some e) :
    lineEntry (pyStrip line.toList) = some e := by
  unfold setBy at h
  dsimp only at h
  split at h
  · cases h
  · exact h

theorem isEnvKey_of_setBy {key value : PyText} (h : setBy line = some (key, value)) :
    isEnvKey key = true := (lineEntry_some (lineEntry_of_setBy h)).1

/-- What holds of every entry that the lines set holds of every entry read. -/
theorem foldl_readEntry {P : String × String → Prop} (lines : List String)
    (hset : ∀ line ∈ lines, ∀ key value, setBy line = some (key, value) →
      P (String.ofList key, String.ofList value)) (hvalues : ∀ e ∈ values, P e) :
    ∀ e ∈ lines.foldl readEntry values, P e := by
  induction lines generalizing values with
  | nil => exact hvalues
  | cons line rest ih =>
    rw [List.foldl_cons]
    refine ih (fun l hl => hset l (List.mem_cons_of_mem _ hl)) fun e he => ?_
    unfold readEntry at he
    split at he
    case h_1 => exact hvalues e he
    case h_2 key value hentry =>
      rcases mem_upsert he with rfl | hold
      · exact hset line List.mem_cons_self key value hentry
      · exact hvalues e hold

theorem nodup_readEntry (lines : List String) (h : (values.map Prod.fst).Nodup) :
    ((lines.foldl readEntry values).map Prod.fst).Nodup := by
  induction lines generalizing values with
  | nil => exact h
  | cons line rest ih =>
    refine ih ?_
    unfold readEntry
    split
    · exact h
    · exact nodup_upsert _ h

end Reading

/-- `EnvFile.from_text`. -/
def EnvFile.fromText (text : String) : EnvFile where
  values := parseEnv text
  distinct := nodup_readEntry _ List.nodup_nil
  keys := foldl_readEntry _ (fun _ _ _ _ h => by
    rw [String.toList_ofList]
    exact isEnvKey_of_setBy h) fun e he => absurd he List.not_mem_nil

/-! ## One line of what is written -/

theorem not_isSpace_of_isKeyChar {c : Char} (h : isKeyChar c = true) : isSpace c = false := by
  have hname : isNameChar c = true := by
    unfold isNameChar Char.isAlphanum Char.isAlpha
    unfold isKeyChar startsKey at h
    revert h
    cases c.isUpper <;> cases c.isLower <;> cases c.isDigit <;> cases c == '_' <;> simp
  exact isSpace_of_isNameChar hname

theorem isEnvKey_iff {key : PyText} : isEnvKey key = true ↔
    ∃ c rest, key = c :: rest ∧ startsKey c = true ∧ ∀ d ∈ key, isKeyChar d = true := by
  cases key with
  | nil => exact iff_of_false Bool.false_ne_true fun ⟨c, rest, h, _⟩ => by cases h
  | cons c rest =>
    rw [isEnvKey, Bool.and_eq_true, List.all_eq_true]
    constructor
    · rintro ⟨hc, hrest⟩
      refine ⟨c, rest, rfl, hc, List.forall_mem_cons.mpr ⟨?_, hrest⟩⟩
      rw [isKeyChar, hc, Bool.true_or]
    · rintro ⟨c', rest', heq, hc, hall⟩
      cases heq
      exact ⟨hc, (List.forall_mem_cons.mp hall).2⟩

/-- Nothing but the last quote is a trailer. -/
theorem beforeTrailer_append (value : PyText) : beforeTrailer (value ++ ['"']) = value := by
  induction value with
  | nil =>
    have htrailer : isTrailer ['"'] = true := by decide
    rw [List.nil_append, beforeTrailer, if_pos htrailer]
  | cons c rest ih =>
    have hquote : isSpace '"' = false := by decide
    have htrailer : isTrailer (c :: (rest ++ ['"'])) = false := by
      unfold isTrailer
      rw [List.all_eq_false]
      refine ⟨'"', ?_, by simp [hquote]⟩
      unfold afterQuote
      split
      case h_1 heq =>
        cases heq
        exact List.mem_append_right _ List.mem_cons_self
      case h_2 => exact List.mem_cons_of_mem _ (List.mem_append_right _ List.mem_cons_self)
    rw [List.cons_append, beforeTrailer, htrailer, if_neg Bool.false_ne_true, ih]

/-- **A line is read** as its key and what stands between the outer quotes. -/
theorem lineEntry_written {key : PyText} (hkey : isEnvKey key = true) (value : PyText) :
    lineEntry (key ++ '=' :: '"' :: (value ++ ['"'])) = some (key, value) := by
  obtain ⟨c, rest, rfl, hstart, hchars⟩ := isEnvKey_iff.mp hkey
  have hblank : ((c :: rest) ++ '=' :: '"' :: (value ++ ['"'])).dropWhile isSpace =
      (c :: rest) ++ '=' :: '"' :: (value ++ ['"']) := by
    have hc := not_isSpace_of_isKeyChar (hchars c List.mem_cons_self)
    rw [List.cons_append, List.dropWhile_cons_of_neg (by rw [hc]; exact Bool.false_ne_true)]
  obtain ⟨htake, hdrop⟩ := takeWhile_append_stop ('=' :: '"' :: (value ++ ['"'])) hchars
    (by rintro c ⟨⟩; decide)
  unfold lineEntry
  dsimp only
  rw [hblank, htake, hdrop, List.dropWhile_cons_of_neg (by decide)]
  refine (if_pos hkey).trans ?_
  rw [List.dropWhile_cons_of_neg (by decide), afterQuote, beforeTrailer_append]

theorem toList_entryLine (e : String × String) :
    (entryLine e).toList = e.1.toList ++ '=' :: '"' :: (escapeQuotes e.2.toList ++ ['"']) := by
  simp [entryLine, escaped, String.toList_append]

/-- **An entry comes back with its value escaped.** -/
theorem setBy_entryLine {e : String × String} (hkey : isEnvKey e.1.toList = true) :
    setBy (entryLine e) = some (e.1.toList, escapeQuotes e.2.toList) := by
  obtain ⟨c, rest, hchars, hstart, hall⟩ := isEnvKey_iff.mp hkey
  have hc := not_isSpace_of_isKeyChar (hall c (hchars ▸ List.mem_cons_self))
  have hhead : (entryLine e).toList.head? = some c := by
    rw [toList_entryLine, hchars, List.cons_append, List.head?_cons]
  have hlast : (entryLine e).toList.getLast? = some '"' := by
    rw [toList_entryLine, ← List.cons_append, ← List.cons_append, ← List.append_assoc,
      List.getLast?_concat]
  have hne : (entryLine e).toList ≠ [] := by
    intro hnil
    rw [hnil] at hhead
    cases hhead
  -- A key character stands first and a quote last: `strip` finds nothing.
  have hstrip : pyStrip (entryLine e).toList = (entryLine e).toList := by
    have hcore := @pyStrip_append [] (entryLine e).toList [] (List.forall_mem_nil _)
      (List.forall_mem_nil _)
      (by rw [hhead]; rintro d ⟨⟩; exact hc) (by rw [hlast]; rintro d ⟨⟩; decide) hne
    rwa [List.nil_append, List.append_nil] at hcore
  have hsharp : c ≠ '#' := by
    rintro rfl
    exact absurd hstart (by decide)
  unfold setBy
  dsimp only
  rw [hstrip, if_neg, toList_entryLine, lineEntry_written hkey]
  rw [hhead, Option.some_inj]
  exact not_or.mpr ⟨hne, hsharp⟩

/-! ## The whole file -/

theorem mem_escapeQuotes {value : PyText} {c : Char} (h : c ∈ escapeQuotes value) :
    c ∈ value ∨ c = '\\' := by
  obtain ⟨d, hd, hc⟩ := List.mem_flatMap.mp h
  split at hc
  case isTrue heq =>
    subst heq
    simp only [List.mem_cons, List.not_mem_nil, or_false] at hc
    rcases hc with rfl | rfl
    · exact .inr rfl
    · exact .inl hd
  case isFalse =>
    rw [List.mem_singleton.mp hc]
    exact .inl hd

theorem isLineBreak_of_isKeyChar {c : Char} (h : isKeyChar c = true) : isLineBreak c = false := by
  by_contra hbreak
  rw [Bool.not_eq_false] at hbreak
  revert h
  simp only [isLineBreak, Bool.or_eq_true, beq_iff_eq] at hbreak
  rcases hbreak with ((((((((rfl | rfl) | rfl) | rfl) | rfl) | rfl) | rfl) | rfl) | rfl) | rfl <;>
    decide

/-- An entry is written in one line. -/
theorem entryLine_oneLine {e : String × String} (hkey : isEnvKey e.1.toList = true)
    (hvalue : OneLine e.2) : OneLine (entryLine e) := by
  obtain ⟨c, rest, -, -, hall⟩ := isEnvKey_iff.mp hkey
  intro d hd
  rw [toList_entryLine, List.mem_append, List.mem_cons, List.mem_cons, List.mem_append,
    List.mem_singleton] at hd
  rcases hd with hd | rfl | rfl | hd | rfl
  · exact isLineBreak_of_isKeyChar (hall d hd)
  · decide
  · decide
  · rcases mem_escapeQuotes hd with hd | rfl
    · exact hvalue d hd
    · decide
  · decide

/-- A text of lines is read line by line. -/
theorem parseEnv_lines {lines : List String} (h : ∀ line ∈ lines, OneLine line) :
    parseEnv ("\n".intercalate lines ++ "\n") = lines.foldl readEntry [] := by
  by_cases hne : lines = []
  · rw [hne]
    decide
  · rw [parseEnv, intercalate_newline hne, splitlines_join h]

/-- An entry of which the key is new comes last. -/
theorem readEntry_entryLine {values : List (String × String)} {e : String × String}
    (hkey : isEnvKey e.1.toList = true) (hnew : e.1 ∉ values.map Prod.fst) :
    readEntry values (entryLine e) = values ++ [(e.1, escaped e.2)] := by
  unfold readEntry
  rw [setBy_entryLine hkey]
  dsimp only
  rw [String.ofList_toList, upsert_of_not_mem _ hnew]
  rfl

/-- **The lines of entries are read** as these entries, their values escaped. -/
theorem foldl_entryLine {values entries : List (String × String)}
    (hkeys : ∀ e ∈ entries, isEnvKey e.1.toList = true)
    (hnodup : ((values ++ entries).map Prod.fst).Nodup) :
    (entries.map entryLine).foldl readEntry values =
      values ++ entries.map fun e => (e.1, escaped e.2) := by
  induction entries generalizing values with
  | nil => simp
  | cons e rest ih =>
    have hnew : e.1 ∉ values.map Prod.fst := by
      rw [List.map_append, List.map_cons] at hnodup
      intro hmem
      exact (List.nodup_append.mp hnodup).2.2 _ hmem _ List.mem_cons_self rfl
    rw [List.map_cons, List.foldl_cons,
      readEntry_entryLine (hkeys e List.mem_cons_self) hnew, ih]
    · rw [List.append_assoc, List.map_cons, List.singleton_append]
    · exact fun e' he' => hkeys e' (List.mem_cons_of_mem _ he')
    · simpa using hnodup

namespace EnvFile
variable (env : EnvFile)

theorem sorted_perm : env.sorted.Perm env.values := List.mergeSort_perm _ _

/-- **What is written is read** with every value escaped. -/
theorem get_written (hlines : ∀ e ∈ env.values, OneLine e.2) (key : String) :
    (fromText env.toText).get key = (env.get key).map escaped := by
  have hkeys : ∀ e ∈ env.sorted, isEnvKey e.1.toList = true := fun e he =>
    env.keys e (env.sorted_perm.mem_iff.mp he)
  have hnodup : (env.sorted.map Prod.fst).Nodup :=
    (env.sorted_perm.map _).nodup_iff.mpr env.distinct
  have hread : (fromText env.toText).values = env.sorted.map fun e => (e.1, escaped e.2) := by
    have hlines' : ∀ line ∈ env.sorted.map entryLine, OneLine line := by
      intro line hline
      obtain ⟨e, he, rfl⟩ := List.mem_map.mp hline
      exact entryLine_oneLine (hkeys e he) (hlines e (env.sorted_perm.mem_iff.mp he))
    have hfold := @foldl_entryLine [] _ hkeys (by rwa [List.nil_append])
    exact (parseEnv_lines hlines').trans (hfold.trans (List.nil_append _))
  rw [get, hread, lookup_map_values, lookup_perm env.sorted_perm hnodup]
  rfl

end EnvFile

/-! ## Which values come back -/

theorem length_escapeQuotes (value : PyText) :
    (escapeQuotes value).length = value.length + value.count '"' := by
  induction value with
  | nil => rfl
  | cons c rest ih =>
    unfold escapeQuotes at ih ⊢
    rw [List.flatMap_cons, List.length_append, ih, List.length_cons, List.count_cons]
    by_cases hc : c = '"'
    · simp [hc]
      omega
    · simp [hc]
      omega

/-- **A value is as it was** if and only if there was no quote to escape. -/
theorem escaped_eq_iff (value : String) : escaped value = value ↔ '"' ∉ value.toList := by
  constructor
  · intro heq hquote
    have hlen := length_escapeQuotes value.toList
    have hsame : escapeQuotes value.toList = value.toList := by
      rw [← String.toList_ofList (l := escapeQuotes value.toList)]
      exact congrArg String.toList heq
    have hcount := List.count_pos_iff.mpr hquote
    rw [hsame] at hlen
    omega
  · intro hquote
    have hsame : escapeQuotes value.toList = value.toList := by
      unfold escapeQuotes
      rw [List.flatMap_congr (g := fun c => [c]), List.flatMap_singleton']
      intro c hc
      rw [if_neg]
      rintro rfl
      exact hquote hc
    rw [escaped, hsame, String.ofList_toList]

section Lines

theorem beforeTrailer_sublist (text : PyText) : (beforeTrailer text).Sublist text := by
  induction text with
  | nil => exact List.Sublist.refl _
  | cons c rest ih =>
    rw [beforeTrailer]
    split
    · exact List.nil_sublist _
    · exact ih.cons_cons c

theorem afterQuote_suffix (text : PyText) : afterQuote text <:+ text := by
  unfold afterQuote
  split
  · exact List.suffix_cons _ _
  · exact List.suffix_refl _

/-- A value that is read stands in its line. -/
theorem sublist_of_lineEntry {line key value : PyText} (h : lineEntry line = some (key, value)) :
    value.Sublist line := by
  obtain ⟨-, text, htext, rfl⟩ := lineEntry_some h
  have hvalue : (afterQuote (text.dropWhile isSpace)).Sublist text :=
    ((afterQuote_suffix _).trans (List.dropWhile_suffix _)).sublist
  exact ((beforeTrailer_sublist _).trans hvalue).trans ((List.suffix_cons _ _).trans htext).sublist

theorem pyStrip_sublist (text : PyText) : (pyStrip text).Sublist text := by
  have hback := ((List.dropWhile_suffix isSpace (l := (text.dropWhile isSpace).reverse)).sublist).reverse
  rw [List.reverse_reverse] at hback
  exact hback.trans (List.dropWhile_suffix _).sublist

/-- Every value that is read is one line. -/
theorem oneLine_fromText (text : String) : ∀ e ∈ (EnvFile.fromText text).values, OneLine e.2 := by
  refine foldl_readEntry _ (fun line hline key value hset c hc => ?_) fun e he =>
    absurd he List.not_mem_nil
  rw [String.toList_ofList] at hc
  have hvalue := (sublist_of_lineEntry (lineEntry_of_setBy hset)).trans (pyStrip_sublist _)
  exact splitlines_oneLine hline c (hvalue.subset hc)

end Lines

/-- **An env file comes back as it was written** if and only if none of its values has a double quote
or a line boundary. -/
theorem EnvFile.round_trip_iff (env : EnvFile) :
    (∀ key, (fromText env.toText).get key = env.get key) ↔
      ∀ e ∈ env.values, '"' ∉ e.2.toList ∧ OneLine e.2 := by
  constructor
  · intro hback
    -- What is read is lines: so were the values that came back.
    have hlines : ∀ e ∈ env.values, OneLine e.2 := by
      intro e he
      have hget := hback e.1
      rw [get, get, lookup_entry env.distinct he] at hget
      exact oneLine_fromText _ _ (mem_of_lookup hget)
    intro e he
    have hget := hback e.1
    rw [get_written env hlines, get, lookup_entry env.distinct he, Option.map_some,
      Option.some_inj] at hget
    exact ⟨(escaped_eq_iff e.2).mp hget, hlines e he⟩
  · intro hvalues key
    rw [get_written env fun e he => (hvalues e he).2]
    cases hget : env.get key with
    | none => rfl
    | some value =>
      have hmem : (key, value) ∈ env.values := mem_of_lookup hget
      rw [Option.map_some, (escaped_eq_iff value).mpr (hvalues _ hmem).1]

/-- A credential with quotes around a part of it. -/
def quotedEnv : EnvFile where
  values := [("SECRET", "pa\"ss\"word")]
  distinct := by decide
  keys := by decide

/-- It is read with backslashes that it never had. -/
theorem quoted_value_altered :
    (∀ e ∈ quotedEnv.values, OneLine e.2) ∧
      ¬ ∀ key, (EnvFile.fromText quotedEnv.toText).get key = quotedEnv.get key := by
  have hlines : ∀ e ∈ quotedEnv.values, OneLine e.2 := by decide
  refine ⟨hlines, fun hback => ?_⟩
  have hget := hback "SECRET"
  rw [EnvFile.get_written quotedEnv hlines] at hget
  exact absurd hget (by decide)

end Greffer.Cli.Env

/-
Quoted arguments in the generated CMake files.

CMake reads a quoted argument from its opening `"` up to the first `"` that no backslash escapes;
a backslash takes the character after it as it is, and `${name}` refers to a variable
(`QuotedArgument.readArgument`, what an argument reads as and the text after it).

The toolchain file writes a text value between quotes with each `"` escaped and nothing else
(`CacheValue.display`); the dependency file writes package folders and module paths between
quotes as they are, backslashes turned to slashes (`Path.cmakeText`). So a text value is one
argument that reads as exactly the value, whatever follows it, when the value holds no backslash
and no `${`, and only then (`QuotedArgument.readArgument_display_iff`); a path is one argument that
reads as exactly its text when that text holds no `"` and no `${`, and only then
(`QuotedArgument.readArgument_path_iff`). A backslash in a value escapes the character the writer
put after it, the closing quote included, and a `"` in a path ends its argument there: the value
`C:\temp\` reads as `C:temp" CACHE STRING ` on its toolchain line
(`QuotedArgument.backslash_value_reads_past_its_quote`), and the folder `/opt/a"b` as `/opt/a`
(`QuotedArgument.quote_in_path_ends_its_argument`).

Main statement: `QuotedArgument.generated_arguments_read_back_iff`.
-/
import BuildRecipe.Toolchain

namespace BuildRecipe.QuotedArgument

/-! ## CMake's reading -/

/-- what a quoted argument reads as: characters taken as they are, and variable references -/
inductive Piece where
  | char (c : Char)
  | ref (name : List Char)
deriving DecidableEq, Repr

/-- a piece read in front of what the rest of an argument reads as -/
def Piece.cons (p : Piece) : Option (List Piece × List Char) → Option (List Piece × List Char) :=
  Option.map fun r => (p :: r.1, r.2)

/-- reads the body of a quoted argument after its opening quote, `name` holding the name read so
far inside a variable reference: the pieces up to the closing quote and the text after it; none
when the text ends first -/
def readBody : Option (List Char) → List Char → Option (List Piece × List Char)
  | none, [] => none
  | none, '"' :: rest => some ([], rest)
  | none, '\\' :: c :: rest => (Piece.char c).cons (readBody none rest)
  | none, '$' :: '{' :: rest => readBody (some []) rest
  | none, c :: rest => (Piece.char c).cons (readBody none rest)
  | some _, [] => none
  | some name, '}' :: rest => (Piece.ref name.reverse).cons (readBody none rest)
  | some name, c :: rest => readBody (some (c :: name)) rest

/-- reads one quoted argument at the start of a text: what it reads as and the text after it -/
def readArgument : List Char → Option (List Piece × List Char)
  | '"' :: body => readBody none body
  | _ => none

/-! ## One step of reading -/

section Steps

variable {c : Char} {rest : List Char} {name : List Char}

@[simp] theorem readBody_quote : readBody none ('"' :: rest) = some ([], rest) := rfl

@[simp] theorem readBody_escape : readBody none ('\\' :: c :: rest) = (Piece.char c).cons (readBody none rest) := by
  simp [readBody]

@[simp] theorem readBody_refStart : readBody none ('$' :: '{' :: rest) = readBody (some []) rest := by
  simp [readBody]

theorem readBody_plain (hquote : c ≠ '"') (hback : c ≠ '\\') (hdollar : c = '$' → rest.head? ≠ some '{') :
    readBody none (c :: rest) = (Piece.char c).cons (readBody none rest) := by
  rw [readBody.eq_def]
  split <;> simp_all

@[simp] theorem readBody_refEnd : readBody (some name) ('}' :: rest) = (Piece.ref name.reverse).cons (readBody none rest) := by
  simp [readBody]

theorem readBody_refName (hc : c ≠ '}') : readBody (some name) (c :: rest) = readBody (some (c :: name)) rest := by
  rw [readBody.eq_def]
  split <;> simp_all

theorem Piece.cons_eq_some {p : Piece} {r : Option (List Piece × List Char)}
    {pieces : List Piece} {rest : List Char} (h : p.cons r = some (pieces, rest)) :
    ∃ pieces', r = some (pieces', rest) ∧ pieces = p :: pieces' := by
  obtain ⟨⟨pieces', rest'⟩, hr, heq⟩ := Option.map_eq_some_iff.mp h
  obtain ⟨rfl, rfl⟩ := Prod.mk.inj heq
  exact ⟨pieces', hr, rfl⟩

/-- a piece in front of a reading that gives characters only -/
theorem cons_eq_some_map_char {r : Option (List Piece × List Char)} {x tail : List Char} :
    (Piece.char c).cons r = some (x.map Piece.char, tail) ↔
      ∃ x', x = c :: x' ∧ r = some (x'.map Piece.char, tail) := by
  constructor
  · intro h
    obtain ⟨pieces', hr, hx⟩ := Piece.cons_eq_some h
    cases x with
    | nil => cases hx
    | cons d x' =>
      simp only [List.map_cons, List.cons.injEq, Piece.char.injEq] at hx
      obtain ⟨rfl, rfl⟩ := hx
      exact ⟨x', rfl, hr⟩
  · rintro ⟨x', rfl, hr⟩
    simp [Piece.cons, hr]

end Steps

/-! ## What a reading consumes -/

/-- a reading consumes at least the closing quote -/
theorem length_lt_of_readBody {m : Option (List Char)} {s rest : List Char} {pieces : List Piece}
    (h : readBody m s = some (pieces, rest)) : rest.length < s.length := by
  fun_induction readBody m s generalizing pieces with
  | case1 | case6 => cases h
  | case2 => cases h; simp
  | case3 c rest' ih | case5 c rest' _ _ _ ih | case7 c rest' ih =>
    -- one piece in front of what the rest reads as
    obtain ⟨_, hr, -⟩ := Piece.cons_eq_some h
    have := ih hr
    simp only [List.length_cons]
    omega
  | case4 rest' ih | case8 _ _ rest' _ ih =>
    -- the start of a reference, or one character of its name
    have := ih h
    simp only [List.length_cons]
    omega

/-- a reading that starts inside a variable reference reads a reference -/
theorem exists_ref_of_readBody {name s rest : List Char} {pieces : List Piece}
    (h : readBody (some name) s = some (pieces, rest)) : ∃ n, Piece.ref n ∈ pieces := by
  induction s generalizing name pieces with
  | nil => cases h
  | cons c s ih =>
    by_cases hc : c = '}'
    · subst hc
      rw [readBody_refEnd] at h
      obtain ⟨_, -, rfl⟩ := Piece.cons_eq_some h
      exact ⟨_, List.mem_cons_self⟩
    · rw [readBody_refName hc] at h
      exact ih h

/-! ## Texts free of escapes and references -/

/-- no `${` in a text after a character: neither the pair they make nor one in the rest -/
theorem not_refStart_cons {c : Char} {w : List Char} :
    ¬ ['$', '{'] <:+: c :: w ↔ ¬ (c = '$' ∧ w.head? = some '{') ∧ ¬ ['$', '{'] <:+: w := by
  rw [List.infix_cons_iff, not_or]
  refine and_congr (not_congr ?_) Iff.rfl
  cases w with
  | nil => simp
  | cons d w => simp [eq_comm]

/-- a `$` that the text after it does not start with `{` is still not followed by `{` once the
closing quote is written after that text -/
theorem not_refStart_append_quote {c : Char} {s tail : List Char}
    (h : ¬ (c = '$' ∧ s.head? = some '{')) : c = '$' → (s ++ '"' :: tail).head? ≠ some '{' :=
  fun hc => by
    cases s with
    | nil => simp
    | cons d s => simpa [hc] using h

/-- a text without `"`, backslash or `${`, then the closing quote, reads as itself -/
theorem readBody_plain_text {s : List Char} (tail : List Char) (hquote : '"' ∉ s)
    (hback : '\\' ∉ s) (href : ¬ ['$', '{'] <:+: s) :
    readBody none (s ++ '"' :: tail) = some (s.map Piece.char, tail) := by
  induction s with
  | nil => rfl
  | cons c s ih =>
    simp only [List.mem_cons, not_or] at hquote hback
    rw [not_refStart_cons] at href
    rw [List.cons_append, readBody_plain (Ne.symm hquote.1) (Ne.symm hback.1)
      (not_refStart_append_quote href.1), ih hquote.2 hback.2 href.2]
    rfl

/-! ## Text values: quotes escaped, nothing else -/

/-- what the toolchain file writes between the quotes of a text value: each `"` escaped -/
def escapedQuotes (w : List Char) : List Char :=
  w.flatMap fun d => if d = '"' then ['\\', '"'] else [d]

/-- the first character of a value leads the reading of its escaped form -/
theorem readBody_escapedQuotes_cons {c : Char} {w : List Char} (tail : List Char)
    (hback : c ≠ '\\') (href : ¬ (c = '$' ∧ w.head? = some '{')) :
    readBody none (escapedQuotes (c :: w) ++ '"' :: tail) =
      (Piece.char c).cons (readBody none (escapedQuotes w ++ '"' :: tail)) := by
  by_cases hquote : c = '"'
  · subst hquote
    simp [escapedQuotes]
  · -- a `$` is not followed by `{`, whatever the next character is escaped to
    have hdollar : c = '$' → (escapedQuotes w ++ '"' :: tail).head? ≠ some '{' := fun hc => by
      cases w with
      | nil => simp [escapedQuotes]
      | cons d w =>
        have hd : d ≠ '{' := fun hd => href ⟨hc, by simp [hd]⟩
        by_cases hdq : d = '"' <;> simp [escapedQuotes, hdq, hd]
    have hcons : escapedQuotes (c :: w) ++ '"' :: tail = c :: (escapedQuotes w ++ '"' :: tail) := by
      simp [escapedQuotes, hquote]
    rw [hcons, readBody_plain hquote hback hdollar]

/-- a value without backslash or `${` reads back from its escaped form -/
theorem readBody_escapedQuotes {w : List Char} (tail : List Char) (hback : '\\' ∉ w)
    (href : ¬ ['$', '{'] <:+: w) :
    readBody none (escapedQuotes w ++ '"' :: tail) = some (w.map Piece.char, tail) := by
  induction w with
  | nil => rfl
  | cons c w ih =>
    simp only [List.mem_cons, not_or] at hback
    rw [not_refStart_cons] at href
    rw [readBody_escapedQuotes_cons tail (Ne.symm hback.1) href.1, ih hback.2 href.2]
    rfl

/-- what an escaped value reads as is never longer than the value, and as long only when the
value holds no backslash and no `${` -/
theorem length_le_of_readBody_escapedQuotes {w x tail : List Char}
    (h : readBody none (escapedQuotes w ++ '"' :: tail) = some (x.map Piece.char, tail)) :
    x.length ≤ w.length ∧ (x.length = w.length → '\\' ∉ w ∧ ¬ ['$', '{'] <:+: w) := by
  -- strong induction on the value's length: an escape pair takes two characters of it
  obtain ⟨n, hn⟩ : ∃ n, w.length = n := ⟨_, rfl⟩
  induction n using Nat.strongRecOn generalizing w x with
  | ind n ih =>
  rcases w with _ | ⟨c, w⟩
  · have hx : x = [] := by simpa [escapedQuotes] using h
    subst hx
    simp
  by_cases hback : c = '\\'
  · subst hback
    rcases w with _ | ⟨d, w⟩
    · -- a final backslash escapes the closing quote, and the reading runs on into the tail
      have hread : readBody none ('\\' :: '"' :: tail) = some (x.map Piece.char, tail) := by
        simpa [escapedQuotes] using h
      rw [readBody_escape, cons_eq_some_map_char] at hread
      obtain ⟨_, -, htail⟩ := hread
      exact absurd (length_lt_of_readBody htail) (Nat.lt_irrefl _)
    by_cases hquote : d = '"'
    · -- the backslash escapes the backslash written before the quote, and the quote closes
      subst hquote
      have hread : readBody none ('\\' :: '\\' :: '"' :: (escapedQuotes w ++ '"' :: tail)) =
          some (x.map Piece.char, tail) := by
        simpa [escapedQuotes] using h
      rw [readBody_escape, readBody_quote, cons_eq_some_map_char] at hread
      obtain ⟨_, -, hrest⟩ := hread
      have hlen := congrArg List.length (Prod.mk.inj (Option.some.inj hrest)).2
      simp only [List.length_append, List.length_cons] at hlen
      omega
    · -- the backslash escapes the next character: two characters of the value read as one
      have hread : readBody none ('\\' :: d :: (escapedQuotes w ++ '"' :: tail)) =
          some (x.map Piece.char, tail) := by
        simpa [escapedQuotes, hquote] using h
      rw [readBody_escape, cons_eq_some_map_char] at hread
      obtain ⟨x', rfl, hrest⟩ := hread
      have := (ih w.length (by simp at hn; omega) hrest rfl).1
      simp only [List.length_cons]
      omega
  by_cases href : c = '$' ∧ w.head? = some '{'
  · -- `${` starts a reference, which no reading of characters holds
    obtain ⟨rfl, hw⟩ := href
    obtain ⟨w, rfl⟩ := List.head?_eq_some_iff.mp hw
    have hread : readBody (some []) (escapedQuotes w ++ '"' :: tail) = some (x.map Piece.char, tail) := by
      simpa [escapedQuotes] using h
    obtain ⟨_, hmem⟩ := exists_ref_of_readBody hread
    simp at hmem
  · rw [readBody_escapedQuotes_cons tail hback href, cons_eq_some_map_char] at h
    obtain ⟨x', rfl, hrest⟩ := h
    obtain ⟨hle, hclean⟩ := ih w.length (by simp at hn; omega) hrest rfl
    refine ⟨by simpa using hle, fun hlen => ?_⟩
    obtain ⟨hb, hr⟩ := hclean (by simpa using hlen)
    exact ⟨by simp [Ne.symm hback, hb], not_refStart_cons.mpr ⟨href, hr⟩⟩

/-- an escaped value reads back as itself exactly when it holds no backslash and no `${` -/
theorem readBody_escapedQuotes_iff (w tail : List Char) :
    readBody none (escapedQuotes w ++ '"' :: tail) = some (w.map Piece.char, tail) ↔
      '\\' ∉ w ∧ ¬ ['$', '{'] <:+: w :=
  ⟨fun h => (length_le_of_readBody_escapedQuotes h).2 rfl,
    fun ⟨hback, href⟩ => readBody_escapedQuotes tail hback href⟩

/-! ## Paths: written as they are -/

/-- a text without backslash reads back as itself exactly when it holds no `"` and no `${` -/
theorem readBody_plain_iff {s : List Char} (tail : List Char) (hback : '\\' ∉ s) :
    readBody none (s ++ '"' :: tail) = some (s.map Piece.char, tail) ↔
      '"' ∉ s ∧ ¬ ['$', '{'] <:+: s := by
  refine ⟨fun h => ?_, fun ⟨hquote, href⟩ => readBody_plain_text tail hquote hback href⟩
  induction s with
  | nil => simp
  | cons c s ih =>
    simp only [List.mem_cons, not_or] at hback
    by_cases hquote : c = '"'
    · -- the quote ends the argument before the rest of the text
      subst hquote
      simp at h
    by_cases href : c = '$' ∧ s.head? = some '{'
    · obtain ⟨rfl, hs⟩ := href
      obtain ⟨s, rfl⟩ := List.head?_eq_some_iff.mp hs
      rw [List.cons_append, List.cons_append, readBody_refStart] at h
      obtain ⟨_, hmem⟩ := exists_ref_of_readBody h
      simp at hmem
    · rw [List.cons_append, readBody_plain hquote (Ne.symm hback.1) (not_refStart_append_quote href),
        cons_eq_some_map_char] at h
      obtain ⟨_, hx, hrest⟩ := h
      obtain rfl := (List.cons.inj hx).2
      obtain ⟨hq, hr⟩ := ih hback.2 hrest
      exact ⟨by simp [Ne.symm hquote, hq], not_refStart_cons.mpr ⟨href, hr⟩⟩

/-! ## The generated arguments -/

theorem toList_replaceChar (s : String) (c : Char) (piece : String) :
    (Text.replaceChar s c piece).toList = s.toList.flatMap fun d => if d = c then piece.toList else [d] := by
  simp [Text.replaceChar, String.toList_join, List.flatMap_map, apply_ite String.toList]

theorem toList_display_text (v : String) :
    (CacheValue.text v).display.toList = '"' :: (escapedQuotes v.toList ++ ['"']) := by
  simp [CacheValue.display, toList_replaceChar, escapedQuotes]

theorem backslash_not_mem_cmakeText (p : Path) : '\\' ∉ p.cmakeText.toList := by
  simp only [Path.cmakeText, toList_replaceChar, List.mem_flatMap, not_exists, not_and]
  intro d _
  split
  · simp
  · simpa [eq_comm] using ‹¬d = '\\'›

theorem readArgument_display (v : String) (tail : List Char) :
    readArgument ((CacheValue.text v).display.toList ++ tail) =
      readBody none (escapedQuotes v.toList ++ '"' :: tail) := by
  rw [toList_display_text]
  simp [readArgument]

/-- **The arguments of the generated files.** For every text value, path and text after the
argument:
- the toolchain file's argument for the value (its display, which the variable's line follows
  with ` CACHE STRING "" FORCE)`) reads as exactly the value, ending where the display ends,
  exactly when the value holds no backslash and no `${`;
- the dependency file's argument for the path (its CMake text between quotes, as the prefix path,
  module path and include lines write it) reads as exactly that text, ending at its closing quote,
  exactly when the text holds no `"` and no `${`. -/
theorem generated_arguments_read_back_iff (v : String) (p : Path) (tail : List Char) :
    (readArgument ((CacheValue.text v).display.toList ++ tail) =
        some (v.toList.map Piece.char, tail) ↔
      '\\' ∉ v.toList ∧ ¬ ['$', '{'] <:+: v.toList) ∧
    (readArgument ('"' :: (p.cmakeText.toList ++ '"' :: tail)) =
        some (p.cmakeText.toList.map Piece.char, tail) ↔
      '"' ∉ p.cmakeText.toList ∧ ¬ ['$', '{'] <:+: p.cmakeText.toList) := by
  refine ⟨?_, readBody_plain_iff tail (backslash_not_mem_cmakeText p)⟩
  rw [readArgument_display]
  exact readBody_escapedQuotes_iff _ _

/-- the value `C:\temp\` on its toolchain line: the backslashes escape the `t` and the closing
quote, and the argument runs on to the next quote -/
theorem backslash_value_reads_past_its_quote :
    readArgument ((CacheValue.text "C:\\temp\\").display.toList ++
        " CACHE STRING \"\" FORCE)\n".toList) =
      some ("C:temp\" CACHE STRING ".toList.map Piece.char, "\" FORCE)\n".toList) := by
  decide

/-- the folder `/opt/a"b` on its prefix path line: the argument ends after `/opt/a` -/
theorem quote_in_path_ends_its_argument :
    readArgument ('"' :: ((Path.mk "/opt/a\"b").cmakeText.toList ++ "\")\n".toList)) =
      some ("/opt/a".toList.map Piece.char, "b\")\n".toList) := by
  decide

end BuildRecipe.QuotedArgument

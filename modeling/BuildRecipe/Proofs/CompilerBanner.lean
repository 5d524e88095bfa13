/-
Reading a compiler banner.

`Compiler.parseBanner` reads the banner's first line with a non-blank character
(`Compiler.find?_lines_eq_some_iff`). The family is the first of Apple Clang, Clang, MSVC and GCC
whose marks that line contains, ASCII case-insensitively
(`Compiler.familyOfLine_lowerAscii_eq_some_iff`). The version is one of the line's words, each less
the characters other than digits and dots at its ends, that has a dot and reads as a version: the
first of a word that starts at or after the line's first `version `, when the line has one, and
else the last (`Compiler.lineVersion_eq_some_iff`). Trimming cuts exactly the characters other than
digits and dots at either end (`Compiler.trimToken_spec`).

The search for `version ` runs on the lower-cased line, and the position it finds is used on the
line itself. Lower-casing keeps every character's UTF-8 size, so the byte offset found in the
lower-cased line is the offset of the same character in the line: a character boundary
(`Compiler.lowered_offset_isValid`). Cut there, the line starts with `version` or with the end of
a longer word, which carries no version, so the versions from the cut on are those of the words that
start at or after it (`Compiler.dottedVersions_drop_of_mentionsAt`).

Main statement: `Compiler.compiler_banner_reading`.
-/
import Mathlib
import BuildRecipe.Compiler.Banner
import BuildRecipe.Proofs.TextPositions

namespace BuildRecipe.Compiler

open Text

/-! ## What a banner line says -/

/-- from position `i` on, the line reads `word` once its ASCII capitals are lower-cased -/
def MentionsAt (line word : String) (i : Nat) : Prop :=
  word.toList <+: (line.toList.drop i).map Char.toLower

/-- the line contains `word`, ASCII case-insensitively -/
def Mentions (line word : String) : Prop := ∃ i, MentionsAt line word i

/-- `i` is the position where the line first contains `word` -/
def FirstMention (line word : String) (i : Nat) : Prop :=
  MentionsAt line word i ∧ ∀ j < i, ¬MentionsAt line word j

/-- `line` is the banner's first line with a non-blank character -/
def FirstNonBlank (banner line : String) : Prop :=
  ∃ pre post, lines banner = pre ++ line :: post ∧ (∀ l ∈ pre, ∀ c ∈ l.toList, isBlank c = true) ∧
    ∃ c ∈ line.toList, isBlank c = false

/-- the family a line names: the first of Apple Clang, Clang, MSVC and GCC whose marks it
contains -/
def NamesFamily (line : String) : Family → Prop
  | .appleClang => Mentions line "apple clang"
  | .clang => ¬Mentions line "apple clang" ∧ Mentions line "clang"
  | .msvc => ¬Mentions line "apple clang" ∧ ¬Mentions line "clang" ∧ Mentions line "microsoft"
  | .gcc => ¬Mentions line "apple clang" ∧ ¬Mentions line "clang" ∧ ¬Mentions line "microsoft" ∧
      (Mentions line "gcc" ∨ Mentions line "g++" ∨ Mentions line "free software")
  | .unrecognized _ => False

/-- the version a word carries: the word less the characters other than digits and dots at its
ends, when that has a dot and reads as a version -/
def wordVersion (w : List Char) : Option Version :=
  if (trimToken w).contains '.' then (Version.parse (String.ofList (trimToken w))).toOption
  else none

/-- the version a line carries: among the versions of its words, the first of a word that starts
at or after the line's first `version `, when it has one, and else the last -/
def CarriesVersion (line : String) (v : Version) : Prop :=
  (∃ i, FirstMention line "version " i ∧
      (((wordsAt 0 line.toList).filter (i ≤ ·.1)).filterMap (wordVersion ·.2)).head? = some v) ∨
    (¬Mentions line "version " ∧ ((wordsOf line.toList).filterMap wordVersion).getLast? = some v)

/-- the version `parseBanner` takes from a banner line -/
def lineVersion (line : String) : Option Version :=
  (findInfix? "version ".toList (lowerAscii line).toList).elim (dottedVersions line.toList).getLast?
    fun i => (dottedVersions (line.toList.drop i)).head?

theorem parseBanner_eq (banner : String) :
    parseBanner banner = ((lines banner).find? fun l => !isBlankText l).bind fun line =>
      (familyOfLine (lowerAscii line)).bind fun f => (lineVersion line).map (f, ·) := by
  unfold parseBanner lineVersion
  simp only [Option.bind_eq_bind]
  -- the two agree line by line and family by family
  refine congrArg _ (funext fun line => congrArg _ (funext fun f => ?_))
  cases findInfix? "version ".toList (lowerAscii line).toList <;>
    simp [Option.map_eq_bind]

/-! ## The first line with a non-blank character -/

theorem find?_lines_eq_some_iff {banner line : String} :
    (lines banner).find? (fun l => !isBlankText l) = some line ↔ FirstNonBlank banner line := by
  rw [List.find?_eq_some_iff_append]
  simp only [FirstNonBlank, isBlankText, Bool.not_eq_eq_eq_not, Bool.not_true, List.all_eq_false,
    Bool.not_eq_true, Bool.not_not, List.all_eq_true]
  constructor
  · rintro ⟨⟨c, hc, hblank⟩, pre, post, hlines, hpre⟩
    exact ⟨pre, post, hlines, hpre, c, hc, hblank⟩
  · rintro ⟨pre, post, hlines, hpre, c, hc, hblank⟩
    exact ⟨⟨c, hc, hblank⟩, pre, post, hlines, hpre⟩

/-! ## Occurrences in the lower-cased line -/

section Occurrences

variable {line word : String} {i : Nat}

theorem toList_lowerAscii (s : String) : (lowerAscii s).toList = s.toList.map Char.toLower := by
  simp [lowerAscii]

theorem findInfix?_lowerAscii_eq_some_iff :
    findInfix? word.toList (lowerAscii line).toList = some i ↔ FirstMention line word i := by
  simp only [findInfix?_eq_some_iff, toList_lowerAscii, ← List.map_drop, FirstMention, MentionsAt]

theorem findInfix?_lowerAscii_eq_none_iff :
    findInfix? word.toList (lowerAscii line).toList = none ↔ ¬Mentions line word := by
  simp only [findInfix?_eq_none_iff, toList_lowerAscii, ← List.map_drop, Mentions, MentionsAt,
    not_exists]

theorem hasInfix_lowerAscii_iff : hasInfix (lowerAscii line) word = true ↔ Mentions line word := by
  rw [hasInfix, Option.isSome_iff_ne_none, ne_eq, findInfix?_lowerAscii_eq_none_iff, not_not]

theorem firstMention_unique {j : Nat} (hi : FirstMention line word i)
    (hj : FirstMention line word j) : i = j :=
  Option.some.inj ((findInfix?_lowerAscii_eq_some_iff.mpr hi).symm.trans
    (findInfix?_lowerAscii_eq_some_iff.mpr hj))

end Occurrences

theorem familyOfLine_lowerAscii_eq_some_iff {line : String} {f : Family} :
    familyOfLine (lowerAscii line) = some f ↔ NamesFamily line f := by
  unfold familyOfLine
  split_ifs with h1 h2 h3 h4 <;> cases f <;> simp_all [NamesFamily, hasInfix_lowerAscii_iff, or_assoc]

/-! ## Byte offsets -/

/-- the byte offset of a character position of the lower-cased line is the offset of the same
position in the line, so it falls on a character boundary of the line -/
theorem lowered_offset_isValid (line : String) (i : Nat) :
    (String.ofList ((lowerAscii line).toList.take i)).utf8ByteSize =
        (String.ofList (line.toList.take i)).utf8ByteSize ∧
      String.Pos.Raw.IsValid line ⟨(String.ofList ((lowerAscii line).toList.take i)).utf8ByteSize⟩ := by
  have hsize : (String.ofList ((lowerAscii line).toList.take i)).utf8ByteSize =
      (String.ofList (line.toList.take i)).utf8ByteSize := by
    rw [toList_lowerAscii, ← List.map_take, utf8ByteSize_ofList_map_toLower]
  exact ⟨hsize, String.Pos.Raw.isValid_iff_exists_take_toList.mpr ⟨i, hsize⟩⟩

/-! ## Versions -/

theorem dottedVersions_eq (cs : List Char) :
    dottedVersions cs = (wordsOf cs).filterMap wordVersion := rfl

/-- a word trimmed to digits and dots: what is cut from either end has neither, and what remains
starts and ends with one, when anything remains -/
theorem trimToken_spec (w : List Char) :
    ∃ pre post, w = pre ++ trimToken w ++ post ∧ (∀ c ∈ pre, isVersionChar c = false) ∧
      (∀ c ∈ post, isVersionChar c = false) ∧ (∀ c ∈ (trimToken w).head?, isVersionChar c = true) ∧
      ∀ c ∈ (trimToken w).getLast?, isVersionChar c = true := by
  -- `d` is what the front cut leaves; the back cut works on `d` read backwards
  have hfront := (List.takeWhile_append_dropWhile (p := (!isVersionChar ·)) (l := w)).symm
  have hback := List.takeWhile_append_dropWhile (p := (!isVersionChar ·))
    (l := (w.dropWhile (!isVersionChar ·)).reverse)
  have htrim : trimToken w =
      ((w.dropWhile (!isVersionChar ·)).reverse.dropWhile (!isVersionChar ·)).reverse := rfl
  generalize hdef : w.dropWhile (!isVersionChar ·) = d at hfront hback htrim
  -- `d` is the trimmed word followed by the back cut
  have hd : d = trimToken w ++ (d.reverse.takeWhile (!isVersionChar ·)).reverse := by
    rw [htrim, ← List.reverse_append, hback, List.reverse_reverse]
  refine ⟨w.takeWhile (!isVersionChar ·), (d.reverse.takeWhile (!isVersionChar ·)).reverse, ?_,
    fun c hc => by simpa using List.mem_takeWhile_imp hc,
    fun c hc => by simpa using List.mem_takeWhile_imp (List.mem_reverse.mp hc), fun c hc => ?_,
    fun c hc => ?_⟩
  · rw [List.append_assoc, ← hd]
    exact hfront
  · -- the trimmed word starts where `d` does
    have hhead : c ∈ d.head? := by
      rw [hd, List.head?_append, Option.mem_def.mp hc]
      rfl
    rw [← hdef] at hhead
    simpa using eq_false_of_mem_head?_dropWhile hhead
  · rw [htrim, List.getLast?_reverse] at hc
    simpa using eq_false_of_mem_head?_dropWhile hc

/-- a word with no digit and no dot carries no version -/
theorem wordVersion_eq_none {w : List Char} (h : ∀ c ∈ w, isVersionChar c = false) :
    wordVersion w = none := by
  have htrim : trimToken w = [] := by
    unfold trimToken
    rw [List.dropWhile_eq_nil_iff (l := w) |>.mpr (by simpa using h)]
    rfl
  simp [wordVersion, htrim]

/-- digits and dots are no ASCII capitals -/
theorem not_isUpper_of_isVersionChar {c : Char} (h : isVersionChar c = true) : ¬c.isUpper := by
  simp only [isVersionChar, Char.isDigit, Char.isUpper, Bool.or_eq_true, Bool.and_eq_true,
    decide_eq_true_eq, beq_iff_eq] at h ⊢
  rcases h with h | rfl
  · simp only [UInt32.le_iff_toNat_le] at h ⊢
    simp at h ⊢
    omega
  · decide

/-- only the space lowers to a space -/
theorem eq_space_of_toLower {c : Char} (h : c.toLower = ' ') : c = ' ' := by
  by_cases hu : c.isUpper
  · -- a capital lowers to a small letter, and the space is none
    have hlower := Char.isLower_toLower_eq_isAlpha c
    rw [h] at hlower
    simp [Char.isAlpha, hu] at hlower
  · rwa [Char.toLower_eq_of_not_isUpper hu] at h

/-- the word, or the end of a word, that starts where the line reads `version ` carries no
version -/
theorem wordVersion_at_mentionsAt {line : String} {i : Nat} (h : MentionsAt line "version " i) :
    wordVersion ((line.toList.drop i).takeWhile (!isBlank ·)) = none := by
  -- from `i` on, the line is seven characters that lower to `version`, then a space
  obtain ⟨a, ⟨rest, hrest⟩, hlow⟩ := List.prefix_map_iff.mp h
  have hsplit : "version ".toList = "version".toList ++ [' '] := by decide
  rw [hsplit, eq_comm, List.map_eq_append_iff] at hlow
  obtain ⟨word, sp, rfl, hword, hsp⟩ := hlow
  obtain ⟨s, rfl, hs⟩ : ∃ s, sp = [s] ∧ s.toLower = ' ' := by simpa using hsp
  rw [← hrest, eq_space_of_toLower hs, List.append_assoc, List.singleton_append]
  apply wordVersion_eq_none
  intro c hc
  -- the run of non-blank characters stops at the space, so `c` is one of the seven
  have hcword : c ∈ word := by
    have hstop : (' ' :: rest).takeWhile (!isBlank ·) = [] := List.takeWhile_cons_of_neg (by decide)
    rw [List.takeWhile_append, hstop, List.append_nil] at hc
    split at hc
    · exact hc
    · exact List.takeWhile_subset _ hc
  have hletters : ∀ x ∈ "version".toList, isVersionChar x = false := by
    simp [isVersionChar, Char.isDigit]
  by_contra hv
  have hc' : isVersionChar c = true := by simpa using hv
  have hkeep : c.toLower = c := Char.toLower_eq_of_not_isUpper (not_isUpper_of_isVersionChar hc')
  have hmem : c ∈ "version".toList := by
    rw [← hword]
    exact List.mem_map.mpr ⟨c, hcword, hkeep⟩
  exact hv (hletters c hmem)

/-- cut where the line reads `version `, the line's versions are those of the words that start at
the cut or later -/
theorem dottedVersions_drop_of_mentionsAt {line : String} {i : Nat}
    (h : MentionsAt line "version " i) :
    dottedVersions (line.toList.drop i) =
      ((wordsAt 0 line.toList).filter (i ≤ ·.1)).filterMap (wordVersion ·.2) := by
  obtain ⟨P, hP, hwords⟩ := wordsAt_drop 0 i line.toList
  rw [Nat.zero_add] at hP hwords
  -- the piece of a word before the later words, if any, carries no version
  have hpiece : P.filterMap (wordVersion ·.2) = [] := by
    rcases List.sublist_singleton.mp hP with rfl | rfl
    · rfl
    · simp [wordVersion_at_mentionsAt h]
  rw [dottedVersions_eq, ← map_snd_wordsAt i, List.filterMap_map, Function.comp_def, hwords,
    List.filterMap_append, hpiece, List.nil_append]

theorem lineVersion_eq_some_iff {line : String} {v : Version} :
    lineVersion line = some v ↔ CarriesVersion line v := by
  unfold lineVersion CarriesVersion
  cases h : findInfix? "version ".toList (lowerAscii line).toList with
  | none =>
    -- the line never reads `version `: the last version counts
    have hnone := findInfix?_lowerAscii_eq_none_iff.mp h
    rw [Option.elim_none, dottedVersions_eq]
    constructor
    · exact fun hv => Or.inr ⟨hnone, hv⟩
    · rintro (⟨i, ⟨hi, -⟩, -⟩ | ⟨-, hv⟩)
      · exact absurd ⟨i, hi⟩ hnone
      · exact hv
  | some i =>
    -- the line first reads `version ` at `i`: the first version from there on counts
    have hfirst := findInfix?_lowerAscii_eq_some_iff.mp h
    rw [Option.elim_some, dottedVersions_drop_of_mentionsAt hfirst.1]
    constructor
    · exact fun hv => Or.inl ⟨i, hfirst, hv⟩
    · rintro (⟨j, hj, hv⟩ | ⟨hnone, -⟩)
      · rwa [firstMention_unique hfirst hj]
      · exact absurd ⟨i, hfirst.1⟩ hnone

/-! ## The banner -/

theorem parseBanner_eq_some_iff {banner : String} {f : Family} {v : Version} :
    parseBanner banner = some (f, v) ↔
      ∃ line, FirstNonBlank banner line ∧ NamesFamily line f ∧ CarriesVersion line v := by
  simp only [parseBanner_eq, Option.bind_eq_some_iff, Option.map_eq_some_iff, Prod.mk.injEq,
    find?_lines_eq_some_iff, familyOfLine_lowerAscii_eq_some_iff, lineVersion_eq_some_iff]
  constructor
  · rintro ⟨line, hline, g, hg, w, hw, rfl, rfl⟩
    exact ⟨line, hline, hg, hw⟩
  · rintro ⟨line, hline, hf, hv⟩
    exact ⟨line, hline, f, hf, v, hv, rfl, rfl⟩

example : parseBanner "Apple clang version 15.0.0 (clang-1500.0.40.1)" =
    some (.appleClang, ⟨"15.0.0", 15, 0, 0⟩) := by
  decide +kernel

/-- **Reading a compiler banner.**
- the position of `version ` in the lower-cased line, taken as a byte offset, is the offset of the
  same character of the line, and so a character boundary of it;
- a word is trimmed by cutting characters other than digits and dots from both ends, and what
  remains starts and ends with a digit or a dot;
- the banner reads as family `f` and version `v` exactly when its first line with a non-blank
  character names `f` and carries `v`: among its words that, trimmed, have a dot and read as a
  version, the first one at or after the line's first `version `, or the last one when the line
  never says `version `. -/
theorem compiler_banner_reading (banner : String) (f : Family) (v : Version) :
    (∀ (line : String) (i : Nat),
      (String.ofList ((lowerAscii line).toList.take i)).utf8ByteSize =
          (String.ofList (line.toList.take i)).utf8ByteSize ∧
        String.Pos.Raw.IsValid line
          ⟨(String.ofList ((lowerAscii line).toList.take i)).utf8ByteSize⟩) ∧
    (∀ w : List Char, ∃ pre post, w = pre ++ trimToken w ++ post ∧
      (∀ c ∈ pre, isVersionChar c = false) ∧ (∀ c ∈ post, isVersionChar c = false) ∧
      (∀ c ∈ (trimToken w).head?, isVersionChar c = true) ∧
      ∀ c ∈ (trimToken w).getLast?, isVersionChar c = true) ∧
    (parseBanner banner = some (f, v) ↔
      ∃ line, FirstNonBlank banner line ∧ NamesFamily line f ∧ CarriesVersion line v) :=
  ⟨lowered_offset_isValid, trimToken_spec, parseBanner_eq_some_iff⟩

end BuildRecipe.Compiler

/-
Reading the texts that name settings.

Platforms and compilers are read by a table of lower-case spellings (`Text.readSpelling`): a text
that matches a spelling once its ASCII capitals are lower-cased is the variant the spelling names,
any other text is kept verbatim in the catch-all variant. A table agrees with a display
(`Text.DisplaysAsSpelled`) when its spellings are lower-case and distinct, the display of each
variant it names is a spelling of that same variant, and the catch-all displays as the text it
holds. Then the reader and the display obey the laws of `Text.ReaderLaws`: reading a display gives
back what was read, a text that is no spelling is kept and displays as itself, and a spelling
displays as the name of its variant (`Text.DisplaysAsSpelled.readerLaws`). The systems, the
architectures and the compiler families each have such a table (`setting_names_read_back`).

A command-line `key=value` argument is split at its first `=`: the split succeeds exactly when there
is a `=` and some text before it, and gives the two sides trimmed, so the key holds no `=`, and a
key and a value with no blank at either end come back from `key=value`, a `=` in the value
included (`key_value_split`). The text before the `=` is checked for emptiness before it is
trimmed, so the key is empty exactly when that text is all blanks, and a key of blanks alone reads
as the empty key (`blank_key_reads_as_empty`).
-/
import Mathlib.Data.List.TakeDrop
import Mathlib.Data.List.TakeWhile
import BuildRecipe.Profile
import BuildRecipe.Proofs.CompilerVersion
import BuildRecipe.Proofs.SortedMap

namespace BuildRecipe

namespace Text

variable {α : Type}

/-! ## Reading by a table of spellings -/

/-- what makes a table of spellings agree with a display -/
structure DisplaysAsSpelled (spellings : List (String × α)) (other : String → α)
    (name : α → String) : Prop where
  /-- each spelling is lower-case, so that some text matches it -/
  lower : ∀ e ∈ spellings, lowerAscii e.1 = e.1
  /-- no spelling is listed twice -/
  keys_nodup : (spellings.map Prod.fst).Nodup
  /-- the display of a variant the table names is, lower-cased, a spelling of that variant -/
  name_spells : ∀ e ∈ spellings, (lowerAscii (name e.2), e.2) ∈ spellings
  /-- the catch-all displays as the text it holds -/
  name_other : ∀ s, name (other s) = s

/-- the laws of a lenient reader and its display -/
structure ReaderLaws (parse : String → α) (name : α → String) (spellings : List (String × α))
    (other : String → α) : Prop where
  /-- reading the display of what was read gives it back -/
  reread : ∀ s, parse (name (parse s)) = parse s
  /-- a text that is no spelling, ASCII case aside, is kept verbatim and displays as itself -/
  unknown : ∀ s, (∀ e ∈ spellings, eqIgnoreAsciiCase s e.1 = false) →
    parse s = other s ∧ name (parse s) = s
  /-- a spelling, in any ASCII case, displays as the name of the variant it spells -/
  known : ∀ s, ∀ e ∈ spellings, eqIgnoreAsciiCase s e.1 = true → name (parse s) = name e.2

theorem eqIgnoreAsciiCase_iff {s t : String} (ht : lowerAscii t = t) :
    eqIgnoreAsciiCase s t = true ↔ lowerAscii s = t := by
  simp [eqIgnoreAsciiCase, ht]

section

variable {spellings : List (String × α)} {other : String → α} {name : α → String}

theorem readSpelling_of_not_mem {s : String} (h : lowerAscii s ∉ spellings.map Prod.fst) :
    readSpelling spellings other s = other s := by
  rw [readSpelling, SortedMap.lookup_eq_none_iff_not_mem.mpr h, Option.getD_none]

theorem DisplaysAsSpelled.readSpelling_of_mem (hd : DisplaysAsSpelled spellings other name)
    {s : String} {e : String × α} (he : e ∈ spellings) (hs : lowerAscii s = e.1) :
    readSpelling spellings other s = e.2 := by
  have hlook : spellings.lookup (lowerAscii s) = some e.2 := by
    rw [hs]
    exact SortedMap.lookup_eq_some_of_mem hd.keys_nodup he
  rw [readSpelling, hlook, Option.getD_some]

/-- a table that agrees with its display makes a reader that obeys the laws -/
theorem DisplaysAsSpelled.readerLaws (hd : DisplaysAsSpelled spellings other name) :
    ReaderLaws (readSpelling spellings other) name spellings other where
  reread s := by
    by_cases hm : lowerAscii s ∈ spellings.map Prod.fst
    · obtain ⟨e, he, hk⟩ := List.mem_map.mp hm
      rw [hd.readSpelling_of_mem he hk.symm]
      -- the display of `e.2` is itself a spelling of `e.2`
      exact hd.readSpelling_of_mem (e := (lowerAscii (name e.2), e.2)) (hd.name_spells e he) rfl
    · rw [readSpelling_of_not_mem hm, hd.name_other, readSpelling_of_not_mem hm]
  unknown s hs := by
    have hnot : lowerAscii s ∉ spellings.map Prod.fst := by
      intro hm
      obtain ⟨e, he, hk⟩ := List.mem_map.mp hm
      have hmatch : eqIgnoreAsciiCase s e.1 = true := (eqIgnoreAsciiCase_iff (hd.lower e he)).mpr hk.symm
      rw [hs e he] at hmatch
      cases hmatch
    rw [readSpelling_of_not_mem hnot, hd.name_other]
    exact ⟨rfl, rfl⟩
  known s e he hs := by
    rw [hd.readSpelling_of_mem he ((eqIgnoreAsciiCase_iff (hd.lower e he)).mp hs)]

end

end Text

theorem Os.displaysAsSpelled : Text.DisplaysAsSpelled Os.spellings Os.other Os.name :=
  ⟨by decide, by decide, by decide, fun _ => rfl⟩

theorem Arch.displaysAsSpelled : Text.DisplaysAsSpelled Arch.spellings Arch.other Arch.name :=
  ⟨by decide, by decide, by decide, fun _ => rfl⟩

theorem Compiler.Family.displaysAsSpelled :
    Text.DisplaysAsSpelled Compiler.Family.spellings Compiler.Family.unrecognized
      Compiler.Family.name :=
  ⟨by decide, by decide, by decide, fun _ => rfl⟩

/-- systems, architectures and compiler families are read and displayed lawfully: reading the
display of what was read gives it back, a text that is no recognised spelling (ASCII case aside) is
kept verbatim and displays as itself, and a recognised spelling displays as the canonical name of
its variant -/
theorem setting_names_read_back :
    Text.ReaderLaws Os.parse Os.name Os.spellings Os.other ∧
      Text.ReaderLaws Arch.parse Arch.name Arch.spellings Arch.other ∧
      Text.ReaderLaws Compiler.Family.parse Compiler.Family.name Compiler.Family.spellings
        Compiler.Family.unrecognized :=
  ⟨Os.displaysAsSpelled.readerLaws, Arch.displaysAsSpelled.readerLaws,
    Compiler.Family.displaysAsSpelled.readerLaws⟩

example : (Arch.parse "AMD64").name = "x86_64" := by decide

/-! ## Trimming -/

namespace Text

/-- a text with no blank at either end -/
def Unpadded (s : String) : Prop :=
  (∀ c, s.toList.head? = some c → isBlank c = false) ∧
    ∀ c, s.toList.getLast? = some c → isBlank c = false

theorem trim_eq_self {s : String} (h : Unpadded s) : trim s = s := by
  rw [trim, trimChars_eq_self h.1 h.2, String.ofList_toList]

theorem trimChars_sublist (cs : List Char) : List.Sublist (trimChars cs) cs := by
  have hright := (List.dropWhile_sublist (l := (cs.dropWhile isBlank).reverse) isBlank).reverse
  rw [List.reverse_reverse] at hright
  exact hright.trans (List.dropWhile_sublist isBlank)

theorem mem_of_mem_trim {s : String} {c : Char} (h : c ∈ (trim s).toList) : c ∈ s.toList := by
  rw [trim, String.toList_ofList] at h
  exact (trimChars_sublist _).subset h

/-- trimming leaves nothing exactly of a text of blanks -/
theorem trimChars_eq_nil_iff (cs : List Char) : trimChars cs = [] ↔ ∀ c ∈ cs, isBlank c = true := by
  rw [trimChars, List.reverse_eq_nil_iff, List.dropWhile_eq_nil_iff,
    ← List.dropWhile_eq_nil_iff (p := isBlank) (l := cs)]
  simp only [List.mem_reverse]
  constructor
  · intro h
    -- what dropping leading blanks leaves starts with no blank, so it is empty
    cases hfront : cs.dropWhile isBlank with
    | nil => rfl
    | cons c rest =>
      have hnot := head?_dropWhile_isBlank cs c (by simp [hfront])
      have hyes := h c (by simp [hfront])
      rw [hnot] at hyes
      cases hyes
  · intro h c hc
    rw [h] at hc
    cases hc

theorem trim_eq_empty_iff (s : String) : trim s = "" ↔ ∀ c ∈ s.toList, isBlank c = true := by
  rw [trim, ← String.toList_inj, String.toList_ofList, String.toList_empty, trimChars_eq_nil_iff]

/-! ## Splitting at a separator -/

/-- a list spans into a kept part and a rest that starts with `x` exactly when the kept part holds
only kept elements and `x` is not kept -/
theorem span_eq_cons_iff {β : Type} {p : β → Bool} {l before after : List β} {x : β} :
    l.span p = (before, x :: after) ↔
      l = before ++ x :: after ∧ (∀ y ∈ before, p y = true) ∧ p x = false := by
  rw [List.span_eq_takeWhile_dropWhile, Prod.mk.injEq]
  constructor
  · rintro ⟨htake, hdrop⟩
    have hstop := List.head_dropWhile_not p (l := l) (by simp [hdrop])
    simp only [hdrop, List.head_cons] at hstop
    refine ⟨?_, fun y hy => List.mem_takeWhile_imp (by rw [htake]; exact hy), hstop⟩
    rw [← htake, ← hdrop, List.takeWhile_append_dropWhile]
  · rintro ⟨rfl, hkept, hx⟩
    rw [List.takeWhile_append_of_pos hkept, List.dropWhile_append_of_pos hkept]
    simp [hx]

/-- a list is kept whole up to the separator `c` exactly when `c` is not in it -/
theorem kept_iff_not_mem {c : Char} {l : List Char} : (∀ y ∈ l, decide (y ≠ c) = true) ↔ c ∉ l := by
  simp only [decide_eq_true_eq]
  exact ⟨fun h hc => h c hc rfl, fun h y hy hyc => h (hyc ▸ hy)⟩

/-- what comes before the first separator of a text written with one -/
theorem takeWhile_ne_append {before after : List Char} {c : Char} (h : c ∉ before) :
    (before ++ c :: after).takeWhile (fun x => decide (x ≠ c)) = before := by
  rw [List.takeWhile_append_of_pos (kept_iff_not_mem.mpr h)]
  simp

theorem splitOnce_eq_some_iff {s a b : String} {c : Char} :
    splitOnce s c = some (a, b) ↔ s.toList = a.toList ++ c :: b.toList ∧ c ∉ a.toList := by
  have hstop : ∀ x : Char, decide (x ≠ c) = false ↔ x = c := fun x => by simp
  unfold splitOnce
  rcases hsp : s.toList.span (fun x => decide (x ≠ c)) with ⟨before, _ | ⟨x, after⟩⟩
  · -- no separator: the text written with one would have split there
    simp only [reduceCtorEq, false_iff, not_and]
    intro hs hnot
    have hcut := span_eq_cons_iff.mpr ⟨hs, kept_iff_not_mem.mpr hnot, (hstop c).mpr rfl⟩
    rw [hsp] at hcut
    simp at hcut
  · obtain ⟨hs, hbefore, hx⟩ := span_eq_cons_iff.mp hsp
    obtain rfl := (hstop x).mp hx
    simp only [Option.some.injEq, Prod.mk.injEq]
    constructor
    · rintro ⟨rfl, rfl⟩
      simpa using ⟨hs, kept_iff_not_mem.mp hbefore⟩
    · rintro ⟨hs', hnot⟩
      -- the same text splits at its first separator in one way only
      have hcut := span_eq_cons_iff.mpr ⟨hs', kept_iff_not_mem.mpr hnot, (hstop x).mpr rfl⟩
      rw [hsp] at hcut
      obtain ⟨rfl, rfl⟩ : before = a.toList ∧ after = b.toList := by simpa using hcut
      simp

end Text

/-! ## Key–value arguments -/

theorem toList_keyValue (k v : String) : (k ++ "=" ++ v).toList = k.toList ++ '=' :: v.toList := by
  have hsep : "=".toList = ['='] := rfl
  simp [hsep]

theorem parseKeyValue_eq_ok_iff {a k v : String} :
    parseKeyValue a = .ok (k, v) ↔
      ∃ before after, a = before ++ "=" ++ after ∧ '=' ∉ before.toList ∧ before ≠ "" ∧
        k = Text.trim before ∧ v = Text.trim after := by
  have hwritten : ∀ before after : String,
      a = before ++ "=" ++ after ↔ a.toList = before.toList ++ '=' :: after.toList := by
    intro before after
    rw [← String.toList_inj, toList_keyValue]
  unfold parseKeyValue
  cases hs : Text.splitOnce a '=' with
  | none =>
    simp only [reduceCtorEq, false_iff, not_exists, not_and]
    intro before after hab hnot
    have hsplit := Text.splitOnce_eq_some_iff.mpr ⟨(hwritten before after).mp hab, hnot⟩
    rw [hs] at hsplit
    cases hsplit
  | some parts =>
    obtain ⟨before, after⟩ := parts
    obtain ⟨hab, hnot⟩ := Text.splitOnce_eq_some_iff.mp hs
    constructor
    · intro h
      by_cases hempty : before.isEmpty
      · simp [hempty] at h
      · simp only [hempty, Bool.false_eq_true, if_false, Except.ok.injEq, Prod.mk.injEq] at h
        exact ⟨before, after, (hwritten before after).mpr hab, hnot, by simpa using hempty,
          h.1.symm, h.2.symm⟩
    · rintro ⟨before', after', hab', hnot', hne, rfl, rfl⟩
      -- the first `=` splits the argument one way only
      have hsame := Text.splitOnce_eq_some_iff.mpr ⟨(hwritten before' after').mp hab', hnot'⟩
      rw [hs] at hsame
      obtain ⟨rfl, rfl⟩ := Prod.mk.inj (Option.some.inj hsame)
      simp [hne]

/-- the key holds no `=`, and it is empty exactly when all that comes before the first `=` is
blank -/
theorem key_of_parseKeyValue {a k v : String} (h : parseKeyValue a = .ok (k, v)) :
    '=' ∉ k.toList ∧ (k = "" ↔ ∀ c ∈ a.toList.takeWhile (· ≠ '='), Text.isBlank c = true) := by
  obtain ⟨before, after, rfl, hnot, -, rfl, -⟩ := parseKeyValue_eq_ok_iff.mp h
  have hkey : (before ++ "=" ++ after).toList.takeWhile (· ≠ '=') = before.toList := by
    rw [toList_keyValue]
    exact Text.takeWhile_ne_append hnot
  refine ⟨fun hmem => hnot (Text.mem_of_mem_trim hmem), ?_⟩
  rw [hkey, Text.trim_eq_empty_iff]

theorem parseKeyValue_written {k v : String} (hk : Text.Unpadded k) (hv : Text.Unpadded v)
    (hne : k ≠ "") (hkey : '=' ∉ k.toList) : parseKeyValue (k ++ "=" ++ v) = .ok (k, v) :=
  parseKeyValue_eq_ok_iff.mpr ⟨k, v, rfl, hkey, hne, (Text.trim_eq_self hk).symm,
    (Text.trim_eq_self hv).symm⟩

/-- splitting a `key=value` argument: it succeeds exactly when the argument has a `=` with some
text before the first one, and gives that text and the rest, each trimmed, so the key holds no `=`
and is empty exactly when the text before the first `=` is all blanks; a key and a value with no
blank at either end, the key non-empty and free of `=`, come back from their written form, whatever
`=` the value holds -/
theorem key_value_split (a k v : String) :
    (parseKeyValue a = .ok (k, v) ↔
      ∃ before after, a = before ++ "=" ++ after ∧ '=' ∉ before.toList ∧ before ≠ "" ∧
        k = Text.trim before ∧ v = Text.trim after) ∧
    (parseKeyValue a = .ok (k, v) →
      '=' ∉ k.toList ∧ (k = "" ↔ ∀ c ∈ a.toList.takeWhile (· ≠ '='), Text.isBlank c = true)) ∧
    (Text.Unpadded k → Text.Unpadded v → k ≠ "" → '=' ∉ k.toList →
      parseKeyValue (k ++ "=" ++ v) = .ok (k, v)) :=
  ⟨parseKeyValue_eq_ok_iff, key_of_parseKeyValue, parseKeyValue_written⟩

/-- a setting whose value holds a `=` reads back from its written form -/
theorem option_value_with_equals_reads_back :
    Text.Unpadded "os" ∧ Text.Unpadded "a=b" ∧
      parseKeyValue ("os" ++ "=" ++ "a=b") = .ok ("os", "a=b") := by
  have hos : Text.Unpadded "os" := by simp [Text.Unpadded, Text.isBlank]
  have hab : Text.Unpadded "a=b" := by simp [Text.Unpadded, Text.isBlank]
  exact ⟨hos, hab, (key_value_split "os=a=b" "os" "a=b").2.2 hos hab (by simp) (by simp)⟩

/-- a key of blanks alone passes the emptiness check, made before trimming, and reads as the empty
key -/
theorem blank_key_reads_as_empty : parseKeyValue " =Windows" = .ok ("", "Windows") := by
  rfl

end BuildRecipe

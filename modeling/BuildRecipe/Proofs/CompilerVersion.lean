/-
Compiler versions as texts. A text reads as a version exactly when every dot-separated component
of its trimmed form is the text of an unsigned 64-bit number: an optional plus sign, then one or
more ASCII digits, of value below 2^64 (`Text.readU64?_eq_some_iff`, `parse_ok_iff`). The version
keeps the trimmed text as its display and the first three component values, a missing one counting
as zero and the rest ignored (`parse_eq_ok`). Trimming a trimmed text changes nothing
(`Text.trimChars_trimChars`), so reading a version's display gives the version back (`parse_raw`).

Versions compare by the lexicographic order of their three values (`cmp_eq_compare`), and are
equal exactly when they compare equal (`beq_iff_cmp_eq`), whatever their texts. A version built
from a major and a minor number reads back from its display (`parse_ofParts`).

Main statement: `Compiler.Version.parse_display_order`.
-/
import Mathlib.Data.List.Forall2
import BuildRecipe.Compiler.Version

namespace BuildRecipe

namespace Text

/-! ## Trimming -/

/-- a list that does not start with a blank loses nothing when leading blanks are dropped -/
theorem dropWhile_isBlank_eq_self {cs : List Char}
    (h : ∀ c, cs.head? = some c → isBlank c = false) : cs.dropWhile isBlank = cs := by
  cases cs with
  | nil => rfl
  | cons c rest => exact List.dropWhile_cons_of_neg (by simp [h c rfl])

/-- what is left after dropping leading blanks does not start with one -/
theorem head?_dropWhile_isBlank (cs : List Char) :
    ∀ c, (cs.dropWhile isBlank).head? = some c → isBlank c = false := by
  intro c hc
  simpa [hc] using List.head?_dropWhile_not isBlank cs

/-- a list that neither starts nor ends with a blank is its own trimming -/
theorem trimChars_eq_self {cs : List Char} (hhead : ∀ c, cs.head? = some c → isBlank c = false)
    (hlast : ∀ c, cs.getLast? = some c → isBlank c = false) : trimChars cs = cs := by
  have hrev : ∀ c, cs.reverse.head? = some c → isBlank c = false := by
    simpa [List.head?_reverse] using hlast
  rw [trimChars, dropWhile_isBlank_eq_self hhead, dropWhile_isBlank_eq_self hrev,
    List.reverse_reverse]

/-- trimming a trimmed text changes nothing -/
theorem trimChars_trimChars (cs : List Char) : trimChars (trimChars cs) = trimChars cs := by
  -- `front` has no leading blank; `back`, read backwards, has no trailing one
  set front := cs.dropWhile isBlank
  set back := front.reverse.dropWhile isBlank
  have hprefix : back.reverse <+: front := by
    simpa using (List.dropWhile_suffix isBlank (l := front.reverse)).reverse
  have hhead : ∀ c, back.reverse.head? = some c → isBlank c = false := by
    intro c hc
    obtain ⟨rest, hrest⟩ := hprefix
    refine head?_dropWhile_isBlank cs c ?_
    show front.head? = some c
    rw [← hrest, List.head?_append, hc]
    rfl
  have hlast : ∀ c, back.reverse.getLast? = some c → isBlank c = false := by
    simpa [List.getLast?_reverse] using head?_dropWhile_isBlank front.reverse
  exact trimChars_eq_self hhead hlast

theorem trim_trim (s : String) : trim (trim s) = trim s := by
  simp [trim, trimChars_trimChars]

theorem isBlank_of_isDigit {c : Char} (h : c.isDigit = true) : isBlank c = false := by
  have hc : 48 ≤ c.toNat ∧ c.toNat ≤ 57 := Char.isDigit_iff_toNat.mp h
  simp only [isBlank, Bool.or_eq_false_iff, Bool.and_eq_false_imp, decide_eq_true_eq,
    decide_eq_false_iff_not, beq_eq_false_iff_ne, ne_eq]
  omega

/-! ## Unsigned 64-bit numbers -/

/-- `t` is the text of the unsigned 64-bit number `n`: an optional plus sign, then one or more
ASCII digits whose decimal value is `n`, below 2^64 -/
def U64Text (t : String) (n : Nat) : Prop :=
  ∃ ds : List Char, (t.toList = ds ∨ t.toList = '+' :: ds) ∧ ds ≠ [] ∧
    (∀ d ∈ ds, d.isDigit = true) ∧ Nat.ofDigitChars 10 ds 0 = n ∧ n < Nat.pow 2 64

theorem digitsValue_eq_ofDigitChars (ds : List Char) :
    digitsValue ds = Nat.ofDigitChars 10 ds 0 := by
  unfold digitsValue Nat.ofDigitChars
  congr 1
  funext acc d
  rw [Nat.mul_comm]

theorem readDigits?_eq_some_iff (cs : List Char) (n : Nat) :
    readDigits? cs = some n ↔
      cs ≠ [] ∧ (∀ d ∈ cs, d.isDigit = true) ∧ Nat.ofDigitChars 10 cs 0 = n := by
  by_cases h : cs ≠ [] ∧ ∀ d ∈ cs, d.isDigit = true
  · have hok : (!cs.isEmpty && cs.all Char.isDigit) = true := by simpa using h
    simp only [readDigits?, hok, ite_true, Option.some.injEq, digitsValue_eq_ofDigitChars]
    exact ⟨fun hv => ⟨h.1, h.2, hv⟩, fun hv => hv.2.2⟩
  · have hno : (!cs.isEmpty && cs.all Char.isDigit) = false := by simpa using h
    simp only [readDigits?, hno, Bool.false_eq_true, ite_false, reduceCtorEq, false_iff]
    exact fun ⟨hne, hall, _⟩ => h ⟨hne, hall⟩

/-- a sign is no digit -/
@[simp] theorem readDigits?_plus (ds : List Char) : readDigits? ('+' :: ds) = none := by
  simp [readDigits?]

/-- the reader reads the digits of the text less a leading plus sign, below 2^64 -/
theorem readU64?_eq_some_iff_unsigned (t : String) (n : Nat) :
    readU64? t = some n ↔
      ∃ ds, (t.toList = ds ∨ t.toList = '+' :: ds) ∧ readDigits? ds = some n ∧ n < Nat.pow 2 64 := by
  rcases ht : t.toList with _ | ⟨c, rest⟩
  · simp [readU64?, readUnsigned?, ht, readDigits?]
  · -- the sign is dropped when there is one; digits never start with it
    by_cases hc : c = '+'
    · subst hc
      simp only [readU64?, readUnsigned?, ht]
      split
      · simp_all
        omega
      · simp_all
    · simp [readU64?, readUnsigned?, ht, hc]
      split
      · simp_all
        omega
      · simp_all

/-- the reader takes exactly the texts of unsigned 64-bit numbers -/
theorem readU64?_eq_some_iff (t : String) (n : Nat) : readU64? t = some n ↔ U64Text t n := by
  simp only [readU64?_eq_some_iff_unsigned, readDigits?_eq_some_iff, U64Text, and_assoc]

/-- a text names at most one number -/
theorem U64Text.unique {t : String} {n m : Nat} (hn : U64Text t n) (hm : U64Text t m) : n = m := by
  rw [← readU64?_eq_some_iff] at hn hm
  exact Option.some.inj (hn.symm.trans hm)

theorem isDigit_of_mem_toDigits {n : Nat} {d : Char} (hd : d ∈ Nat.toDigits 10 n) :
    d.isDigit = true :=
  Nat.isDigit_of_mem_toDigits (by decide) (by decide) hd

/-- the decimal digits of a number below 2^64 read back as it -/
theorem readU64?_toDigits {n : Nat} (h : n < Nat.pow 2 64) :
    readU64? (String.ofList (Nat.toDigits 10 n)) = some n := by
  rw [readU64?_eq_some_iff]
  exact ⟨Nat.toDigits 10 n, .inl String.toList_ofList, Nat.toDigits_ne_nil,
    fun d hd => isDigit_of_mem_toDigits hd, Nat.ofDigitChars_ten_toDigits, h⟩

/-- a text that starts and ends with a digit is trimmed already -/
theorem trim_of_digit_ends {s : String} (hh : ∀ c, s.toList.head? = some c → c.isDigit = true)
    (hl : ∀ c, s.toList.getLast? = some c → c.isDigit = true) : trim s = s := by
  rw [trim, trimChars_eq_self (fun c hc => isBlank_of_isDigit (hh c hc))
    (fun c hc => isBlank_of_isDigit (hl c hc)), String.ofList_toList]

end Text

/-- a run of optional steps succeeds exactly when each step succeeds, with the results in order -/
theorem List.mapM_eq_some_iff_forall₂ {α β : Type} (f : α → Option β) (l : List α) (ys : List β) :
    l.mapM f = some ys ↔ List.Forall₂ (fun x y => f x = some y) l ys := by
  induction l generalizing ys with
  | nil => cases ys <;> simp
  | cons x xs ih =>
    cases ys with
    | nil => simp [List.mapM_cons, Option.bind_eq_some_iff]
    | cons y ys => simp [List.mapM_cons, Option.bind_eq_some_iff, ih]

/-- a run of optional steps succeeds exactly when every step does -/
theorem List.isSome_mapM_iff {α β : Type} (f : α → Option β) (l : List α) :
    (l.mapM f).isSome ↔ ∀ x ∈ l, (f x).isSome := by
  induction l with
  | nil => simp
  | cons x xs ih =>
    rw [List.mapM_cons, List.forall_mem_cons, ← ih]
    cases f x <;> cases xs.mapM f <;> simp

namespace Compiler.Version

/-! ## Reading a version -/

/-- the components of a text are numbers exactly when each is the text of an unsigned 64-bit
number -/
theorem components?_eq_some_iff (raw : String) (ns : List Nat) :
    components? raw = some ns ↔ List.Forall₂ Text.U64Text (Text.splitAll raw '.') ns := by
  simp only [components?, List.mapM_eq_some_iff_forall₂, Text.readU64?_eq_some_iff]

/-- the first three of the values padded with zeros are the values at the first three places -/
theorem getD_three (ns : List Nat) :
    [ns.getD 0 0, ns.getD 1 0, ns.getD 2 0] = (ns ++ [0, 0, 0]).take 3 := by
  rcases ns with _ | ⟨a, _ | ⟨b, _ | ⟨c, rest⟩⟩⟩ <;> rfl

/-- a read version keeps the trimmed text and the first three component values, padded with
zeros -/
theorem parse_eq_ok {s : String} {v : Version} (h : parse s = .ok v) :
    v.raw = Text.trim s ∧ ∃ ns, List.Forall₂ Text.U64Text (Text.splitAll (Text.trim s) '.') ns ∧
      components? (Text.trim s) = some ns ∧ [v.major, v.minor, v.patch] = (ns ++ [0, 0, 0]).take 3 := by
  simp only [parse] at h
  split at h
  · rename_i ns hns
    cases h
    exact ⟨rfl, ns, (components?_eq_some_iff _ _).mp hns, hns, getD_three ns⟩
  · cases h

/-- a text reads as a version exactly when every component of its trimmed form is the text of an
unsigned 64-bit number -/
theorem parse_ok_iff (s : String) :
    (∃ v, parse s = .ok v) ↔ ∀ t ∈ Text.splitAll (Text.trim s) '.', ∃ n, Text.U64Text t n := by
  have hread : ∀ t, (Text.readU64? t).isSome ↔ ∃ n, Text.U64Text t n := fun t => by
    simp [Option.isSome_iff_exists, Text.readU64?_eq_some_iff]
  -- the version is made whenever every component is read
  have hcomponents : (∃ v, parse s = .ok v) ↔ (components? (Text.trim s)).isSome := by
    simp only [parse]
    split <;> simp_all
  rw [hcomponents, components?, List.isSome_mapM_iff]
  exact forall₂_congr fun t _ => hread t

/-- reading the display of a read version gives the version back -/
theorem parse_raw {s : String} {v : Version} (h : parse s = .ok v) : parse v.raw = .ok v := by
  obtain ⟨-, ns, -, hns, -⟩ := parse_eq_ok h
  simp only [parse, hns, Except.ok.injEq] at h
  subst h
  simp [parse, Text.trim_trim, hns]

/-! ## Order and equality -/

/-- versions compare by the lexicographic order of their first three components -/
theorem cmp_eq_compare (a b : Version) :
    a.cmp b = compare [a.major, a.minor, a.patch] [b.major, b.minor, b.patch] := by
  simp [cmp]

theorem cmp_self (v : Version) : v.cmp v = .eq := by
  simp [cmp]

/-- two versions are equal exactly when they compare equal -/
theorem beq_iff_cmp_eq (a b : Version) : (a == b) = true ↔ a.cmp b = .eq := by
  show beq a b = true ↔ _
  simp [beq, key, cmp]

/-! ## Versions from their parts -/

/-- a version from its parts reads back from its display: the digits of the major number, then,
unless the minor one is zero, a dot and its digits -/
theorem parse_ofParts (major minor : Nat) (hmajor : major < Nat.pow 2 64)
    (hminor : minor < Nat.pow 2 64) : parse (ofParts major minor).raw = .ok (ofParts major minor) := by
  have hdot : ∀ n, '.' ∉ Nat.toDigits 10 n := fun n hd =>
    absurd (Text.isDigit_of_mem_toDigits hd) (by decide)
  by_cases hm : minor = 0
  · have hchars : (ofParts major minor).raw.toList = Nat.toDigits 10 major := by simp [ofParts, hm]
    have htrim : Text.trim (ofParts major minor).raw = (ofParts major minor).raw := by
      refine Text.trim_of_digit_ends (fun c hc => ?_) (fun c hc => ?_) <;> rw [hchars] at hc
      · exact Text.isDigit_of_mem_toDigits (List.mem_of_head? hc)
      · exact Text.isDigit_of_mem_toDigits (List.mem_of_getLast? hc)
    have hcomponents : components? (ofParts major minor).raw = some [major] := by
      simp [components?, Text.splitAll, hchars, List.splitOn_eq_singleton (hdot major),
        Text.readU64?_toDigits hmajor]
    simp only [parse, htrim, hcomponents]
    simp [ofParts, hm]
  · have hchars : (ofParts major minor).raw.toList =
        Nat.toDigits 10 major ++ '.' :: Nat.toDigits 10 minor := by
      simp [ofParts, hm]
    have htrim : Text.trim (ofParts major minor).raw = (ofParts major minor).raw := by
      refine Text.trim_of_digit_ends (fun c hc => ?_) (fun c hc => ?_) <;> rw [hchars] at hc
      · rw [List.head?_append_of_ne_nil _ Nat.toDigits_ne_nil] at hc
        exact Text.isDigit_of_mem_toDigits (List.mem_of_head? hc)
      · rw [List.getLast?_append_of_ne_nil _ (by simp), List.getLast?_cons_of_ne_nil Nat.toDigits_ne_nil] at hc
        exact Text.isDigit_of_mem_toDigits (List.mem_of_getLast? hc)
    have hcomponents : components? (ofParts major minor).raw = some [major, minor] := by
      simp [components?, Text.splitAll, hchars, List.splitOn_append_cons_self_of_not_mem (hdot major),
        List.splitOn_eq_singleton (hdot minor), Text.readU64?_toDigits hmajor,
        Text.readU64?_toDigits hminor]
    simp only [parse, htrim, hcomponents]
    simp [ofParts, hm]

/-! ## Reading, display and order together -/

/-- **Reading, display and order of compiler versions.**
- A text reads as a version exactly when every dot-separated component of its trimmed form is the
  text of an unsigned 64-bit number.
- A read version displays as the trimmed text, reads back from that display as itself, and
  compares equal to itself.
- Two read versions compare by the lexicographic order of their first three component values, a
  missing one counting as zero and the rest ignored, and are equal exactly when they compare
  equal.
- The version of a major and a minor number displays as the major number alone when the minor is
  zero and as `major.minor` otherwise, and reads back from that display as itself. -/
theorem parse_display_order :
    (∀ s, (∃ v, parse s = .ok v) ↔ ∀ t ∈ Text.splitAll (Text.trim s) '.', ∃ n, Text.U64Text t n) ∧
    (∀ s v, parse s = .ok v → v.raw = Text.trim s ∧ parse v.raw = .ok v ∧ v.cmp v = .eq) ∧
    (∀ s t a b ns ms, parse s = .ok a → parse t = .ok b →
      List.Forall₂ Text.U64Text (Text.splitAll (Text.trim s) '.') ns →
      List.Forall₂ Text.U64Text (Text.splitAll (Text.trim t) '.') ms →
      a.cmp b = compare ((ns ++ [0, 0, 0]).take 3) ((ms ++ [0, 0, 0]).take 3) ∧
      ((a == b) = true ↔ a.cmp b = .eq)) ∧
    (∀ major minor, major < Nat.pow 2 64 → minor < Nat.pow 2 64 →
      (ofParts major minor).raw =
        (if minor = 0 then toString major else toString major ++ "." ++ toString minor) ∧
      parse (ofParts major minor).raw = .ok (ofParts major minor)) := by
  refine ⟨parse_ok_iff, fun s v h => ⟨(parse_eq_ok h).1, parse_raw h, cmp_self v⟩,
    fun s t a b ns ms ha hb hns hms => ⟨?_, beq_iff_cmp_eq a b⟩,
    fun major minor hmajor hminor => ⟨rfl, parse_ofParts major minor hmajor hminor⟩⟩
  -- a text names one number, so the values given are those the reading found
  have hunique : Relator.RightUnique (List.Forall₂ Text.U64Text) :=
    Relator.RightUnique.forall₂ fun _ _ _ => Text.U64Text.unique
  obtain ⟨-, ns', hns', -, ha3⟩ := parse_eq_ok ha
  obtain ⟨-, ms', hms', -, hb3⟩ := parse_eq_ok hb
  rw [cmp_eq_compare, ha3, hb3, hunique hns hns', hunique hms hms']

/-- `7` and ` 7.0.0.5 ` read as one version, the fourth component ignored; the version of 8 and 1
displays as `8.1` and reads back from it -/
theorem seven_equals_padded_seven :
    let a : Version := ⟨"7", 7, 0, 0⟩
    let b : Version := ⟨"7.0.0.5", 7, 0, 0⟩
    parse "7" = .ok a ∧ parse " 7.0.0.5 " = .ok b ∧ a.cmp b = .eq ∧ (a == b) = true ∧
      (ofParts 8 1).raw = "8.1" ∧ parse (ofParts 8 1).raw = .ok (ofParts 8 1) := by
  intro a b
  have ha : parse "7" = .ok a := rfl
  have hb : parse " 7.0.0.5 " = .ok b := rfl
  have hns : List.Forall₂ Text.U64Text (Text.splitAll (Text.trim "7") '.') [7] :=
    (components?_eq_some_iff _ _).mp rfl
  have hms : List.Forall₂ Text.U64Text (Text.splitAll (Text.trim " 7.0.0.5 ") '.') [7, 0, 0, 5] :=
    (components?_eq_some_iff _ _).mp rfl
  obtain ⟨hcmp, hbeq⟩ := parse_display_order.2.2.1 _ _ a b _ _ ha hb hns hms
  obtain ⟨hraw, hparse⟩ := parse_display_order.2.2.2 8 1 (by decide) (by decide)
  have heq : a.cmp b = .eq := hcmp.trans rfl
  exact ⟨ha, hb, heq, hbeq.mpr heq, hraw.trans rfl, hparse⟩

end Compiler.Version

end BuildRecipe

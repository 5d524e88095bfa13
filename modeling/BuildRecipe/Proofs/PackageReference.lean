/-
Package references as texts. Splitting a text at the first occurrence of a separator cuts it into
the part before, which holds no separator, and the part after (`Text.splitOnce_eq_some`), and a
text with no separator is not cut (`Text.splitOnce_eq_none_iff`); so a text is cut exactly where
its first separator stands (`Text.splitOnce_of_eq`).

A reference reads back from its written form exactly when it is canonical (`Reference.Canonical`):
its name is a valid package name, its version is not empty and holds no `@`, and its user and
channel, when it has them, are not empty, the user holding no `/`. Reading a text gives a
reference exactly when the text is the written form of a canonical reference, and then that
reference (`Reference.parse_eq_ok_iff`): the text splits at its first `@`, the qualifier at its
first `/`, and the rest at its first `/`, and none of these can fall inside a part that may not
hold it; so the texts that read as references are the `N/V` and `N/V@U/C` of valid parts
(`Reference.exists_parse_eq_ok_iff`).
-/
import Mathlib.Data.List.TakeDrop
import Mathlib.Data.List.TakeWhile
import BuildRecipe.Package.Reference

namespace BuildRecipe

namespace Text

/-! ## Splitting at the first separator -/

section SplitOnce

variable {s : String} {sep : Char} {a b : String}

/-- a cut text is the part before, the separator and the part after, and the part before holds no
separator -/
theorem splitOnce_eq_some (h : splitOnce s sep = some (a, b)) :
    s.toList = a.toList ++ sep :: b.toList ∧ sep ∉ a.toList := by
  unfold splitOnce at h
  rw [List.span_eq_takeWhile_dropWhile] at h
  split at h
  · cases h
  · rename_i before x after heq
    cases h
    obtain ⟨htake, hdrop⟩ := Prod.mk.inj heq
    -- the walk stopped at `x`, a separator, after a run of other characters
    have hx : x = sep := by
      have := List.head?_dropWhile_not (· ≠ sep) s.toList
      rw [hdrop] at this
      simpa using this
    have hbefore : ∀ c ∈ before, c ≠ sep := by
      intro c hc
      rw [← htake] at hc
      simpa using List.mem_takeWhile_imp hc
    subst hx
    refine ⟨?_, fun hmem => hbefore x (by simpa using hmem) rfl⟩
    rw [String.toList_ofList, String.toList_ofList, ← htake, ← hdrop, List.takeWhile_append_dropWhile]

/-- a text is not cut exactly when it holds no separator -/
theorem splitOnce_eq_none_iff : splitOnce s sep = none ↔ sep ∉ s.toList := by
  unfold splitOnce
  rw [List.span_eq_takeWhile_dropWhile]
  split
  · rename_i before heq
    have hdrop := (Prod.mk.inj heq).2
    simp only [true_iff]
    intro hmem
    simpa using List.dropWhile_eq_nil_iff.mp hdrop sep hmem
  · rename_i before x after heq
    simp only [reduceCtorEq, false_iff, not_not]
    have hx : x ∈ s.toList :=
      (List.dropWhile_suffix (· ≠ sep)).subset (by rw [(Prod.mk.inj heq).2]; exact List.mem_cons_self)
    have := List.head?_dropWhile_not (· ≠ sep) s.toList
    rw [(Prod.mk.inj heq).2] at this
    simpa using (show x = sep by simpa using this) ▸ hx

/-- a text is cut at its first separator -/
theorem splitOnce_of_eq (hs : s.toList = a.toList ++ sep :: b.toList) (ha : sep ∉ a.toList) :
    splitOnce s sep = some (a, b) := by
  have hall : ∀ c ∈ a.toList, decide (c ≠ sep) = true := fun c hc => by
    simp only [ne_eq, decide_eq_true_eq]
    rintro rfl
    exact ha hc
  unfold splitOnce
  rw [List.span_eq_takeWhile_dropWhile, hs, List.takeWhile_append_of_pos hall,
    List.dropWhile_append_of_pos hall]
  simp

end SplitOnce

end Text

namespace Package

/-! ## Valid names -/

namespace Name

/-- a valid package name: not empty, at most 101 bytes, starting with a lowercase ASCII letter, a
digit or `_`, and holding only those and `-`, `+`, `.` -/
def Valid (s : String) : Prop :=
  s ≠ "" ∧ s.utf8ByteSize ≤ maxNameBytes ∧ (∀ c, s.toList.head? = some c → isNameStart c = true) ∧
    ∀ c ∈ s.toList, isNameChar c = true

/-- the checks of a name find no problem exactly when it is valid -/
theorem problem?_eq_none_iff (s : String) : problem? s = none ↔ Valid s := by
  unfold problem? Valid
  rcases hs : s.toList with _ | ⟨c, cs⟩
  · simp [String.toList_eq_nil_iff.mp hs]
  · have hne : s ≠ "" := by
      rintro rfl
      simp at hs
    simp only [List.head?_cons, Option.some.injEq, forall_eq', ne_eq, hne, not_false_eq_true,
      true_and]
    -- the checks in order: the length, the first character, every character
    by_cases hsize : s.utf8ByteSize ≤ maxNameBytes
    · have hgt : ¬ s.utf8ByteSize > maxNameBytes := by omega
      by_cases hstart : isNameStart c = true
      · cases hfind : (c :: cs).find? (!isNameChar ·) with
        | none =>
          have hall := List.find?_eq_none.mp hfind
          simp only [hgt, hstart, ite_false, Bool.not_true, Bool.false_eq_true, true_iff]
          exact ⟨hsize, trivial, fun x hx => by simpa using hall x hx⟩
        | some bad =>
          have hbad := List.find?_some hfind
          simp only [hgt, hstart, ite_false, Bool.not_true, Bool.false_eq_true, reduceCtorEq,
            false_iff, not_and]
          exact fun _ _ hall => by simp [hall bad (List.mem_of_find?_eq_some hfind)] at hbad
      · simp [hgt, hstart]
    · simp [hsize, show s.utf8ByteSize > maxNameBytes by omega]

/-- a valid name holds neither `/` nor `@` -/
theorem Valid.not_mem {s : String} (h : Valid s) {c : Char} (hc : c = '/' ∨ c = '@') :
    c ∉ s.toList := fun hmem => by
  have := h.2.2.2 c hmem
  rcases hc with rfl | rfl <;> exact absurd this (by decide)

/-- the text of every name is valid -/
theorem valid_val (n : Name) : Valid n.val := (problem?_eq_none_iff n.val).mp n.valid

/-- reading a text gives the name of that text exactly when the text is valid -/
theorem parse_eq_ok_iff (s : String) (n : Name) : parse s = .ok n ↔ n.val = s ∧ Valid s := by
  rw [← problem?_eq_none_iff]
  unfold parse
  split
  · rename_i m hp
    simp [hp]
  · rename_i hp
    constructor
    · rintro ⟨⟩
      exact ⟨rfl, hp⟩
    · rintro ⟨rfl, -⟩
      rfl

end Name

namespace Reference

/-! ## Canonical references -/

/-- a reference that reads back from its written form: its name is valid, its version is not empty
and holds no `@`, and its user and channel, if any, are not empty, the user holding no `/` -/
def Canonical (r : Reference) : Prop :=
  Name.Valid r.name.val ∧ r.version ≠ "" ∧ '@' ∉ r.version.toList ∧
    ∀ u c, r.userChannel = some (u, c) → u ≠ "" ∧ '/' ∉ u.toList ∧ c ≠ ""

/-- the characters of the written form of an unqualified reference -/
theorem toList_display_none {r : Reference} (h : r.userChannel = none) :
    r.display.toList = r.name.val.toList ++ '/' :: r.version.toList := by
  simp [display, h]

/-- the characters of the written form of a reference in a user's channel -/
theorem toList_display_some {r : Reference} {u c : String} (h : r.userChannel = some (u, c)) :
    r.display.toList = r.name.val.toList ++ '/' :: (r.version.toList ++ '@' :: (u.toList ++ '/' :: c.toList)) := by
  simp [display, h]

/-! ## Reading a reference -/

/-- a qualifier is read by splitting the text at its first `@`, then the qualifier at its first
`/` into a user and a channel, neither empty; with no `@` the whole text is the pinned part -/
theorem splitQualifier_eq_ok {s pinned : String} {uc : Option (String × String)}
    (h : splitQualifier s = .ok (pinned, uc)) :
    (uc = none ∧ pinned = s ∧ '@' ∉ s.toList) ∨
    (∃ u c q, uc = some (u, c) ∧ Text.splitOnce s '@' = some (pinned, q) ∧
      Text.splitOnce q '/' = some (u, c) ∧ u ≠ "" ∧ c ≠ "") := by
  unfold splitQualifier at h
  split at h
  · rename_i hnone
    cases h
    exact .inl ⟨rfl, rfl, Text.splitOnce_eq_none_iff.mp hnone⟩
  · rename_i p q hsome
    split at h
    · cases h
    · rename_i u c hsplit
      split at h
      · cases h
      · rename_i hfilled
        cases h
        simp only [Bool.or_eq_true, String.isEmpty_iff, not_or] at hfilled
        exact .inr ⟨u, c, q, rfl, hsome, hsplit, hfilled⟩

/-- what a successful reading found: the pinned part before the qualifier splits at its first `/`
into a valid name and a version that is not empty -/
theorem parse_eq_ok {s : String} {r : Reference} (h : parse s = .ok r) :
    ∃ pinned, splitQualifier s = .ok (pinned, r.userChannel) ∧
      Text.splitOnce pinned '/' = some (r.name.val, r.version) ∧ r.version ≠ "" ∧
      Name.Valid r.name.val := by
  simp only [parse] at h
  split at h
  · cases h
  · rename_i pinned uc hq
    split at h
    · cases h
    · rename_i name version hsplit
      split at h
      · cases h
      · rename_i hversion
        cases hn : Name.parse name with
        | error e => simp [hn, bind, Except.bind] at h
        | ok n =>
          simp only [hn, bind, Except.bind, pure, Except.pure, Except.ok.injEq] at h
          subst h
          obtain ⟨rfl, hvalid⟩ := (Name.parse_eq_ok_iff name n).mp hn
          exact ⟨pinned, hq, hsplit, by simpa using hversion, hvalid⟩

/-- a canonical reference reads back from its written form -/
theorem parse_display {r : Reference} (h : r.Canonical) : parse r.display = .ok r := by
  obtain ⟨hname, hversion, hat, huc⟩ := h
  have hslash : '/' ∉ r.name.val.toList := hname.not_mem (.inl rfl)
  -- the pinned part `name/version` holds no `@`
  have hpinned : '@' ∉ r.name.val.toList ++ '/' :: r.version.toList := by
    simp only [List.mem_append, List.mem_cons, not_or]
    exact ⟨hname.not_mem (.inr rfl), by decide, hat⟩
  have hread : Name.parse r.name.val = .ok r.name := (Name.parse_eq_ok_iff _ _).mpr ⟨rfl, hname⟩
  have hversion' : r.version.isEmpty = false := by simpa using hversion
  cases huser : r.userChannel with
  | none =>
    have hq : splitQualifier r.display = .ok (r.display, none) := by
      rw [splitQualifier, Text.splitOnce_eq_none_iff.mpr (by rwa [toList_display_none huser])]
    have hs : Text.splitOnce r.display '/' = some (r.name.val, r.version) :=
      Text.splitOnce_of_eq (toList_display_none huser) hslash
    simp only [parse, hq, hs, hversion', hread, Bool.false_eq_true, ite_false]
    rw [← huser]
    rfl
  | some uc =>
    obtain ⟨u, c⟩ := uc
    obtain ⟨hu, huslash, hc⟩ := huc u c huser
    -- the text splits at the `@` after the version, the qualifier at the `/` after the user
    let pinned : String := r.name.val ++ "/" ++ r.version
    let qualifier : String := u ++ "/" ++ c
    have hpinnedChars : pinned.toList = r.name.val.toList ++ '/' :: r.version.toList := by simp [pinned]
    have hat' : Text.splitOnce r.display '@' = some (pinned, qualifier) := by
      refine Text.splitOnce_of_eq ?_ (by rwa [hpinnedChars])
      rw [toList_display_some huser, hpinnedChars]
      simp [qualifier]
    have hslash' : Text.splitOnce qualifier '/' = some (u, c) :=
      Text.splitOnce_of_eq (by simp [qualifier]) huslash
    have hfilled : (u.isEmpty || c.isEmpty) = false := by simpa using ⟨hu, hc⟩
    have hq : splitQualifier r.display = .ok (pinned, some (u, c)) := by
      simp only [splitQualifier, hat', hslash', hfilled, Bool.false_eq_true, ite_false]
    have hs : Text.splitOnce pinned '/' = some (r.name.val, r.version) :=
      Text.splitOnce_of_eq hpinnedChars hslash
    simp only [parse, hq, hs, hversion', hread, Bool.false_eq_true, ite_false]
    rw [← huser]
    rfl

/-- a text that reads as a reference is the written form of that reference, which is canonical -/
theorem display_of_parse {s : String} {r : Reference} (h : parse s = .ok r) :
    r.display = s ∧ r.Canonical := by
  obtain ⟨pinned, hq, hs, hversion, hname⟩ := parse_eq_ok h
  obtain ⟨hpinned, hslash⟩ := Text.splitOnce_eq_some hs
  rcases splitQualifier_eq_ok hq with ⟨huser, rfl, hat⟩ | ⟨u, c, q, huser, hat, hsplit, hu, hc⟩
  · -- no qualifier: the text is `name/version`, with no `@` anywhere
    refine ⟨String.toList_inj.mp ?_, hname, hversion, fun hmem => hat ?_, fun u c hsome => ?_⟩
    · rw [toList_display_none huser, hpinned]
    · rw [hpinned]
      simp [hmem]
    · rw [huser] at hsome
      cases hsome
  · -- a qualifier: the text is `name/version@user/channel`, the first `@` after the version
    obtain ⟨htext, hpinnedAt⟩ := Text.splitOnce_eq_some hat
    obtain ⟨hqualifier, huslash⟩ := Text.splitOnce_eq_some hsplit
    refine ⟨String.toList_inj.mp ?_, hname, hversion, fun hmem => hpinnedAt ?_, fun u' c' hsome => ?_⟩
    · rw [toList_display_some huser, htext, hpinned, hqualifier]
      simp
    · rw [hpinned]
      simp [hmem]
    · rw [huser] at hsome
      cases hsome
      exact ⟨hu, huslash, hc⟩

/-- reading a text gives a reference exactly when the text is the written form of that reference
and the reference is canonical -/
theorem parse_eq_ok_iff (s : String) (r : Reference) : parse s = .ok r ↔ r.display = s ∧ r.Canonical :=
  ⟨display_of_parse, fun ⟨hs, hr⟩ => hs ▸ parse_display hr⟩

/-- the texts that read as references: `N/V` and `N/V@U/C` with `N` a valid package name, `V`
not empty and without `@`, `U` not empty and without `/`, and `C` not empty -/
theorem exists_parse_eq_ok_iff (s : String) :
    (∃ r, parse s = .ok r) ↔
      (∃ n v, Name.Valid n ∧ v ≠ "" ∧ '@' ∉ v.toList ∧ s = n ++ "/" ++ v) ∨
      (∃ n v u c, Name.Valid n ∧ v ≠ "" ∧ '@' ∉ v.toList ∧ u ≠ "" ∧ '/' ∉ u.toList ∧ c ≠ "" ∧
        s = n ++ "/" ++ v ++ "@" ++ u ++ "/" ++ c) := by
  constructor
  · rintro ⟨r, hr⟩
    obtain ⟨rfl, hname, hversion, hat, huc⟩ := display_of_parse hr
    cases huser : r.userChannel with
    | none => exact .inl ⟨_, _, hname, hversion, hat, by simp [display, huser]⟩
    | some uc =>
      obtain ⟨hu, huslash, hc⟩ := huc uc.1 uc.2 huser
      exact .inr ⟨_, _, _, _, hname, hversion, hat, hu, huslash, hc,
        by simp [display, huser, String.append_assoc]⟩
  · -- the reference of the parts is canonical, and the text is its written form
    rintro (⟨n, v, hname, hversion, hat, rfl⟩ | ⟨n, v, u, c, hname, hversion, hat, hu, huslash, hc, rfl⟩)
    · have hn := (Name.problem?_eq_none_iff n).mpr hname
      have hr := parse_display (r := { name := ⟨n, hn⟩, version := v })
        ⟨hname, hversion, hat, fun u c hsome => by cases hsome⟩
      have hdisplay : ({ name := ⟨n, hn⟩, version := v } : Reference).display = n ++ "/" ++ v := by
        simp [display]
      rw [hdisplay] at hr
      exact ⟨_, hr⟩
    · have hn := (Name.problem?_eq_none_iff n).mpr hname
      have hr := parse_display (r := { name := ⟨n, hn⟩, version := v, userChannel := some (u, c) })
        ⟨hname, hversion, hat, fun u' c' hsome => by cases hsome; exact ⟨hu, huslash, hc⟩⟩
      have hdisplay : ({ name := ⟨n, hn⟩, version := v, userChannel := some (u, c) } : Reference).display =
          n ++ "/" ++ v ++ "@" ++ u ++ "/" ++ c := by
        simp [display, String.append_assoc]
      rw [hdisplay] at hr
      exact ⟨_, hr⟩

end Reference

end Package

end BuildRecipe

/-
Words and occurrences in a text, with their positions.

The words of a text are its maximal runs of non-blank characters. Blanks before a word are
passed over (`Text.wordsOf_blank_append`), and a run of non-blank characters that a blank or the
end closes is the next word (`Text.wordsOf_word_append`). Listing the words with the position of
each one's first character (`Text.wordsAt`) gives the same words (`Text.map_snd_wordsAt`); the
words of the text from a position on are those of the whole text that start there or later,
after at most one piece of a word that starts before it (`Text.wordsAt_drop`).

A searched text occurs first at the position `findInfix?` gives (`Text.findInfix?_eq_some_iff`)
and occurs nowhere when `findInfix?` finds nothing (`Text.findInfix?_eq_none_iff`). Lowering
ASCII letters keeps every character's UTF-8 size, so a byte offset in the lowered text is the
same offset in the text itself (`Text.utf8ByteSize_ofList_map_toLower`).
-/
import Mathlib.Data.List.SplitBy
import Mathlib.Data.List.TakeWhile
import BuildRecipe.Text.Basic
import BuildRecipe.Text.Blank
import BuildRecipe.Text.Case

namespace BuildRecipe.Text

/-! ## Words -/

/-- the relation `wordsOf` splits by: both characters blank, or neither -/
theorem isChain_of_forall_isBlank {w : List Char} {b : Bool} (hw : ∀ c ∈ w, isBlank c = b) :
    w.IsChain fun x y => (isBlank x == isBlank y) = true :=
  List.Pairwise.isChain (List.pairwise_of_forall_mem_list fun x hx y hy => by simp [hw x hx, hw y hy])

/-- the first element `dropWhile` leaves fails the test -/
theorem eq_false_of_mem_head?_dropWhile {α : Type} {p : α → Bool} {l : List α} {x : α}
    (hx : x ∈ (l.dropWhile p).head?) : p x = false := by
  have hfirst := List.head?_dropWhile_not p l
  rw [Option.mem_def] at hx
  simpa [hx] using hfirst

/-- a run of blanks, or of non-blank characters, that the next character does not continue is one
group of the split `wordsOf` starts from -/
theorem splitBy_run_append {w r : List Char} {b : Bool} (hne : w ≠ []) (hw : ∀ c ∈ w, isBlank c = b)
    (hr : ∀ c ∈ r.head?, isBlank c = !b) :
    (w ++ r).splitBy (fun x y => isBlank x == isBlank y) =
      w :: r.splitBy (fun x y => isBlank x == isBlank y) := by
  rw [List.splitBy_append, List.splitBy_of_isChain hne (isChain_of_forall_isBlank hw)]
  · rfl
  intro x hx y hy
  simp [hw x (List.mem_of_mem_getLast? hx), hr y hy]

/-- blanks before a word are passed over -/
theorem wordsOf_blank_append {b r : List Char} (hb : ∀ c ∈ b, isBlank c = true)
    (hr : ∀ c ∈ r.head?, isBlank c = false) : wordsOf (b ++ r) = wordsOf r := by
  cases b with
  | nil => rfl
  | cons c b =>
    -- the blanks are one group, which holds a blank and so is no word
    unfold wordsOf
    rw [splitBy_run_append (List.cons_ne_nil c b) hb hr, List.filter_cons_of_neg]
    simp [hb c List.mem_cons_self]

/-- a run of non-blank characters that a blank or the end closes is the next word -/
theorem wordsOf_word_append {w r : List Char} (hne : w ≠ []) (hw : ∀ c ∈ w, isBlank c = false)
    (hr : ∀ c ∈ r.head?, isBlank c = true) : wordsOf (w ++ r) = w :: wordsOf r := by
  have hkeep : w.any isBlank = false := by simpa using hw
  unfold wordsOf
  rw [splitBy_run_append hne hw hr, List.filter_cons_of_pos (by simp [hkeep])]

/-- a blank is passed over -/
theorem wordsOf_cons_blank {c : Char} (hc : isBlank c = true) (cs : List Char) :
    wordsOf (c :: cs) = wordsOf cs := by
  -- pass over the whole run of blanks, from `c` and from the character after it
  have hrest : ∀ x ∈ (cs.dropWhile isBlank).head?, isBlank x = false := fun _ hx =>
    eq_false_of_mem_head?_dropWhile hx
  have hrun : ∀ x ∈ cs.takeWhile isBlank, isBlank x = true := fun x hx =>
    List.mem_takeWhile_imp hx
  have hcs := (List.takeWhile_append_dropWhile (p := isBlank) (l := cs)).symm
  calc wordsOf (c :: cs)
      = wordsOf ((c :: cs.takeWhile isBlank) ++ cs.dropWhile isBlank) := by
        rw [List.cons_append, ← hcs]
    _ = wordsOf (cs.dropWhile isBlank) := wordsOf_blank_append (by simpa [hc] using hrun) hrest
    _ = wordsOf cs := by
        rw [← wordsOf_blank_append hrun hrest, ← hcs]

/-! ## Words with their positions -/

/-- the words of a text with the position of each one's first character, `k` being the
position of the text's first character -/
def wordsAt (k : Nat) : List Char → List (Nat × List Char)
  | [] => []
  | c :: cs =>
    if hc : isBlank c then wordsAt (k + 1) cs
    else
      (k, (c :: cs).takeWhile (!isBlank ·)) ::
        wordsAt (k + ((c :: cs).takeWhile (!isBlank ·)).length) ((c :: cs).dropWhile (!isBlank ·))
termination_by cs => cs.length
decreasing_by
  · simp
  · -- the word takes at least its first character
    have hdrop : (c :: cs).dropWhile (!isBlank ·) = cs.dropWhile (!isBlank ·) :=
      List.dropWhile_cons_of_pos (by simpa using hc)
    rw [hdrop]
    exact Nat.lt_succ_of_le (List.dropWhile_suffix _).length_le

section WordsAt

variable {k : Nat} {c : Char} {cs : List Char}

theorem wordsAt_nil : wordsAt k [] = [] := by
  rw [wordsAt.eq_def]

theorem wordsAt_cons_blank (hc : isBlank c = true) : wordsAt k (c :: cs) = wordsAt (k + 1) cs := by
  rw [wordsAt.eq_def]
  exact dif_pos hc

theorem wordsAt_cons_word (hc : isBlank c = false) :
    wordsAt k (c :: cs) = (k, (c :: cs).takeWhile (!isBlank ·)) ::
      wordsAt (k + ((c :: cs).takeWhile (!isBlank ·)).length) ((c :: cs).dropWhile (!isBlank ·)) := by
  rw [wordsAt.eq_def]
  exact dif_neg (by simp [hc])

/-- the run of non-blank characters a text starts with, and the rest, which starts blank -/
theorem takeWhile_word_append {w r : List Char} (hw : ∀ c ∈ w, isBlank c = false)
    (hr : ∀ c ∈ r.head?, isBlank c = true) :
    (w ++ r).takeWhile (!isBlank ·) = w ∧ (w ++ r).dropWhile (!isBlank ·) = r := by
  have hpos : ∀ a ∈ w, (!isBlank a) = true := fun a ha => by simp [hw a ha]
  rw [List.takeWhile_append_of_pos hpos, List.dropWhile_append_of_pos hpos]
  cases r with
  | nil => simp
  | cons d r => simp [hr d rfl]

/-- the run of non-blank characters a text starts with, and what it leaves, which starts blank -/
theorem word_split (cs : List Char) :
    (∀ x ∈ cs.takeWhile (!isBlank ·), isBlank x = false) ∧
      ∀ x ∈ (cs.dropWhile (!isBlank ·)).head?, isBlank x = true := by
  refine ⟨fun x hx => by simpa using List.mem_takeWhile_imp hx, fun x hx => ?_⟩
  simpa using eq_false_of_mem_head?_dropWhile hx

/-- every word starts at or after the text's first position -/
theorem le_of_mem_wordsAt {t : Nat × List Char} (ht : t ∈ wordsAt k cs) : k ≤ t.1 := by
  fun_induction wordsAt k cs with
  | case1 => cases ht
  | case2 k c cs _ ih => exact Nat.le_of_succ_le (ih ht)
  | case3 k c cs _ ih =>
    rcases List.mem_cons.mp ht with rfl | ht
    · exact Nat.le_refl _
    · exact Nat.le_trans (Nat.le_add_right _ _) (ih ht)

/-- the positioned words are the words -/
theorem map_snd_wordsAt (k : Nat) (cs : List Char) : (wordsAt k cs).map Prod.snd = wordsOf cs := by
  fun_induction wordsAt k cs with
  | case1 => rfl
  | case2 k c cs hc ih => rw [ih, wordsOf_cons_blank hc]
  | case3 k c cs hc ih =>
    obtain ⟨hw, hr⟩ := word_split (c :: cs)
    have hne : (c :: cs).takeWhile (!isBlank ·) ≠ [] := by
      rw [List.takeWhile_cons_of_pos (by simpa using hc)]
      exact List.cons_ne_nil _ _
    rw [List.map_cons, ih, ← wordsOf_word_append hne hw hr, List.takeWhile_append_dropWhile]

/-- every word of a text starting at `k` starts at or after any `j ≤ k` -/
theorem filter_wordsAt_of_le {j : Nat} (h : j ≤ k) :
    (wordsAt k cs).filter (fun t => j ≤ t.1) = wordsAt k cs :=
  List.filter_eq_self.mpr fun t ht => by simpa using Nat.le_trans h (le_of_mem_wordsAt ht)

/-- a word closed by a blank or the end, with its position -/
theorem wordsAt_word_append {w r : List Char} (hne : w ≠ []) (hw : ∀ c ∈ w, isBlank c = false)
    (hr : ∀ c ∈ r.head?, isBlank c = true) :
    wordsAt k (w ++ r) = (k, w) :: wordsAt (k + w.length) r := by
  obtain ⟨c, w', rfl⟩ := List.exists_cons_of_ne_nil hne
  obtain ⟨htake, hdrop⟩ := takeWhile_word_append hw hr
  rw [List.cons_append, wordsAt_cons_word (hw c List.mem_cons_self), ← List.cons_append, htake, hdrop]

/-- the words of a text from its position `i` on: the piece of a word that starts before `i` and
runs past it, if there is one, then the words that start at `i` or later -/
theorem wordsAt_drop (k i : Nat) (cs : List Char) :
    ∃ P, P.Sublist [(k + i, (cs.drop i).takeWhile (!isBlank ·))] ∧
      wordsAt (k + i) (cs.drop i) = P ++ (wordsAt k cs).filter (fun t => k + i ≤ t.1) := by
  -- the induction follows `wordsAt`; the position `i` moves back by what each step reads
  fun_induction wordsAt k cs generalizing i with
  | case1 k => exact ⟨[], List.nil_sublist _, by simp [wordsAt_nil]⟩
  | case2 k c cs hc ih =>
    cases i with
    | zero =>
      refine ⟨[], List.nil_sublist _, ?_⟩
      simp [filter_wordsAt_of_le, wordsAt_cons_blank hc]
    | succ i =>
      have hk : k + (i + 1) = k + 1 + i := by omega
      rw [hk, List.drop_succ_cons]
      exact ih i
  | case3 k c cs hc ih =>
    -- the first word `w` and the rest `r` that it leaves, which starts blank
    obtain ⟨hwb, hrb⟩ := word_split (c :: cs)
    have hlen : 0 < ((c :: cs).takeWhile (!isBlank ·)).length := by
      rw [List.takeWhile_cons_of_pos (by simpa using hc)]
      exact Nat.succ_pos _
    have hcs := List.takeWhile_append_dropWhile (p := (!isBlank ·)) (l := c :: cs)
    generalize (c :: cs).takeWhile (!isBlank ·) = w at *
    generalize (c :: cs).dropWhile (!isBlank ·) = r at *
    rw [← hcs]
    rcases Nat.eq_zero_or_pos i with rfl | hi
    · exact ⟨[], List.nil_sublist _, by
        simp [filter_wordsAt_of_le, wordsAt_word_append (List.ne_nil_of_length_pos hlen) hwb hrb]⟩
    -- the first word starts before `i`, so only the rest can start at `i` or later
    rw [List.filter_cons_of_neg (by simp; omega)]
    rcases Nat.lt_or_ge i w.length with hlt | hge
    · -- `i` falls inside the first word: the word's rest is the piece before the later words
      have hne : w.drop i ≠ [] := by simp; omega
      have hdw : ∀ x ∈ w.drop i, isBlank x = false := fun x hx => hwb x (List.mem_of_mem_drop hx)
      have hk : k + i + (w.drop i).length = k + w.length := by simp; omega
      refine ⟨[(k + i, w.drop i)], ?_, ?_⟩
      · rw [List.drop_append_of_le_length hlt.le, (takeWhile_word_append hdw hrb).1]
      · rw [List.drop_append_of_le_length hlt.le, wordsAt_word_append hne hdw hrb, hk,
          filter_wordsAt_of_le (by omega)]
        rfl
    · -- `i` is past the first word: the rest from `i - |w|` on
      have hk : k + i = k + w.length + (i - w.length) := by omega
      rw [List.drop_append, List.drop_eq_nil_of_le hge, List.nil_append, hk]
      exact ih _

end WordsAt

/-! ## Occurrences -/

section FindInfix

variable {pat cs : List Char} {c : Char}

theorem findInfix?_cons_eq_some_zero (h : pat <+: c :: cs) : findInfix? pat (c :: cs) = some 0 := by
  rw [findInfix?, if_pos (List.isPrefixOf_iff_prefix.mpr h)]

theorem findInfix?_cons_eq_map_succ (h : ¬pat <+: c :: cs) :
    findInfix? pat (c :: cs) = (findInfix? pat cs).map (· + 1) := by
  rw [findInfix?, if_neg (mt List.isPrefixOf_iff_prefix.mp h)]

/-- `findInfix?` gives the first position from which the text starts with the searched one -/
theorem findInfix?_eq_some_iff {i : Nat} :
    findInfix? pat cs = some i ↔ pat <+: cs.drop i ∧ ∀ j < i, ¬pat <+: cs.drop j := by
  induction cs generalizing i with
  | nil =>
    cases pat with
    | nil => cases i <;> simp [findInfix?]; exact ⟨0, by omega⟩
    | cons p ps => simp [findInfix?]
  | cons c cs ih =>
    by_cases hp : pat <+: c :: cs
    · rw [findInfix?_cons_eq_some_zero hp]
      cases i with
      | zero => simp [hp]
      | succ i => simp only [Option.some.injEq]; exact iff_of_false (by omega) fun h => h.2 0 (by omega) hp
    · rw [findInfix?_cons_eq_map_succ hp]
      cases i with
      | zero => simp [hp]
      | succ i =>
        -- position `0` is not a start, so the search is the one in the tail, shifted by one
        rw [Option.map_eq_some_iff, Nat.forall_lt_succ_left, List.drop_succ_cons, List.drop_zero]
        simp only [Nat.add_right_cancel_iff, exists_eq_right, List.drop_succ_cons, ih]
        exact ⟨fun ⟨hstart, hbefore⟩ => ⟨hstart, hp, hbefore⟩, fun ⟨hstart, _, hbefore⟩ =>
          ⟨hstart, hbefore⟩⟩

/-- `findInfix?` finds nothing exactly when the searched text starts at no position -/
theorem findInfix?_eq_none_iff : findInfix? pat cs = none ↔ ∀ i, ¬pat <+: cs.drop i := by
  induction cs with
  | nil => cases pat <;> simp [findInfix?]
  | cons c cs ih =>
    by_cases hp : pat <+: c :: cs
    · rw [findInfix?_cons_eq_some_zero hp]
      exact iff_of_false (by simp) fun h => h 0 hp
    · rw [findInfix?_cons_eq_map_succ hp, Option.map_eq_none_iff, ih]
      constructor
      · rintro h (_ | i)
        · exact hp
        · exact h i
      · intro h i
        exact h (i + 1)

end FindInfix

/-! ## Byte offsets under ASCII lower-casing -/

/-- lower-casing an ASCII capital gives an ASCII letter, one byte long like the capital; every
other character is kept -/
theorem utf8Size_toLower (c : Char) : c.toLower.utf8Size = c.utf8Size := by
  unfold Char.toLower
  split
  · next h =>
    have hc : c.utf8Size = 1 := Char.utf8Size_eq_one_iff.mpr (by
      simp only [UInt32.le_iff_toNat_le] at h ⊢; simp at h ⊢; omega)
    rw [hc, Char.utf8Size_eq_one_iff]
    simp only [UInt32.le_iff_toNat_le] at h ⊢
    simp at h ⊢
    omega
  · rfl

theorem utf8ByteSize_ofList_map_toLower (cs : List Char) :
    (String.ofList (cs.map Char.toLower)).utf8ByteSize = (String.ofList cs).utf8ByteSize := by
  induction cs with
  | nil => rfl
  | cons c cs ih =>
    simp only [List.map_cons, String.ofList_cons, String.utf8ByteSize_append,
      String.utf8ByteSize_singleton, utf8Size_toLower, ih]

end BuildRecipe.Text

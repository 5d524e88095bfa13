/-
Lookups in sorted maps.

Inserting binds one key and leaves every other lookup alone; erasing unbinds one key. Since the
keys of a map ascend, its entries are exactly its bindings (`mem_entries_iff`), and two maps with
the same bindings are one map (`ext_get?`).

For association lists with distinct keys, the first and the last binding of a key agree
(`lookup_reverse`), so applying such a list in order leaves each key at its only value.
-/
import Mathlib.Data.String.Basic
import BuildRecipe.Data.SortedMap

namespace BuildRecipe.SortedMap

variable {α : Type}

/-! ## Lookups after an update -/

theorem lookup_insertEntry_of_ne {k k' : String} (v : α) (l : List (String × α)) (h : k' ≠ k) :
    (insertEntry k v l).lookup k' = l.lookup k' := by
  have hb : (k' == k) = false := beq_eq_false_iff_ne.mpr h
  induction l with
  | nil => simp [insertEntry, List.lookup_cons, hb]
  | cons e rest ih =>
    obtain ⟨k₁, v₁⟩ := e
    simp only [insertEntry]
    split
    · simp [List.lookup_cons, hb]
    · split
      · rename_i hk
        subst hk
        simp [List.lookup_cons, hb]
      · simp only [List.lookup_cons, ih]

@[simp] theorem get?_insert (m : SortedMap α) (k k' : String) (v : α) :
    (m.insert k v).get? k' = if k' = k then some v else m.get? k' := by
  split
  · rename_i h
    subst h
    exact get?_insert_self m k' v
  · exact lookup_insertEntry_of_ne v m.entries ‹_›

theorem lookup_filter_ne (k k' : String) (l : List (String × α)) :
    (l.filter (·.1 != k)).lookup k' = if k' = k then none else l.lookup k' := by
  induction l with
  | nil => simp
  | cons e rest ih =>
    obtain ⟨k₁, v₁⟩ := e
    by_cases h₁ : k₁ = k
    · subst h₁
      rw [List.filter_cons_of_neg (by simp), ih]
      by_cases h : k' = k₁
      · simp [h]
      · simp [h, List.lookup_cons, beq_eq_false_iff_ne.mpr h]
    · rw [List.filter_cons_of_pos (by simpa using h₁), List.lookup_cons, List.lookup_cons, ih]
      by_cases h : k' = k₁
      · subst h
        simp [h₁]
      · simp [beq_eq_false_iff_ne.mpr h]

@[simp] theorem get?_erase (m : SortedMap α) (k k' : String) :
    (m.erase k).get? k' = if k' = k then none else m.get? k' :=
  lookup_filter_ne k k' m.entries

@[simp] theorem contains_iff (m : SortedMap α) (k : String) :
    m.contains k = true ↔ (m.get? k).isSome := Iff.rfl

/-! ## The entries are the bindings -/

theorem keys_nodup (m : SortedMap α) : m.keys.Nodup := m.ascending.imp ne_of_lt

/-- the entries of a map are exactly its bindings -/
theorem mem_entries_iff (m : SortedMap α) (k : String) (v : α) :
    (k, v) ∈ m.entries ↔ m.get? k = some v := by
  obtain ⟨l, h⟩ := m
  simp only [get?]
  induction l with
  | nil => simp
  | cons e rest ih =>
    obtain ⟨k₁, v₁⟩ := e
    simp only [List.map_cons, List.pairwise_cons, List.mem_map] at h
    by_cases hk : k = k₁
    · subst hk
      have hnot : (k, v) ∉ rest := fun hm => lt_irrefl k (h.1 k ⟨_, hm, rfl⟩)
      simp [hnot, eq_comm]
    · simp [List.lookup_cons, beq_eq_false_iff_ne.mpr hk, hk, ih h.2]

/-- two maps with the same bindings are the same map -/
theorem ext_get? {m₁ m₂ : SortedMap α} (h : ∀ k, m₁.get? k = m₂.get? k) : m₁ = m₂ := by
  have hp₁ : m₁.entries.Pairwise (fun a b => a.1 < b.1) := List.pairwise_map.mp m₁.ascending
  have hp₂ : m₂.entries.Pairwise (fun a b => a.1 < b.1) := List.pairwise_map.mp m₂.ascending
  -- the entries are the bindings, so the two lists hold the same pairs, each once
  have hmem : ∀ e, e ∈ m₁.entries ↔ e ∈ m₂.entries := fun ⟨k, v⟩ => by
    rw [mem_entries_iff, mem_entries_iff, h k]
  -- distinct keys make distinct entries
  have hnodup : ∀ m : SortedMap α, m.entries.Nodup := fun m =>
    List.Pairwise.of_map Prod.fst (fun _ _ hne heq => hne (congrArg Prod.fst heq)) m.keys_nodup
  have hperm := (List.perm_ext_iff_of_nodup (hnodup m₁) (hnodup m₂)).mpr hmem
  -- two orderings of one set of pairs, both ascending in the key, are one list
  have hentries : m₁.entries = m₂.entries :=
    hperm.eq_of_pairwise (fun a b _ _ hab hba => absurd (hab.trans hba) (lt_irrefl _)) hp₁ hp₂
  cases m₁
  cases m₂
  congr

/-! ## Association lists with distinct keys -/

theorem lookup_reverse {l : List (String × α)} (h : (l.map Prod.fst).Nodup) (k : String) :
    l.reverse.lookup k = l.lookup k := by
  induction l with
  | nil => rfl
  | cons e rest ih =>
    obtain ⟨k₁, v₁⟩ := e
    simp only [List.map_cons, List.nodup_cons, List.mem_map] at h
    rw [List.reverse_cons, List.lookup_append, ih h.2]
    by_cases hk : k = k₁
    · subst hk
      have hnone : rest.lookup k = none := by
        simp only [List.lookup_eq_none_iff, bne_iff_ne]
        rintro ⟨k₂, v₂⟩ hm rfl
        exact h.1 ⟨_, hm, rfl⟩
      simp [hnone]
    · simp [List.lookup_cons, beq_eq_false_iff_ne.mpr hk]

/-! ## Association lists that give each key one value -/

theorem mem_of_lookup_eq_some {l : List (String × α)} {k : String} {v : α}
    (h : l.lookup k = some v) : (k, v) ∈ l := by
  obtain ⟨l₁, l₂, rfl, -⟩ := List.lookup_eq_some_iff.mp h
  simp

theorem lookup_eq_none_iff_not_mem {l : List (String × α)} {k : String} :
    l.lookup k = none ↔ k ∉ l.map Prod.fst := by
  rw [List.lookup_eq_none_iff]
  constructor
  · intro h hk
    obtain ⟨⟨k', v⟩, hm, rfl⟩ := List.mem_map.mp hk
    simpa using h _ hm
  · rintro h ⟨k', v⟩ hm
    simp only [bne_iff_ne, ne_eq]
    rintro rfl
    exact h (List.mem_map_of_mem (f := Prod.fst) hm)

/-- in a list whose keys are distinct, every entry is what its key looks up -/
theorem lookup_eq_some_of_mem {l : List (String × α)} (h : (l.map Prod.fst).Nodup) {k : String}
    {v : α} (hm : (k, v) ∈ l) : l.lookup k = some v := by
  induction l with
  | nil => cases hm
  | cons e rest ih =>
    obtain ⟨k₁, v₁⟩ := e
    simp only [List.map_cons, List.nodup_cons, List.mem_map] at h
    rcases List.mem_cons.mp hm with he | hrest
    · obtain ⟨rfl, rfl⟩ := Prod.mk.inj he
      simp
    · -- a later entry's key differs from the first one's
      have hk : k ≠ k₁ := by
        rintro rfl
        exact h.1 ⟨_, hrest, rfl⟩
      simp [List.lookup_cons, beq_eq_false_iff_ne.mpr hk, ih h.2 hrest]

/-- a list that gives each key one value looks every key up alike in every order -/
theorem lookup_eq_of_perm {l₁ l₂ : List (String × α)} (hp : l₁.Perm l₂)
    (hfun : ∀ k a b, (k, a) ∈ l₁ → (k, b) ∈ l₁ → a = b) (k : String) :
    l₁.lookup k = l₂.lookup k := by
  have hkeys : k ∈ l₁.map Prod.fst ↔ k ∈ l₂.map Prod.fst := (hp.map Prod.fst).mem_iff
  cases h₁ : l₁.lookup k with
  | none => exact (lookup_eq_none_iff_not_mem.mpr (hkeys.not.mp (lookup_eq_none_iff_not_mem.mp h₁))).symm
  | some a =>
    cases h₂ : l₂.lookup k with
    | none =>
      have hin : k ∈ l₁.map Prod.fst := List.mem_map_of_mem (f := Prod.fst) (mem_of_lookup_eq_some h₁)
      exact absurd (hkeys.mp hin) (lookup_eq_none_iff_not_mem.mp h₂)
    | some b =>
      rw [hfun k a b (mem_of_lookup_eq_some h₁) (hp.mem_iff.mpr (mem_of_lookup_eq_some h₂))]

end BuildRecipe.SortedMap

/-
Finite maps from texts to values whose entries are kept in ascending key order (code point order,
which is also the byte order of UTF-8), so that each key is bound once. Inserting an existing key
replaces its value in place. The order is part of a map: every operation keeps it.
-/

namespace BuildRecipe

namespace SortedMap

variable {α : Type}

/-- texts are totally ordered: one that is neither below nor equal to another is above it -/
theorem gt_of_not_lt_of_ne {a b : String} (h : ¬ a < b) (hne : a ≠ b) : b < a :=
  String.not_le.mp fun hle => hne (String.le_antisymm hle (String.not_lt.mp h))

/-- the entries with `(k, v)` put at its place in key order, replacing an entry of key `k` -/
def insertEntry (k : String) (v : α) : List (String × α) → List (String × α)
  | [] => [(k, v)]
  | (k', v') :: rest =>
    if k < k' then (k, v) :: (k', v') :: rest
    else if k = k' then (k, v) :: rest
    else (k', v') :: insertEntry k v rest

theorem mem_insertEntry {k : String} {v : α} {e : String × α} {l : List (String × α)}
    (hl : (l.map Prod.fst).Pairwise (· < ·)) :
    e ∈ insertEntry k v l ↔ e = (k, v) ∨ (e ∈ l ∧ e.1 ≠ k) := by
  induction l with
  | nil => simp [insertEntry]
  | cons e₁ rest ih =>
    obtain ⟨k₁, v₁⟩ := e₁
    simp only [List.map_cons, List.pairwise_cons, List.mem_map] at hl
    have hgt : ∀ e ∈ rest, k₁ < e.1 := fun e he => hl.1 e.1 ⟨e, he, rfl⟩
    simp only [insertEntry]
    split
    · rename_i hlt
      simp only [List.mem_cons]
      constructor
      · rintro (h | h | h)
        · exact .inl h
        · exact .inr ⟨.inl h, by rw [h]; exact (String.ne_of_lt hlt).symm⟩
        · exact .inr ⟨.inr h, (String.ne_of_lt (String.lt_trans hlt (hgt e h))).symm⟩
      · rintro (h | ⟨h | h, -⟩) <;> simp [h]
    · split
      · rename_i _ heq
        subst heq
        simp only [List.mem_cons]
        constructor
        · rintro (h | h)
          · exact .inl h
          · exact .inr ⟨.inr h, (String.ne_of_lt (hgt e h)).symm⟩
        · rintro (h | ⟨h | h, hne⟩)
          · exact .inl h
          · exact absurd (by rw [h]) hne
          · exact .inr h
      · rename_i hnlt hne
        have hlt : k₁ < k := gt_of_not_lt_of_ne hnlt hne
        simp only [List.mem_cons, ih hl.2]
        constructor
        · rintro (h | h | ⟨h, hk⟩)
          · exact .inr ⟨.inl h, by rw [h]; exact String.ne_of_lt hlt⟩
          · exact .inl h
          · exact .inr ⟨.inr h, hk⟩
        · rintro (h | ⟨h | h, hk⟩)
          · exact .inr (.inl h)
          · exact .inl h
          · exact .inr (.inr ⟨h, hk⟩)

/-- putting an entry at its place keeps the keys ascending -/
theorem ascending_insertEntry (k : String) (v : α) {l : List (String × α)}
    (hl : (l.map Prod.fst).Pairwise (· < ·)) :
    ((insertEntry k v l).map Prod.fst).Pairwise (· < ·) := by
  induction l with
  | nil => simp [insertEntry]
  | cons e rest ih =>
    obtain ⟨k₁, v₁⟩ := e
    simp only [List.map_cons, List.pairwise_cons, List.mem_map] at hl
    have hgt : ∀ e ∈ rest, k₁ < e.1 := fun e he => hl.1 e.1 ⟨e, he, rfl⟩
    simp only [insertEntry]
    split
    · rename_i hlt
      simp only [List.map_cons, List.pairwise_cons, List.mem_cons, List.mem_map]
      refine ⟨?_, ⟨hl.1, hl.2⟩⟩
      rintro _ (rfl | ⟨e, he, rfl⟩)
      · exact hlt
      · exact String.lt_trans hlt (hgt e he)
    · split
      · rename_i _ heq
        subst heq
        simp only [List.map_cons, List.pairwise_cons, List.mem_map]
        exact ⟨hl.1, hl.2⟩
      · rename_i hnlt hne
        have hlt : k₁ < k := gt_of_not_lt_of_ne hnlt hne
        simp only [List.map_cons, List.pairwise_cons, List.mem_map]
        refine ⟨?_, ih hl.2⟩
        rintro _ ⟨e, he, rfl⟩
        rcases (mem_insertEntry hl.2).mp he with rfl | ⟨he, -⟩
        · exact hlt
        · exact hgt e he

end SortedMap

/-- a finite map from texts, its entries in ascending key order -/
structure SortedMap (α : Type) where
  entries : List (String × α)
  /-- the keys ascend strictly, so each is bound once -/
  ascending : (entries.map Prod.fst).Pairwise (· < ·)
deriving Repr, DecidableEq

namespace SortedMap

variable {α : Type}

/-- the map with no keys -/
def empty : SortedMap α := ⟨[], List.Pairwise.nil⟩

instance : EmptyCollection (SortedMap α) := ⟨empty⟩

instance : Inhabited (SortedMap α) := ⟨{}⟩

@[simp] theorem entries_empty : (∅ : SortedMap α).entries = [] := rfl

/-- the map with `k` bound to `v` -/
def insert (m : SortedMap α) (k : String) (v : α) : SortedMap α :=
  ⟨insertEntry k v m.entries, ascending_insertEntry k v m.ascending⟩

/-- the value bound to `k` -/
def get? (m : SortedMap α) (k : String) : Option α := m.entries.lookup k

/-- whether `k` is bound -/
def contains (m : SortedMap α) (k : String) : Bool := (m.get? k).isSome

/-- the map without `k` -/
def erase (m : SortedMap α) (k : String) : SortedMap α :=
  ⟨m.entries.filter (·.1 != k), m.ascending.sublist ((List.filter_sublist).map Prod.fst)⟩

/-- the keys, ascending -/
def keys (m : SortedMap α) : List String := m.entries.map (·.1)

/-- the number of keys -/
def size (m : SortedMap α) : Nat := m.entries.length

/-- the map holding the pairs of a list, a later pair of a key winning -/
def ofList (l : List (String × α)) : SortedMap α :=
  l.foldl (fun m (k, v) => m.insert k v) {}

theorem lookup_insertEntry_self (k : String) (v : α) (l : List (String × α)) :
    (insertEntry k v l).lookup k = some v := by
  induction l with
  | nil => simp [insertEntry]
  | cons e rest ih =>
    obtain ⟨k', v'⟩ := e
    simp only [insertEntry]
    split
    · simp
    · split
      · simp
      · rename_i h2
        have : (k == k') = false := by simpa using h2
        simp [List.lookup_cons, this, ih]

theorem get?_insert_self (m : SortedMap α) (k : String) (v : α) :
    (m.insert k v).get? k = some v :=
  lookup_insertEntry_self k v m.entries

end SortedMap

end BuildRecipe

/-
Requirement graphs, add by add. A graph takes a requirement only when no requirement of the same
name is there, so over any sequence of adds from the empty graph (`Graph.addAll`):
- an add succeeds exactly when no earlier add had its name, and a refused add changes nothing
  (`Graph.add_snd_eq_true_iff`, `Graph.add_fst_of_snd_eq_false`);
- the entries are the accepted requirements in the order they were added
  (`Graph.entries_addAll`), their names are pairwise distinct (`Graph.nodup_names_addAll`), and
  there are as many as accepted adds (`Graph.size_addAll`);
- looking a name up finds the first requirement added under it (`Graph.get?_addAll`), the one
  entry of that name (`Graph.get?_name_of_mem`).

Main statement: `Requirement.Graph.addAll_keeps_first_of_each_name`.
-/
import BuildRecipe.Requirement.Graph

namespace BuildRecipe.Requirement

namespace Graph

/-- the graph after adding the requirements in order, with the answer of each add -/
def addAll (g : Graph) : List (Package.Reference × Role) → Graph × List Bool
  | [] => (g, [])
  | a :: rest =>
    let step := g.add a.1 a.2
    let run := step.1.addAll rest
    (run.1, step.2 :: run.2)

/-- the entry a requirement becomes when it is accepted -/
def entryOf (a : Package.Reference × Role) : Entry := ⟨a.1, a.2⟩

@[simp] theorem name_entryOf (a : Package.Reference × Role) : (entryOf a).name = a.1.name.val :=
  rfl

/-! ## One add -/

section Add

variable (g : Graph) (r : Package.Reference) (role : Role)

theorem contains_eq_true_iff (n : String) : g.contains n = true ↔ n ∈ g.entries.map Entry.name := by
  simp only [contains, get?, List.find?_isSome, beq_iff_eq, List.mem_map]

theorem add_snd : (g.add r role).2 = !g.contains r.name.val := by
  unfold add
  split <;> simp_all

theorem add_fst : (g.add r role).1 =
    if g.contains r.name.val then g else ⟨g.entries ++ [⟨r, role⟩]⟩ := by
  unfold add
  split <;> rfl

/-- an add succeeds exactly when no entry has its name -/
theorem add_snd_eq_true_iff : (g.add r role).2 = true ↔ ∀ e ∈ g.entries, e.name ≠ r.name.val := by
  rw [add_snd, Bool.not_eq_true', Bool.eq_false_iff, ne_eq, contains_eq_true_iff]
  simp

/-- a refused add leaves the graph as it was -/
theorem add_fst_of_snd_eq_false (h : (g.add r role).2 = false) : (g.add r role).1 = g := by
  rw [add_snd, Bool.not_eq_false'] at h
  simp [add_fst, h]

theorem entries_add : (g.add r role).1.entries =
    g.entries ++ if (g.add r role).2 then [⟨r, role⟩] else [] := by
  rw [add_fst, add_snd]
  cases g.contains r.name.val <;> simp

theorem get?_add (n : String) : (g.add r role).1.get? n =
    (g.get? n).or (if r.name.val = n ∧ (g.add r role).2 then some ⟨r, role⟩ else none) := by
  rw [get?, entries_add, List.find?_append]
  by_cases hn : r.name.val = n
  · by_cases hadd : (g.add r role).2 <;> simp [hn, hadd, get?, Entry.name]
  · by_cases hadd : (g.add r role).2 <;> simp [hn, hadd, get?, Entry.name]

end Add

/-! ## A sequence of adds -/

section AddAll

variable (g : Graph) (l : List (Package.Reference × Role))

@[simp] theorem addAll_nil : g.addAll [] = (g, []) := rfl

@[simp] theorem addAll_cons (a : Package.Reference × Role) :
    g.addAll (a :: l) =
      (((g.add a.1 a.2).1.addAll l).1, (g.add a.1 a.2).2 :: ((g.add a.1 a.2).1.addAll l).2) := rfl

/-- the adds after a prefix continue from the graph the prefix left -/
theorem addAll_append (l' : List (Package.Reference × Role)) :
    g.addAll (l ++ l') =
      (((g.addAll l).1.addAll l').1, (g.addAll l).2 ++ ((g.addAll l).1.addAll l').2) := by
  induction l generalizing g with
  | nil => rfl
  | cons a rest ih => simp [ih]

@[simp] theorem length_addAll_snd : (g.addAll l).2.length = l.length := by
  induction l generalizing g with
  | nil => rfl
  | cons a rest ih => simp [ih]

/-- the entries after the adds are those before and the accepted requirements, in order -/
theorem entries_addAll : (g.addAll l).1.entries =
    g.entries ++ ((l.zip (g.addAll l).2).filter (·.2)).map (entryOf ·.1) := by
  induction l generalizing g with
  | nil => simp
  | cons a rest ih =>
    rw [addAll_cons, ih, entries_add]
    cases (g.add a.1 a.2).2 <;> simp [entryOf]

/-- a name is present after the adds exactly when it was before or some add had it -/
theorem mem_names_addAll (n : String) : n ∈ (g.addAll l).1.entries.map Entry.name ↔
    n ∈ g.entries.map Entry.name ∨ n ∈ l.map (·.1.name.val) := by
  induction l generalizing g with
  | nil => simp
  | cons a rest ih =>
    rw [addAll_cons, ih, entries_add]
    -- a refused add had a name that was present already
    have hrefused : (g.add a.1 a.2).2 = false → a.1.name.val ∈ g.entries.map Entry.name := by
      rw [add_snd, Bool.not_eq_false', contains_eq_true_iff]
      exact id
    cases hadd : (g.add a.1 a.2).2
    · have hpresent := hrefused hadd
      by_cases hn : n = a.1.name.val
      · subst hn
        simp [hpresent]
      · simp [hn]
    · simp [Entry.name, or_assoc]

/-- the size after the adds grows by the number of accepted adds -/
theorem size_addAll : (g.addAll l).1.size = g.size + (g.addAll l).2.count true := by
  induction l generalizing g with
  | nil => rfl
  | cons a rest ih =>
    rw [addAll_cons, ih, size, size, entries_add]
    cases (g.add a.1 a.2).2 <;> simp
    omega

/-- a lookup after the adds finds what it found before, else the first requirement added under
the name -/
theorem get?_addAll (n : String) : (g.addAll l).1.get? n =
    (g.get? n).or ((l.find? (·.1.name.val == n)).map entryOf) := by
  induction l generalizing g with
  | nil => simp
  | cons a rest ih =>
    rw [addAll_cons, ih, get?_add]
    by_cases hn : a.1.name.val = n
    · -- a refused add of the name means the name was found already
      have hfound : (g.add a.1 a.2).2 = false → (g.get? n).isSome := by
        rw [add_snd, Bool.not_eq_false', hn]
        exact id
      cases hadd : (g.add a.1 a.2).2
      · obtain ⟨e, he⟩ := Option.isSome_iff_exists.mp (hfound hadd)
        simp [he, hn]
      · simp [hn, entryOf]
    · simp [hn]

end AddAll

/-! ## Distinct names -/

/-- an add keeps the names pairwise distinct -/
theorem nodup_names_add {g : Graph} (h : (g.entries.map Entry.name).Nodup)
    (r : Package.Reference) (role : Role) : ((g.add r role).1.entries.map Entry.name).Nodup := by
  rw [entries_add]
  cases hadd : (g.add r role).2
  · simpa using h
  · have hnew := (add_snd_eq_true_iff g r role).mp hadd
    simp only [List.map_append, List.map_cons, List.map_nil, ite_true]
    refine List.nodup_append.mpr ⟨h, by simp, ?_⟩
    simp only [List.mem_map, List.mem_singleton]
    rintro _ ⟨e, he, rfl⟩ _ rfl
    exact hnew e he

theorem nodup_names_addAll {g : Graph} (h : (g.entries.map Entry.name).Nodup)
    (l : List (Package.Reference × Role)) : ((g.addAll l).1.entries.map Entry.name).Nodup := by
  induction l generalizing g with
  | nil => exact h
  | cons a rest ih => exact ih (nodup_names_add h a.1 a.2)

/-- when names are distinct, looking up an entry's name finds that entry -/
theorem get?_name_of_mem {g : Graph} (h : (g.entries.map Entry.name).Nodup) {e : Entry}
    (he : e ∈ g.entries) : g.get? e.name = some e := by
  obtain ⟨entries⟩ := g
  induction entries with
  | nil => cases he
  | cons x rest ih =>
    simp only [List.map_cons, List.nodup_cons] at h
    rcases List.mem_cons.mp he with rfl | hmem
    · simp [get?]
    · -- the head has another name, since the names are distinct
      have hne : x.name ≠ e.name := fun heq => h.1 (heq ▸ List.mem_map_of_mem hmem)
      have := ih h.2 hmem
      simp only [get?] at this ⊢
      simp [hne, this]

/-! ## From the empty graph -/

/-- from the empty graph, an add succeeds exactly when no earlier add had its name -/
theorem add_addAll_snd (pre : List (Package.Reference × Role)) (r : Package.Reference)
    (role : Role) :
    ((({} : Graph).addAll pre).1.add r role).2 = decide (r.name.val ∉ pre.map (·.1.name.val)) := by
  rw [add_snd, Bool.eq_iff_iff, Bool.not_eq_true', Bool.eq_false_iff, ne_eq,
    contains_eq_true_iff, mem_names_addAll]
  simp

/-- **Requirement graphs keep the first requirement of each name.** For every sequence of adds
from the empty graph:
- every add, on any graph, succeeds exactly when no entry has its name, and a refused add leaves
  the graph unchanged; in the sequence, the add after `pre` succeeds exactly when no add of
  `pre` had its name;
- the entries are the accepted requirements in the order of their adds, with pairwise distinct
  names, as many as the adds that succeeded;
- looking a name up gives the first requirement added under it, the one entry of that name, and
  the name is present exactly when a lookup finds it, that is when some add had it;
- the requirements of a role are the entries of that role, in order;
- the text is one line per entry in order: the role's name padded with blanks to 12
  characters, a blank, and the reference. -/
theorem addAll_keeps_first_of_each_name (adds : List (Package.Reference × Role)) :
    let run := ({} : Graph).addAll adds
    (∀ (g : Graph) r role, ((g.add r role).2 = true ↔ ∀ e ∈ g.entries, e.name ≠ r.name.val) ∧
      ((g.add r role).2 = false → (g.add r role).1 = g)) ∧
    (∀ pre a post, adds = pre ++ a :: post →
      run.2[pre.length]? = some (decide (a.1.name.val ∉ pre.map (·.1.name.val)))) ∧
    run.1.entries = ((adds.zip run.2).filter (·.2)).map (entryOf ·.1) ∧
    (run.1.entries.map Entry.name).Nodup ∧
    run.1.size = run.2.count true ∧
    (∀ n, run.1.get? n = (adds.find? (·.1.name.val == n)).map entryOf) ∧
    (∀ e ∈ run.1.entries, run.1.get? e.name = some e) ∧
    (∀ n, run.1.contains n = (run.1.get? n).isSome ∧
      (run.1.contains n = true ↔ n ∈ adds.map (·.1.name.val))) ∧
    (∀ role, run.1.withRole role = run.1.entries.filter (·.role == role)) ∧
    run.1.display = String.join (run.1.entries.map fun e =>
      Text.padRight e.role.name 12 ++ " " ++ e.reference.display ++ "\n") ∧
    (∀ role : Role, Text.padRight role.name 12 =
      role.name ++ String.ofList (List.replicate (12 - role.name.length) ' ') ∧
      (Text.padRight role.name 12).length = 12) := by
  intro run
  have hnodup : (run.1.entries.map Entry.name).Nodup :=
    nodup_names_addAll (g := {}) List.nodup_nil adds
  refine ⟨fun g r role => ⟨add_snd_eq_true_iff g r role, add_fst_of_snd_eq_false g r role⟩,
    fun pre a post hsplit => ?_, by simpa using entries_addAll {} adds, hnodup,
    by rw [size_addAll, show ({} : Graph).size = 0 from rfl, Nat.zero_add],
    fun n => by rw [get?_addAll]; rfl,
    fun e he => get?_name_of_mem hnodup he, fun n => ⟨rfl, ?_⟩, fun _ => rfl, rfl,
    fun role => ⟨rfl, ?_⟩⟩
  · -- the answer after `pre` is the one of the add that continues from the graph `pre` left
    have hrun : run = ({} : Graph).addAll (pre ++ a :: post) := by rw [← hsplit]
    rw [hrun, addAll_append, addAll_cons, List.getElem?_append_right (by simp)]
    simp [add_addAll_snd]
  · rw [contains_eq_true_iff, mem_names_addAll]
    simp
  · rw [Text.padRight_length]
    cases role <;> decide

end Graph

end BuildRecipe.Requirement

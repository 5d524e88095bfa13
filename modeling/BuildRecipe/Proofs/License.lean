/-
License manifests, add by add. A manifest starts with the package's own row and takes each name
once: `add` refuses the package's own name and every name it has, so the first license given
for a name stays. Over any sequence of adds:
- an add succeeds exactly when its name is not the package's and was not given before
  (`Manifest.add_addAll_snd`);
- the rows after the package's own ascend strictly by name and are the names given, other than
  the package's, each with the license of its first add (`Manifest.mem_rows_addAll`); there
  are as many as distinct names (`Manifest.entryCount_addAll`);
- the manifest, so every report rendered from it, depends only on the package and the first
  license of each name (`Manifest.addAll_eq_of_lookup`), and reordering adds that give each name
  one license changes nothing (`Manifest.addAll_perm`).

Collecting the licenses of a dependency set (`aggregate`) builds, when it returns, the manifest
of its host entries added in order: build tools and test frameworks give no row
(`aggregate_ok`). The license folders it copies on the way may fail to copy, and which folder is
copied for a name given twice depends on the order, so one order of a dependency set may fail
where another returns.

Main statement: `License.manifest_first_license_wins`.
-/
import Mathlib.Data.List.Dedup
import BuildRecipe.License.Report
import BuildRecipe.Proofs.Job

namespace BuildRecipe.License

namespace Manifest

open SortedMap

/-- the manifest after adding the names in order, each with its license -/
def addAll (m : Manifest) (adds : List (String × License)) : Manifest :=
  adds.foldl (fun m a => (m.add a.1 a.2).1) m

/-- no row is the package's own -/
def WellFormed (m : Manifest) : Prop := m.rows.get? m.package = none

theorem ext_iff' {m₁ m₂ : Manifest} : m₁ = m₂ ↔
    m₁.package = m₂.package ∧ m₁.packageLicense = m₂.packageLicense ∧ m₁.rows = m₂.rows := by
  cases m₁
  cases m₂
  simp

/-! ## One add -/

section Add

variable (m : Manifest) (n : String) (lic : License)

@[simp] theorem add_package : (m.add n lic).1.package = m.package := by
  unfold add
  split <;> rfl

@[simp] theorem add_packageLicense : (m.add n lic).1.packageLicense = m.packageLicense := by
  unfold add
  split <;> rfl

theorem add_snd : (m.add n lic).2 = !m.contains n := by
  unfold add
  split <;> simp_all

theorem get?_add (k : String) : (m.add n lic).1.rows.get? k =
    if m.contains n then m.rows.get? k else if k = n then some lic.display else m.rows.get? k := by
  unfold add
  split <;> simp_all

theorem WellFormed.add {m : Manifest} (h : m.WellFormed) : (m.add n lic).1.WellFormed := by
  unfold Manifest.add
  split
  · exact h
  · rename_i hc
    -- the name is not the package's, or `contains` would have said so
    have hn : m.package ≠ n := fun heq => hc (by simp [contains, heq])
    simpa [WellFormed, hn] using h

end Add

/-! ## A sequence of adds -/

section AddAll

variable (m : Manifest) (l : List (String × License))

@[simp] theorem addAll_nil : m.addAll [] = m := rfl

@[simp] theorem addAll_cons (a : String × License) :
    m.addAll (a :: l) = (m.add a.1 a.2).1.addAll l := rfl

theorem addAll_concat (a : String × License) :
    m.addAll (l ++ [a]) = ((m.addAll l).add a.1 a.2).1 := by
  rw [addAll, List.foldl_append]
  rfl

@[simp] theorem addAll_package : (m.addAll l).package = m.package := by
  induction l generalizing m with
  | nil => rfl
  | cons a rest ih => simp [ih]

@[simp] theorem addAll_packageLicense : (m.addAll l).packageLicense = m.packageLicense := by
  induction l generalizing m with
  | nil => rfl
  | cons a rest ih => simp [ih]

theorem WellFormed.addAll {m : Manifest} (h : m.WellFormed) : (m.addAll l).WellFormed := by
  induction l generalizing m with
  | nil => exact h
  | cons a rest ih => exact ih (h.add a.1 a.2)

/-- after a sequence of adds a name has the row it had, else the license of its first add -/
theorem get?_addAll {m : Manifest} (h : m.WellFormed) (k : String) :
    (m.addAll l).rows.get? k =
      if k = m.package then none else (m.rows.get? k).or ((l.lookup k).map License.display) := by
  induction l generalizing m with
  | nil =>
    by_cases hk : k = m.package
    · subst hk
      simpa [WellFormed] using h
    · simp [hk]
  | cons a rest ih =>
    obtain ⟨n, lic⟩ := a
    rw [addAll_cons, ih (h.add n lic), add_package, get?_add]
    by_cases hk : k = m.package
    · simp [hk]
    by_cases hkn : k = n
    · subst hkn
      -- the name was added before exactly when it has a row
      have hc : m.contains k = (m.rows.get? k).isSome := by
        simp [contains, hk, SortedMap.contains]
      cases hv : m.rows.get? k <;> simp [hk, hc, hv]
    · simp [hk, hkn, List.lookup_cons, beq_eq_false_iff_ne.mpr hkn]

end AddAll

variable (p L : String)

theorem wellFormed_new : (new p L).WellFormed := rfl

/-- from a fresh manifest, a name other than the package's has the license of its first add -/
theorem get?_rows_addAll (l : List (String × License)) (k : String) :
    ((new p L).addAll l).rows.get? k = if k = p then none else (l.lookup k).map License.display := by
  rw [get?_addAll l (wellFormed_new p L)]
  rfl

/-- an add succeeds exactly when its name is not the package's and was not given before -/
theorem add_addAll_snd (pre : List (String × License)) (n : String) (lic : License) :
    (((new p L).addAll pre).add n lic).2 = true ↔ n ≠ p ∧ n ∉ pre.map Prod.fst := by
  rw [add_snd, Bool.not_eq_true', contains, Bool.or_eq_false_iff, SortedMap.contains,
    get?_rows_addAll, addAll_package]
  by_cases hn : n = p
  · simp [hn, new]
  · simp [hn, new, -List.lookup_eq_none_iff, lookup_eq_none_iff_not_mem]

/-- the rows after the package's own are the names given, other than the package's, each with
the license of its first add -/
theorem mem_rows_addAll (l : List (String × License)) (n v : String) :
    (n, v) ∈ ((new p L).addAll l).rows.entries ↔
      n ≠ p ∧ ∃ lic, l.lookup n = some lic ∧ lic.display = v := by
  rw [mem_entries_iff, get?_rows_addAll]
  by_cases hn : n = p
  · simp [hn]
  · simp [hn, Option.map_eq_some_iff]

theorem mem_keys_addAll (l : List (String × License)) (k : String) :
    k ∈ ((new p L).addAll l).rows.keys ↔ k ≠ p ∧ k ∈ l.map Prod.fst := by
  have hkeys : k ∈ ((new p L).addAll l).rows.keys ↔
      ∃ v, (k, v) ∈ ((new p L).addAll l).rows.entries := by
    simp [keys]
  simp only [hkeys, mem_rows_addAll]
  constructor
  · rintro ⟨v, hk, lic, hl, -⟩
    exact ⟨hk, List.mem_map_of_mem (f := Prod.fst) (mem_of_lookup_eq_some hl)⟩
  · rintro ⟨hk, hmem⟩
    obtain ⟨lic, hl⟩ := Option.ne_none_iff_exists'.mp
      (mt lookup_eq_none_iff_not_mem.mp (not_not.mpr hmem))
    exact ⟨lic.display, hk, lic, hl, rfl⟩

/-- one row for the package and one for each distinct name other than its own -/
theorem entryCount_addAll (l : List (String × License)) :
    ((new p L).addAll l).entryCount = ((l.map Prod.fst).filter (· != p)).dedup.length + 1 := by
  have hperm : ((new p L).addAll l).rows.keys.Perm ((l.map Prod.fst).filter (· != p)).dedup := by
    rw [List.perm_ext_iff_of_nodup ((new p L).addAll l).rows.keys_nodup
      (List.nodup_dedup _)]
    intro k
    rw [mem_keys_addAll, List.mem_dedup, List.mem_filter, bne_iff_ne, and_comm]
  rw [entryCount, SortedMap.size, ← List.length_map (f := Prod.fst), ← hperm.length_eq]
  rfl

/-- the manifest depends only on the package and the first license of each other name -/
theorem addAll_eq_of_lookup {l₁ l₂ : List (String × License)}
    (h : ∀ n, n ≠ p → (l₁.lookup n).map License.display = (l₂.lookup n).map License.display) :
    (new p L).addAll l₁ = (new p L).addAll l₂ := by
  have hrows : ((new p L).addAll l₁).rows = ((new p L).addAll l₂).rows :=
    ext_get? fun k => by
        rw [get?_rows_addAll, get?_rows_addAll]
        split
        · rfl
        · exact h k ‹_›
  exact ext_iff'.mpr ⟨by simp, by simp, hrows⟩

/-- adds that give each name one license build the same manifest in every order -/
theorem addAll_perm {l₁ l₂ : List (String × License)} (hp : l₁.Perm l₂)
    (hfun : ∀ n a b, (n, a) ∈ l₁ → (n, b) ∈ l₁ → a = b) :
    (new p L).addAll l₁ = (new p L).addAll l₂ :=
  addAll_eq_of_lookup p L fun n _ => by rw [lookup_eq_of_perm hp hfun n]

end Manifest

/-- the rows a dependency set gives: its host entries in order, by name and license -/
def hostLicenses (deps : List Dependency) : List (String × License) :=
  (deps.filter (·.isHost)).map fun d => (d.name.val, d.license)

theorem hostLicenses_perm {deps₁ deps₂ : List Dependency} (h : deps₁.Perm deps₂) :
    (hostLicenses deps₁).Perm (hostLicenses deps₂) :=
  (h.filter _).map _

/-- host entries that give each name one license give each row one license -/
theorem hostLicenses_single {deps : List Dependency}
    (h : ∀ d ∈ deps, ∀ d' ∈ deps, d.isHost → d'.isHost → d.name.val = d'.name.val →
      d.license = d'.license) :
    ∀ n a b, (n, a) ∈ hostLicenses deps → (n, b) ∈ hostLicenses deps → a = b := by
  intro n a b ha hb
  simp only [hostLicenses, List.mem_map, List.mem_filter, Prod.mk.injEq] at ha hb
  obtain ⟨d, ⟨hd, hdh⟩, rfl, rfl⟩ := ha
  obtain ⟨d', ⟨hd', hdh'⟩, hn, rfl⟩ := hb
  exact h d hd d' hd' hdh hdh' hn.symm

open Job in
/-- collecting licenses, when it returns, gives the manifest of the host entries added in order -/
theorem aggregate_ok {identity : Package.Identity} {layout : Layout} {deps : List Dependency}
    {w w' : Workspace} {m : Manifest} (h : (aggregate identity layout deps).run w = (.ok m, w')) :
    m = (Manifest.new identity.name.val identity.license).addAll (hostLicenses deps) := by
  unfold aggregate at h
  rw [run_bind] at h
  split at h
  · rename_i m₀ w₁ hfold
    have hm₀ := Returns.foldlM
      (f := fun (m : Manifest) (d : Dependency) => (m.add d.name.val d.license).1) ?_ _ _ w m₀ w₁
      hfold
    · -- the rest copies the recipe's own license and returns the manifest unchanged
      have hm : m = m₀ := by
        dsimp only at h
        refine (Returns.bind _ fun b => ?_) w₁ m w' h
        cases b
        · exact returns_pure m₀
        · exact Returns.bind _ fun _ => returns_pure m₀
      rw [hm, hm₀, hostLicenses, Manifest.addAll, List.foldl_map]
    · -- each dependency's step returns the manifest with its row added, copies or not
      intro m d
      rcases m.add d.name.val d.license with ⟨m', added⟩
      dsimp only
      cases added
      · exact returns_pure m'
      · refine Returns.bind _ fun b => ?_
        cases b
        · exact returns_pure m'
        · exact Returns.bind _ fun _ => returns_pure m'
  · cases h


open Manifest in
/-- **The first license of a name wins.** For every package `p` with license `L`:
- an add after the adds `pre` succeeds exactly when its name is not `p` and not one of `pre`'s;
- after any sequence of adds, the report lists `(p, L)` and then the rows, which ascend strictly
  by name and are exactly the names given other than `p`, each with the license of its first
  add: one row for `p` and one for each distinct other name;
- two sequences that give every name other than `p` the same first license render the same
  report in every format, and so do two orders of a sequence that gives each name one license;
- collecting the licenses of a dependency set, when it returns, gives the manifest of its host
  entries added in order, so that build tools and test frameworks give no row; two orders of a
  dependency set whose host entries give each name one license give, when both return, the same
  manifest and the same report. -/
theorem manifest_first_license_wins (p L : String) :
    (∀ pre n lic, (((new p L).addAll pre).add n lic).2 = true ↔
      n ≠ p ∧ n ∉ pre.map Prod.fst) ∧
    (∀ l, let m := (new p L).addAll l
      m.allRows = (p, L) :: m.rows.entries ∧ m.rows.keys.Pairwise (· < ·) ∧
      (∀ n v, (n, v) ∈ m.rows.entries ↔ n ≠ p ∧ ∃ lic, l.lookup n = some lic ∧ lic.display = v) ∧
      m.entryCount = ((l.map Prod.fst).filter (· != p)).dedup.length + 1) ∧
    (∀ l₁ l₂, (∀ n, n ≠ p → (l₁.lookup n).map License.display = (l₂.lookup n).map License.display) →
      ∀ format, ((new p L).addAll l₁).render format = ((new p L).addAll l₂).render format) ∧
    (∀ l₁ l₂ : List (String × License), l₁.Perm l₂ →
      (∀ n a b, (n, a) ∈ l₁ → (n, b) ∈ l₁ → a = b) →
      ∀ format, ((new p L).addAll l₁).render format = ((new p L).addAll l₂).render format) ∧
    ∀ (identity : Package.Identity) layout deps₁ deps₂ w₁ w₂ m₁ m₂ w₁' w₂',
      (aggregate identity layout deps₁).run w₁ = (.ok m₁, w₁') →
      m₁ = (new identity.name.val identity.license).addAll (hostLicenses deps₁) ∧
      (deps₁.Perm deps₂ →
        (∀ d ∈ deps₁, ∀ d' ∈ deps₁, d.isHost → d'.isHost → d.name.val = d'.name.val →
          d.license = d'.license) →
        (aggregate identity layout deps₂).run w₂ = (.ok m₂, w₂') →
        m₂ = m₁ ∧ ∀ format, m₂.render format = m₁.render format) := by
  refine ⟨add_addAll_snd p L, fun l => ⟨by simp [allRows, new], ((new p L).addAll l).rows.ascending,
    mem_rows_addAll p L l, entryCount_addAll p L l⟩, fun l₁ l₂ h format => by rw [addAll_eq_of_lookup p L h],
    fun l₁ l₂ hp hfun format => by rw [addAll_perm p L hp hfun], ?_⟩
  intro identity layout deps₁ deps₂ w₁ w₂ m₁ m₂ w₁' w₂' h₁
  have hm₁ := aggregate_ok h₁
  refine ⟨hm₁, fun hp hsingle h₂ => ?_⟩
  -- both runs build the manifest of their host entries, which are one another's reordering
  have hm₂ : m₂ = m₁ := by
    rw [aggregate_ok h₂, hm₁,
      addAll_perm _ _ (hostLicenses_perm hp).symm (hostLicenses_single fun d hd d' hd' =>
        hsingle d (hp.mem_iff.mpr hd) d' (hp.mem_iff.mpr hd')) ]
  exact ⟨hm₂, fun format => by rw [hm₂]⟩

end BuildRecipe.License

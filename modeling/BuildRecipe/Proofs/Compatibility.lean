/-
Compiler compatibility as a decision. Versions are ordered by their first three components,
lexicographically (`Compiler.Version.lt_eq_true_iff`). Validation refuses a compiler exactly when
it is set to a standard older than C++17, or belongs to a known family and is older than that
family's first release with C++17 support: msvc 14.1, gcc 8.1, clang 7, apple-clang 10
(`validate_of_refused`). Every other compiler passes: verified when its family is known,
unverified when it is not (`validate_of_not_refused`).

So the outcome does not depend on the reference, a later version of an accepted compiler is
accepted, and so is a later explicit standard (`isOk_validate_iff` and the monotonicity lemmas).

Main statement: `validate_decides_by_standard_and_minimum`.
-/
import BuildRecipe.Compatibility

namespace BuildRecipe

namespace Compiler.Version

/-- `v` is older than the release `(major, minor, patch)`: its first three components are
lexicographically smaller -/
def OlderThan (v : Version) (release : Nat × Nat × Nat) : Prop :=
  Prod.Lex (· < ·) (Prod.Lex (· < ·) (· < ·)) v.key release

/-- `lt` is the lexicographic order of the first three components -/
theorem lt_eq_true_iff (v w : Version) : v.lt w = true ↔ v.OlderThan w.key := by
  simp only [lt, cmp, OlderThan, key, Prod.lex_def, beq_iff_eq, Ordering.then_eq_lt,
    Nat.compare_eq_lt, Nat.compare_eq_eq]

@[simp] theorem key_ofParts (major minor : Nat) : (ofParts major minor).key = (major, minor, 0) :=
  rfl

/-- a version not older than `v` is older than a release only when `v` is too -/
theorem OlderThan.of_not_olderThan {v v' : Version} {release : Nat × Nat × Nat}
    (h : v'.OlderThan release) (hv : ¬ v'.OlderThan v.key) : v.OlderThan release := by
  obtain ⟨a, b, c⟩ := release
  simp only [OlderThan, key, Prod.lex_def] at h hv ⊢
  omega

end Compiler.Version

namespace CompilerSettings

/-- the compiler is set to a standard older than C++17, the one the recipe needs -/
def StandardTooOld (c : CompilerSettings) : Prop := ∃ s, c.cppstd = some s ∧ s < .cpp17

/-- the compiler belongs to a known family and is older than the family's first release with
C++17 support -/
def VersionTooOld (c : CompilerSettings) : Prop :=
  (c.family = .msvc ∧ c.version.OlderThan (14, 1, 0)) ∨
  (c.family = .gcc ∧ c.version.OlderThan (8, 1, 0)) ∨
  (c.family = .clang ∧ c.version.OlderThan (7, 0, 0)) ∨
  (c.family = .appleClang ∧ c.version.OlderThan (10, 0, 0))

/-- the minimum versions are the releases of the table -/
theorem versionTooOld_iff (c : CompilerSettings) :
    c.VersionTooOld ↔ ∃ m, minimumVersion c.family = some m ∧ c.version.lt m = true := by
  obtain ⟨f, v, s⟩ := c
  cases f <;> simp [VersionTooOld, minimumVersion, Compiler.Version.lt_eq_true_iff]

end CompilerSettings

theorem minimumVersion_eq_none_iff (f : Compiler.Family) :
    minimumVersion f = none ↔ ∃ n, f = .unrecognized n := by
  cases f <;> simp [minimumVersion]

/-! ## The decision -/

section Decision

variable (r : Package.Reference) {c : CompilerSettings}

/-- once the standard passes, the family's minimum decides -/
theorem validate_eq_byFamily (h : ¬ c.StandardTooOld) :
    validate r c = validate.byFamily c
      (fun reason => .configurationIncompatibility r.display minimumStandard reason) := by
  unfold validate
  cases hs : c.cppstd with
  | none => rfl
  | some s =>
    have hpass : ¬ s < minimumStandard := fun hlt => h ⟨s, hs, hlt⟩
    exact if_neg hpass

/-- a standard or a version that is too old is refused, as an incompatibility of the reference -/
theorem validate_of_refused (h : c.StandardTooOld ∨ c.VersionTooOld) :
    ∃ reason, validate r c =
      .error (.configurationIncompatibility r.display minimumStandard reason) := by
  by_cases hstd : c.StandardTooOld
  · obtain ⟨s, hs, hlt⟩ := hstd
    unfold validate
    rw [hs]
    exact ⟨_, if_pos hlt⟩
  · obtain ⟨m, hm, hlt⟩ := (c.versionTooOld_iff).mp (h.resolve_left hstd)
    rw [validate_eq_byFamily r hstd]
    unfold validate.byFamily
    rw [hm]
    exact ⟨_, if_pos hlt⟩

/-- every other compiler passes: verified when its family has a minimum, unverified when not -/
theorem validate_of_not_refused (h : ¬ (c.StandardTooOld ∨ c.VersionTooOld)) :
    validate r c = .ok (if (minimumVersion c.family).isSome then .verified
      else .unverified c.family.name) := by
  have hver : ¬ ∃ m, minimumVersion c.family = some m ∧ c.version.lt m = true :=
    fun hv => h (.inr ((c.versionTooOld_iff).mpr hv))
  rw [validate_eq_byFamily r fun hs => h (.inl hs)]
  unfold validate.byFamily
  cases hm : minimumVersion c.family with
  | none => rfl
  | some m =>
    have hnot : c.version.lt m = false := by
      simpa using fun hlt => hver ⟨m, hm, hlt⟩
    simp [hnot]

/-- a compiler is accepted exactly when neither its standard nor its version is too old -/
theorem isOk_validate_iff : (validate r c).isOk = true ↔ ¬ (c.StandardTooOld ∨ c.VersionTooOld) := by
  by_cases h : c.StandardTooOld ∨ c.VersionTooOld
  · obtain ⟨_, he⟩ := validate_of_refused r h
    simp [he, h, Except.isOk, Except.toBool]
  · simp [validate_of_not_refused r h, h, Except.isOk, Except.toBool]

end Decision

/-! ## Monotonicity -/

/-- a later version of a compiler is not too old when the compiler is not -/
theorem CompilerSettings.VersionTooOld.of_later {c : CompilerSettings} {v' : Compiler.Version}
    (h : ({ c with version := v' } : CompilerSettings).VersionTooOld)
    (hv : ¬ v'.OlderThan c.version.key) : c.VersionTooOld := by
  unfold CompilerSettings.VersionTooOld at h ⊢
  rcases h with ⟨hf, ho⟩ | ⟨hf, ho⟩ | ⟨hf, ho⟩ | ⟨hf, ho⟩
  · exact .inl ⟨hf, ho.of_not_olderThan hv⟩
  · exact .inr (.inl ⟨hf, ho.of_not_olderThan hv⟩)
  · exact .inr (.inr (.inl ⟨hf, ho.of_not_olderThan hv⟩))
  · exact .inr (.inr (.inr ⟨hf, ho.of_not_olderThan hv⟩))

/-- a later explicit standard is not too old when the earlier one is not -/
theorem CompilerSettings.StandardTooOld.of_later {c : CompilerSettings} {s s' : Compiler.Standard}
    (hs : c.cppstd = some s) (hle : s ≤ s')
    (h : ({ c with cppstd := some s' } : CompilerSettings).StandardTooOld) : c.StandardTooOld := by
  obtain ⟨t, ht, hlt⟩ := h
  cases ht
  exact ⟨s, hs, Nat.lt_of_le_of_lt hle hlt⟩

/-- **Validation decides by the standard and the family's minimum version.** For every reference
and compiler:
- validation refuses, as a configuration incompatibility of the reference's display requiring
  C++17, exactly when the compiler is set to an older standard or belongs to msvc, gcc, clang or
  apple-clang and is older than 14.1, 8.1, 7 or 10 respectively, versions compared by their first
  three components;
- it accepts unverified, under the family's name, exactly an unrecognised family whose standard
  passes, and verifies every other compiler;
- so the outcome does not depend on the reference, and acceptance is kept by a later version and
  by a later explicit standard. -/
theorem validate_decides_by_standard_and_minimum (r : Package.Reference) (c : CompilerSettings) :
    ((∃ reason, validate r c = .error (.configurationIncompatibility r.display .cpp17 reason)) ↔
      c.StandardTooOld ∨ c.VersionTooOld) ∧
    (validate r c = .ok (.unverified c.family.name) ↔
      (∃ n, c.family = .unrecognized n) ∧ ¬ c.StandardTooOld) ∧
    (validate r c = .ok .verified ↔
      ¬ (c.StandardTooOld ∨ c.VersionTooOld) ∧ ∀ n, c.family ≠ .unrecognized n) ∧
    (∀ r', (validate r c).toOption = (validate r' c).toOption) ∧
    (∀ v', (validate r c).isOk = true → ¬ v'.OlderThan c.version.key →
      (validate r { c with version := v' }).isOk = true) ∧
    (∀ s s', c.cppstd = some s → s ≤ s' → (validate r c).isOk = true →
      (validate r { c with cppstd := some s' }).isOk = true) := by
  -- an unrecognised family has no minimum, so only its standard can be too old
  have hunrec : (∃ n, c.family = .unrecognized n) → ¬ c.VersionTooOld := fun hn hv => by
    obtain ⟨m, hm, -⟩ := (c.versionTooOld_iff).mp hv
    rw [(minimumVersion_eq_none_iff _).mpr hn] at hm
    cases hm
  refine ⟨⟨fun ⟨_, he⟩ => ?_, validate_of_refused r⟩, ⟨fun he => ?_, fun ⟨hn, hs⟩ => ?_⟩,
    ⟨fun he => ?_, fun ⟨hok, hn⟩ => ?_⟩, fun r' => ?_, fun v' hok hv => ?_,
    fun s s' hs hle hok => ?_⟩
  · -- an error means one of the two is too old, or validation would have passed
    refine Classical.byContradiction fun h => ?_
    rw [validate_of_not_refused r h] at he
    cases he
  · by_cases h : c.StandardTooOld ∨ c.VersionTooOld
    · obtain ⟨_, he'⟩ := validate_of_refused r h
      rw [he'] at he
      cases he
    · rw [validate_of_not_refused r h] at he
      have hnone : minimumVersion c.family = none := by
        cases hm : minimumVersion c.family <;> simp_all
      exact ⟨(minimumVersion_eq_none_iff _).mp hnone, fun hs => h (.inl hs)⟩
  · have h : ¬ (c.StandardTooOld ∨ c.VersionTooOld) := fun h' => h'.elim hs (hunrec hn)
    rw [validate_of_not_refused r h, (minimumVersion_eq_none_iff _).mpr hn]
    rfl
  · by_cases h : c.StandardTooOld ∨ c.VersionTooOld
    · obtain ⟨_, he'⟩ := validate_of_refused r h
      rw [he'] at he
      cases he
    · refine ⟨h, fun n hn => ?_⟩
      rw [validate_of_not_refused r h, (minimumVersion_eq_none_iff _).mpr ⟨n, hn⟩] at he
      cases he
  · have hsome : (minimumVersion c.family).isSome = true := by
      cases hm : minimumVersion c.family with
      | none => exact absurd ((minimumVersion_eq_none_iff _).mp hm) fun ⟨n, h⟩ => hn n h
      | some _ => rfl
    rw [validate_of_not_refused r hok, hsome]
    rfl
  · by_cases h : c.StandardTooOld ∨ c.VersionTooOld
    · obtain ⟨_, he⟩ := validate_of_refused r h
      obtain ⟨_, he'⟩ := validate_of_refused r' h
      rw [he, he']
      rfl
    · rw [validate_of_not_refused r h, validate_of_not_refused r' h]
  · rw [isOk_validate_iff] at hok ⊢
    rintro (hs | hv')
    · exact hok (.inl hs)
    · exact hok (.inr (hv'.of_later hv))
  · rw [isOk_validate_iff] at hok ⊢
    rintro (hs' | hv')
    · exact hok (.inl (hs'.of_later hs hle))
    · exact hok (.inr hv')

end BuildRecipe

/-
Option overrides against a schema. Resolving keeps the schema's defaults and drops `fPIC` on
Windows (`ResolvedOptions.resolve_get?`); the overrides are then taken one by one:
- a declared name sets its option when the option is in effect and is passed over when resolving
  dropped it, so a list of declared names always succeeds, each option at its last override
  (`applyOverrides_get?`), and the options in effect stay the same;
- the first undeclared name stops the list with `unknown option`, listing the schema's names
  (`applyOverrides_eq_error_iff`).

An option set is changed in place by its overrides (`applyOverridesInPlace`, each override read
against the options as the ones before it left them): a list that fails leaves the options with
the changes of the overrides before its first undeclared name (`run_applyOverridesInPlace_stop`),
and a list that succeeds leaves the options `applyOverrides` gives.

Main statement: `ResolvedOptions.overrides_last_value_until_undeclared`.
-/
import BuildRecipe.Proofs.Evaluation

namespace BuildRecipe

namespace ResolvedOptions

variable {schema : OptionSchema} {o o' : ResolvedOptions}

/-- the overrides applied to an option set held in place, with the outcome and the options they
leave: each override is read against the options as the overrides before it left them, and one
that fails stops the list and leaves the options as they are -/
def applyOverridesInPlace (schema : OptionSchema) :
    List (String × Bool) → ResolvedOptions → Except RecipeError Unit × ResolvedOptions
  | [], o => (.ok (), o)
  | ov :: rest, o =>
    match applyOverride schema o ov with
    | .ok o₁ => applyOverridesInPlace schema rest o₁
    | .error e => (.error e, o)

/-! ## One override -/

theorem applyOverride_undeclared {n : String} (hn : schema.declares n = false) (v : Bool) :
    applyOverride schema o (n, v) = .error (.invalidOption n schema.names) := by
  simp [applyOverride, hn]

theorem applyOverride_declared {n : String} (hn : schema.declares n = true) (v : Bool) :
    ∃ o', applyOverride schema o (n, v) = .ok o' := by
  unfold applyOverride
  simp only [hn, Bool.not_true, Bool.false_eq_true, ↓reduceIte]
  split
  · exact ⟨_, rfl⟩
  · exact ⟨_, rfl⟩

/-! ## A list of overrides -/

/-- a list of declared names succeeds, in place too, leaving the same options -/
theorem applyOverrides_of_declared {ovs : List (String × Bool)}
    (h : ∀ x ∈ ovs, schema.declares x.1 = true) (o : ResolvedOptions) :
    ∃ o', o.applyOverrides schema ovs = .ok o' ∧
      applyOverridesInPlace schema ovs o = (.ok (), o') := by
  induction ovs generalizing o with
  | nil => exact ⟨o, rfl, rfl⟩
  | cons ov rest ih =>
    obtain ⟨n, v⟩ := ov
    obtain ⟨o₁, h₁⟩ := applyOverride_declared (o := o) (h (n, v) (by simp)) v
    obtain ⟨o', hrest, hrun⟩ := ih (fun x hx => h x (by simp [hx])) o₁
    refine ⟨o', ?_, ?_⟩
    · simp only [applyOverrides, List.foldlM_cons, h₁]
      exact hrest
    · simp only [applyOverridesInPlace, h₁]
      exact hrun

/-- the declared names before the first undeclared one are applied, in place too, and that name
stops the list -/
theorem run_applyOverridesInPlace_stop (pre post : List (String × Bool)) {n : String} {v : Bool}
    (hpre : ∀ x ∈ pre, schema.declares x.1 = true) (hn : schema.declares n = false)
    (o : ResolvedOptions) :
    ∃ o₁, o.applyOverrides schema pre = .ok o₁ ∧
      o.applyOverrides schema (pre ++ (n, v) :: post) = .error (.invalidOption n schema.names) ∧
      applyOverridesInPlace schema (pre ++ (n, v) :: post) o =
        (.error (.invalidOption n schema.names), o₁) := by
  induction pre generalizing o with
  | nil =>
    refine ⟨o, rfl, ?_, ?_⟩
    · simp only [applyOverrides, List.nil_append, List.foldlM_cons, applyOverride_undeclared hn]
      rfl
    · simp only [List.nil_append, applyOverridesInPlace, applyOverride_undeclared hn]
  | cons ov rest ih =>
    obtain ⟨m, u⟩ := ov
    obtain ⟨o₂, h₂⟩ := applyOverride_declared (o := o) (hpre (m, u) (by simp)) u
    obtain ⟨o₁, hrest, herr, hrun⟩ := ih (fun x hx => hpre x (by simp [hx])) o₂
    refine ⟨o₁, ?_, ?_, ?_⟩
    · simp only [applyOverrides, List.foldlM_cons, h₂]
      exact hrest
    · simp only [applyOverrides, List.cons_append, List.foldlM_cons, h₂]
      exact herr
    · simp only [List.cons_append, applyOverridesInPlace, h₂]
      exact hrun

/-- a list fails exactly at its first undeclared name -/
theorem applyOverrides_eq_error_iff (ovs : List (String × Bool)) (e : RecipeError) :
    o.applyOverrides schema ovs = .error e ↔
      ∃ n v, ovs.find? (fun x => !schema.declares x.1) = some (n, v) ∧
        e = .invalidOption n schema.names := by
  cases hfind : ovs.find? (fun x => !schema.declares x.1) with
  | none =>
    have hall : ∀ x ∈ ovs, schema.declares x.1 = true := by
      simpa using List.find?_eq_none.mp hfind
    obtain ⟨o', hok, -⟩ := applyOverrides_of_declared hall o
    simp [hok]
  | some x =>
    obtain ⟨n, v⟩ := x
    obtain ⟨hn, pre, post, rfl, hpre⟩ := List.find?_eq_some_iff_append.mp hfind
    obtain ⟨_, -, herr, -⟩ := run_applyOverridesInPlace_stop pre post (v := v)
      (fun x hx => by simpa using hpre x hx) (by simpa using hn) o
    rw [herr]
    constructor
    · rintro ⟨⟩
      exact ⟨n, v, rfl, rfl⟩
    · rintro ⟨n', v', hnv, rfl⟩
      cases hnv
      rfl

/-- **Overrides: the last value wins until the first undeclared name.** For every schema,
settings, and list of overrides applied to the options resolved for them:
- resolving keeps the schema's defaults, without `fPIC` on Windows;
- applying fails exactly when a name is undeclared, with `unknown option` for the first such name
  and the schema's names;
- when every name is declared, each option resolving kept ends at its last override, else at its
  default, no other option appears (so `fPIC` stays out on Windows), and the options held in
  place end the same;
- when some name is undeclared, the options held in place keep the changes of the overrides
  before the first such name, and only those. -/
theorem overrides_last_value_until_undeclared (schema : OptionSchema) (s : Settings)
    (ovs : List (String × Bool)) :
    (∀ k, (resolve schema s).get? k =
      if s.isWindows = true ∧ k = optionFpic then none else schema.defaults.get? k) ∧
    (∀ e, (resolve schema s).applyOverrides schema ovs = .error e ↔
      ∃ n v, ovs.find? (fun x => !schema.declares x.1) = some (n, v) ∧
        e = .invalidOption n schema.names) ∧
    ((∀ x ∈ ovs, schema.declares x.1 = true) →
      ∃ o', (resolve schema s).applyOverrides schema ovs = .ok o' ∧
        applyOverridesInPlace schema ovs (resolve schema s) = (.ok (), o') ∧
        (∀ k, o'.get? k = ((resolve schema s).get? k).map fun u => (ovs.reverse.lookup k).getD u) ∧
        (s.isWindows = true → o'.fpic = none)) ∧
    (∀ pre n v post, ovs = pre ++ (n, v) :: post → (∀ x ∈ pre, schema.declares x.1 = true) →
      schema.declares n = false →
      ∃ o₁, applyOverridesInPlace schema ovs (resolve schema s) =
          (.error (.invalidOption n schema.names), o₁) ∧
        ∀ k, o₁.get? k = ((resolve schema s).get? k).map fun u => (pre.reverse.lookup k).getD u) := by
  refine ⟨resolve_get? schema s, fun e => applyOverrides_eq_error_iff ovs e, fun hall => ?_,
    fun pre n v post hovs hpre hn => ?_⟩
  · obtain ⟨o', hok, hrun⟩ := applyOverrides_of_declared hall (resolve schema s)
    have hget := applyOverrides_get? hok
    refine ⟨o', hok, hrun, hget, fun hw => ?_⟩
    rw [fpic, hget, resolve_get?, if_pos ⟨hw, rfl⟩, Option.map_none]
  · subst hovs
    obtain ⟨o₁, hpre_ok, -, hrun⟩ := run_applyOverridesInPlace_stop pre post (v := v) hpre hn
      (resolve schema s)
    exact ⟨o₁, hrun, applyOverrides_get? hpre_ok⟩

/-- on Windows, `with_doc=true`, `shared=true`, `fPIC=false` stops at `shared`, with the options
held in place already documenting and still without `fPIC` -/
theorem windows_overrides_stop_at_undeclared :
    OptionSchema.standard.declares "shared" = false ∧
    ∃ o₁, applyOverridesInPlace .standard [("with_doc", true), ("shared", true), ("fPIC", false)]
        (resolve .standard { (default : Settings) with os := .windows }) =
        (.error (.invalidOption "shared" OptionSchema.standard.names), o₁) ∧
      o₁.withDoc = true ∧ o₁.fpic = none := by
  obtain ⟨o₁, hrun, hget⟩ := (overrides_last_value_until_undeclared .standard
    { (default : Settings) with os := .windows }
    [("with_doc", true), ("shared", true), ("fPIC", false)]).2.2.2 [("with_doc", true)] "shared"
    true [("fPIC", false)] rfl (by decide) (by decide)
  refine ⟨by decide, o₁, hrun, ?_, ?_⟩
  · rw [withDoc, hget]
    decide
  · rw [fpic, hget]
    decide

end ResolvedOptions

end BuildRecipe

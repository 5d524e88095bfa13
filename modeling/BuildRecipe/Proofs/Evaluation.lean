/-
Evaluating a recipe: the options, the tests switch and the requirement graph that an evaluation
gives, for every profile, configuration, command line and detected compiler.

- `ResolvedOptions.applyOverrides_get?`: overrides applied in order leave every option in effect
  at the last value given for it, and never bring back an option that resolving dropped;
- `ResolvedOptions.resolve_get?`: resolving keeps the schema's defaults, less `fPIC` on Windows;
- `Requirement.requirements_entries`: the graph lists the pinned requirements of the rules in
  their order, each once, since no two pins share a name;
- `Profile.resolveSettings_os`: the target system is the profile's, read, or the host's;
- `evaluation_options_tests_graph`: a successful evaluation has `fPIC` exactly off Windows, at
  the profile's value or on; tests built unless the first of the command line, the profile and
  the configuration that says so skips them (skipped when none does); and the graph of the
  rules, the tools and the documentation switched by the profile (on and off by default).

The profile's overrides name each option once, as every map of the library does, so the last
value given for an option is its only one.
-/
import BuildRecipe.Evaluation
import BuildRecipe.Proofs.SortedMap

namespace BuildRecipe

/-! ## Failing computations -/

theorem except_bind_eq_ok {ε α β : Type} {x : Except ε α} {f : α → Except ε β} {b : β} :
    x >>= f = .ok b ↔ ∃ a, x = .ok a ∧ f a = .ok b := by
  cases x <;> simp [bind, Except.bind]

theorem except_mapError_eq_ok {ε ε' α : Type} {x : Except ε α} {f : ε → ε'} {a : α} :
    x.mapError f = .ok a ↔ x = .ok a := by
  cases x <;> simp [Except.mapError]

/-! ## Options -/

namespace ResolvedOptions

/-- one override sets an option in effect and leaves the others -/
theorem applyOverride_get? {schema : OptionSchema} {o o' : ResolvedOptions} {n : String} {v : Bool}
    (h : applyOverride schema o (n, v) = .ok o') (k : String) :
    o'.get? k = (o.get? k).map fun u => if k = n then v else u := by
  simp only [applyOverride] at h
  split at h
  · cases h
  · split at h
    · rename_i hc
      cases h
      by_cases hk : k = n
      · subst hk
        obtain ⟨u, hu⟩ := Option.isSome_iff_exists.mp hc
        simp [get?, hu]
      · simp [get?, hk]
    · rename_i hc
      cases h
      by_cases hk : k = n
      · subst hk
        have : o.values.get? k = none := by simpa using hc
        simp [get?, this]
      · simp [hk]

/-- overrides applied in order: an option in effect ends at the last value given for it -/
theorem applyOverrides_get? {schema : OptionSchema} {o o' : ResolvedOptions}
    {ovs : List (String × Bool)} (h : o.applyOverrides schema ovs = .ok o') (k : String) :
    o'.get? k = (o.get? k).map fun u => (ovs.reverse.lookup k).getD u := by
  induction ovs generalizing o with
  | nil =>
    cases h
    simp
  | cons ov rest ih =>
    obtain ⟨n, v⟩ := ov
    simp only [applyOverrides, List.foldlM_cons] at h
    cases hstep : applyOverride schema o (n, v) with
    | error e => rw [hstep] at h; cases h
    | ok o₁ =>
      rw [hstep] at h
      rw [ih h, applyOverride_get? hstep, Option.map_map]
      congr 1
      funext u
      by_cases hk : k = n
      · subst hk
        rw [List.reverse_cons, List.lookup_append]
        cases rest.reverse.lookup k <;> simp
      · simp [hk, List.lookup_append, List.lookup_cons, beq_eq_false_iff_ne.mpr hk]

/-- resolving keeps the schema's defaults, less `fPIC` on Windows -/
theorem resolve_get? (schema : OptionSchema) (s : Settings) (k : String) :
    (resolve schema s).get? k =
      if s.isWindows = true ∧ k = optionFpic then none else schema.defaults.get? k := by
  unfold resolve get?
  by_cases hw : s.isWindows = true
  · by_cases hk : k = optionFpic <;> simp [hw, hk]
  · simp [hw]

theorem standard_fpic : OptionSchema.standard.defaults.get? optionFpic = some true := by decide

theorem standard_withTools : OptionSchema.standard.defaults.get? optionWithTools = some true := by
  decide

theorem standard_withDoc : OptionSchema.standard.defaults.get? optionWithDoc = some false := by
  decide

end ResolvedOptions

/-! ## The requirement graph -/

namespace Requirement

theorem Graph.contains_eq_false {g : Graph} {name : String} (h : name ∉ g.entries.map Entry.name) :
    g.contains name = false := by
  simp only [Graph.contains, Graph.get?, Option.isSome_eq_false_iff, Option.isNone_iff_eq_none,
    List.find?_eq_none, beq_iff_eq]
  intro e he heq
  exact h (List.mem_map.mpr ⟨e, he, heq⟩)

theorem Graph.push_entries {g : Graph} {r : Package.Reference} (role : Role)
    (h : r.name.val ∉ g.entries.map Entry.name) :
    (g.push r role).entries = g.entries ++ [⟨r, role⟩] := by
  simp [Graph.push, Graph.add, Graph.contains_eq_false h]

/-- pushing requirements of distinct new names appends them all, in order -/
theorem foldl_push_entries (l : List (Package.Reference × Role)) (g : Graph)
    (h : (g.entries.map Entry.name ++ l.map (·.1.name.val)).Nodup) :
    (l.foldl (fun g (r, role) => g.push r role) g).entries =
      g.entries ++ l.map fun (r, role) => ⟨r, role⟩ := by
  induction l generalizing g with
  | nil => simp
  | cons x rest ih =>
    obtain ⟨r, role⟩ := x
    have hnew : r.name.val ∉ g.entries.map Entry.name := by
      intro hm
      have := (List.nodup_append.mp h).2.2
      exact this _ hm _ (List.mem_cons_self) rfl
    have hpush := Graph.push_entries role hnew
    rw [List.foldl_cons, ih _ (by rw [hpush]; simpa [Entry.name] using h), hpush]
    simp

/-- the name of every pin, in the order of the rules -/
def pinNames : List String :=
  (baselineHost ++ [archiveLib, argParser] ++ [nativeBuildTool, buildHelper] ++
    [complianceChecker, testFramework] ++ [docGenerator] ++ [scriptInterpreter]).map (·.name.val)

theorem pinNames_nodup : pinNames.Nodup := by decide

theorem pinnedList_names_nodup (o : ResolvedOptions) (t : Bool) (s : Settings) :
    ((pinnedList o t s).map (·.1.name.val)).Nodup := by
  refine pinNames_nodup.sublist ?_
  simp only [pinnedList, pinNames, baselineHost, List.map_append, List.map_cons, List.map_nil]
  -- the rules add the pins in the order of `pinNames`, each rule all or none of its pins
  refine List.Sublist.append (List.Sublist.append (List.Sublist.append (List.Sublist.append
    (List.Sublist.append ?_ ?_) ?_) ?_) ?_) ?_ <;>
    first | exact List.Sublist.refl _ | (split <;> simp)

/-- the graph lists the pinned requirements in order, each once -/
theorem requirements_entries (o : ResolvedOptions) (t : Bool) (s : Settings) :
    (requirements o t s).entries = (pinnedList o t s).map fun (r, role) => ⟨r, role⟩ := by
  unfold requirements
  rw [foldl_push_entries _ {} (by simpa using pinnedList_names_nodup o t s)]
  rfl

end Requirement

/-! ## Settings -/

theorem Os.parse_eq_windows (s : String) : Os.parse s = .windows ↔ Text.lowerAscii s = "windows" := by
  simp only [Os.parse, Text.readSpelling, Os.spellings, List.lookup_cons, List.lookup_nil]
  repeat' split
  all_goals simp_all

/-- the target system is the profile's, read, or the host's -/
theorem Profile.resolveSettings_os {p : Profile} {d : Option CompilerSettings} {s : Settings}
    (h : p.resolveSettings d = .ok s) : s.os = (p.settings.os.map Os.parse).getD Os.host := by
  unfold Profile.resolveSettings at h
  simp only [bind, Except.bind, pure, Except.pure, throw, throwThe, MonadExceptOf.throw] at h
  -- every branch that succeeds builds its settings from the same system
  repeat' split at h
  all_goals first | (cases h; rfl) | cases h

theorem Profile.resolveSettings_isWindows {p : Profile} {d : Option CompilerSettings} {s : Settings}
    (h : p.resolveSettings d = .ok s) :
    s.isWindows = true ↔ p.settings.os.map Text.lowerAscii = some "windows" := by
  rw [Settings.isWindows, Profile.resolveSettings_os h]
  cases p.settings.os with
  | none => decide
  | some os => simpa using Os.parse_eq_windows os

/-! ## Evaluations -/

theorem Evaluation.ofProfile_eq_ok {recipe : Package.Recipe} {p : Profile} {config : Config}
    {cli : Option Bool} {detected : Option CompilerSettings} {e : Evaluation}
    (h : Evaluation.ofProfile recipe p config cli detected = .ok e) :
    ∃ settings options, p.resolveSettings detected = .ok settings ∧
      (ResolvedOptions.resolve .standard settings).applyOverrides .standard p.optionOverrides =
        .ok options ∧
      e = { recipe, settings, options, config,
            withTests := !skipTestFlag cli p.skipTest config.skipTest,
            graph := Requirement.requirements options (!skipTestFlag cli p.skipTest config.skipTest)
              settings } := by
  unfold Evaluation.ofProfile at h
  obtain ⟨settings, hs, h⟩ := except_bind_eq_ok.mp h
  obtain ⟨options, ho, h⟩ := except_bind_eq_ok.mp h
  exact ⟨settings, options, except_mapError_eq_ok.mp hs, except_mapError_eq_ok.mp ho,
    (Except.ok.inj h).symm⟩

open Requirement in
/-- **Evaluation.** For every recipe, profile, configuration, command-line test switch and
detected compiler, a successful evaluation
- targets Windows exactly when the profile's system lower-cases to `windows`;
- has `fPIC` in effect exactly off Windows, at the profile's override or on;
- builds the tests unless the first of the command line, the profile and the configuration that
  says so skips them, skipping them when none does;
- requires, in this order and each once, the five host libraries, the tools' archive and argument
  libraries when the profile's `with_tools` (on by default) is on, CMake and the FMU build helper,
  the compliance checker and the test framework when tests are built, doxygen when the profile's
  `with_doc` (off by default) is on, and perl with it on Windows; and nothing else. -/
theorem evaluation_options_tests_graph (recipe : Package.Recipe) (p : Profile) (config : Config)
    (cli : Option Bool) (detected : Option CompilerSettings) (e : Evaluation)
    (h : Evaluation.ofProfile recipe p config cli detected = .ok e) :
    (e.settings.isWindows = true ↔ p.settings.os.map Text.lowerAscii = some "windows") ∧
    e.options.fpic =
      (if e.settings.isWindows then none else some ((p.options.get? optionFpic).getD true)) ∧
    e.withTests = !(cli <|> p.skipTest <|> config.skipTest).getD true ∧
    e.graph.entries.map (fun r => (r.reference, r.role)) =
      [fmiShim, ddsMiddleware, uuidLib, xmlParser, xtypesLib].map (·, Role.host) ++
      (if (p.options.get? optionWithTools).getD true then
        [(archiveLib, .host), (argParser, .host)] else []) ++
      [(nativeBuildTool, .buildTool), (buildHelper, .buildTool)] ++
      (if e.withTests then [(complianceChecker, .buildTool), (testFramework, .test)] else []) ++
      (if (p.options.get? optionWithDoc).getD false then [(docGenerator, .buildTool)] else []) ++
      (if (p.options.get? optionWithDoc).getD false && e.settings.isWindows then
        [(scriptInterpreter, .buildTool)] else []) ∧
    (e.graph.entries.map Requirement.Entry.name).Nodup := by
  obtain ⟨settings, options, hs, ho, rfl⟩ := Evaluation.ofProfile_eq_ok h
  -- every option in effect ends at the profile's value, since the profile names it once
  have hget : ∀ k, options.get? k =
      ((ResolvedOptions.resolve .standard settings).get? k).map fun u => (p.options.get? k).getD u := by
    intro k
    rw [ResolvedOptions.applyOverrides_get? ho, Profile.optionOverrides,
      SortedMap.lookup_reverse p.options.keys_nodup]
    rfl
  have hfpic : options.fpic =
      if settings.isWindows then none else some ((p.options.get? optionFpic).getD true) := by
    cases hw : settings.isWindows <;>
      simp [ResolvedOptions.fpic, hget, ResolvedOptions.resolve_get?, hw,
        ResolvedOptions.standard_fpic]
  have htools : options.withTools = (p.options.get? optionWithTools).getD true := by
    have hne : optionWithTools ≠ optionFpic := by decide
    simp [ResolvedOptions.withTools, hget, ResolvedOptions.resolve_get?, hne,
      ResolvedOptions.standard_withTools]
  have hdoc : options.withDoc = (p.options.get? optionWithDoc).getD false := by
    have hne : optionWithDoc ≠ optionFpic := by decide
    simp [ResolvedOptions.withDoc, hget, ResolvedOptions.resolve_get?, hne,
      ResolvedOptions.standard_withDoc]
  refine ⟨Profile.resolveSettings_isWindows hs, hfpic, rfl, ?_, ?_⟩
  · have hpairs : ((fun r : Requirement.Entry => (r.reference, r.role)) ∘
        fun x : Package.Reference × Role => (⟨x.1, x.2⟩ : Requirement.Entry)) = id := rfl
    rw [requirements_entries, List.map_map, hpairs, List.map_id]
    simp only [pinnedList, htools, hdoc, baselineHost]
  · rw [requirements_entries, List.map_map]
    exact pinnedList_names_nodup _ _ _

open Requirement in
/-- A profile that spells Windows in capitals, turns `fPIC` off and the documentation on, under a
configuration that builds the tests: `fPIC` is dropped, and doxygen comes with perl. -/
theorem evaluation_windows_documentation :
    let p : Profile :=
      { settings := { os := some "WINDOWS", compiler := { family := some "gcc", version := some "11" } },
        options := SortedMap.ofList [(optionFpic, false), (optionWithDoc, true)] }
    let config : Config := { skipTest := some false }
    let e := (Evaluation.ofProfile default p config none none).toOption.getD default
    Evaluation.ofProfile default p config none none = .ok e ∧
    (e.settings.isWindows = true ↔ p.settings.os.map Text.lowerAscii = some "windows") ∧
    e.options.fpic =
      (if e.settings.isWindows then none else some ((p.options.get? optionFpic).getD true)) ∧
    e.withTests = !(none <|> p.skipTest <|> config.skipTest).getD true ∧
    e.graph.entries.map (fun r => (r.reference, r.role)) =
      [fmiShim, ddsMiddleware, uuidLib, xmlParser, xtypesLib].map (·, Role.host) ++
      (if (p.options.get? optionWithTools).getD true then
        [(archiveLib, .host), (argParser, .host)] else []) ++
      [(nativeBuildTool, .buildTool), (buildHelper, .buildTool)] ++
      (if e.withTests then [(complianceChecker, .buildTool), (testFramework, .test)] else []) ++
      (if (p.options.get? optionWithDoc).getD false then [(docGenerator, .buildTool)] else []) ++
      (if (p.options.get? optionWithDoc).getD false && e.settings.isWindows then
        [(scriptInterpreter, .buildTool)] else []) ∧
    (e.graph.entries.map Requirement.Entry.name).Nodup := by
  intro p config e
  exact ⟨rfl, evaluation_options_tests_graph default p config none none e rfl⟩

end BuildRecipe

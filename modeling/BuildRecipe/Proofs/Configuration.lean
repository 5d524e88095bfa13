/-
Tool configuration: how two configurations merge, what a configuration file sets, and the values
evaluation and generation take from them.

- `Config.merge` takes each value from its right side when that side sets it, so it is
  associative, idempotent and has the empty configuration on both sides as identity
  (`Config.merge_assoc`, `Config.merge_self`, `Config.empty_merge`, `Config.merge_empty`).
- A file sets what its `[build]` table sets when it can be read and every value there reads, and
  nothing otherwise (`Config.ofFile`, `Config.ofBuildTable?_eq_some_iff`): a value of the wrong type
  makes the whole file count as setting nothing.
- Loading the configuration never fails and changes nothing: the global file's values with the
  project file's over them (`run_loadConfig`).
- A successful evaluation reads only, keeps the configuration of the user's file and the recipe's
  project file, and builds the tests unless the first of the command line, the profile, the
  project file and the user's file that says so skips them (`ensures_evaluate`). Generation takes
  the build folder given, else the configured one, else `build/<type>` below the recipe root
  (`Generation.buildFolder_buildLayout`), and the report format given, else the configured one,
  else a table (`Generation.generate_eq_explicit_format`).

Main statement: `Config.configuration_precedence`.
-/
import BuildRecipe.Generation
import BuildRecipe.Proofs.Evaluation
import BuildRecipe.Proofs.Job
import BuildRecipe.Proofs.SettingsResolution

namespace BuildRecipe

/-! ## Merging -/

namespace Config

attribute [ext] Config

variable (a b c : Config)

@[simp] theorem skipTest_merge : (a.merge b).skipTest = (b.skipTest <|> a.skipTest) := rfl
@[simp] theorem jobs_merge : (a.merge b).jobs = (b.jobs <|> a.jobs) := rfl
@[simp] theorem licenseFormat_merge :
    (a.merge b).licenseFormat = (b.licenseFormat <|> a.licenseFormat) := rfl
@[simp] theorem buildFolder_merge :
    (a.merge b).buildFolder = (b.buildFolder <|> a.buildFolder) := rfl

theorem merge_assoc : (a.merge b).merge c = a.merge (b.merge c) := by
  ext <;> simp [Option.or_assoc]

theorem merge_self : a.merge a = a := by
  ext <;> simp

theorem empty_merge : ({} : Config).merge a = a := by
  ext <;> simp

theorem merge_empty : a.merge {} = a := by
  ext <;> simp

example : ({ skipTest := some true, jobs := some 2 } : Config).merge { jobs := some 8 } =
    { skipTest := some true, jobs := some 8 } := rfl

/-! ## Configuration files -/

/-- the configuration a file sets: what its document sets when the file can be read and parsed,
nothing otherwise -/
def ofFile (t : FileTree) (p : Path) : Config :=
  match t.read p with
  | .ok text => ((Toml.parse text).bind ofToml?).getD {}
  | .error _ => {}

/-- a `[build]` table reads exactly when each of its four values is absent or reads -/
theorem ofBuildTable?_eq_some_iff (v : Toml.Value) (c : Config) :
    ofBuildTable? v = some c ↔
      ∃ es, v.recordEntries? ["skip_test", "jobs", "license_format", "build_folder"] = some es ∧
        Toml.optional es "skip_test" Toml.Value.asBool? = some c.skipTest ∧
        Toml.optional es "jobs" jobsOf? = some c.jobs ∧
        Toml.optional es "license_format" formatOf? = some c.licenseFormat ∧
        Toml.optional es "build_folder" (fun v => Path.ofString <$> v.asString?) =
          some c.buildFolder := by
  unfold ofBuildTable?
  simp only [bind, Option.bind_eq_some_iff, pure, Option.some.injEq]
  constructor
  · rintro ⟨es, hes, s, hs, j, hj, f, hf, b, hb, rfl⟩
    exact ⟨es, hes, hs, hj, hf, hb⟩
  · rintro ⟨es, hes, hs, hj, hf, hb⟩
    exact ⟨es, hes, _, hs, _, hj, _, hf, _, hb, rfl⟩

theorem exists?_of_read {t : FileTree} {p : Path} {text : String} (h : t.read p = .ok text) :
    t.exists? p = true := by
  unfold FileTree.read at h
  unfold FileTree.exists?
  cases hs : t.stat p with
  | error e => simp [hs, bind, Except.bind] at h
  | ok entry => rfl

end Config

/-! ## Loading -/

namespace Job

variable {α β : Type}

@[simp] theorem run_readFile (p : Path) (w : Workspace) :
    (readFile p).run w = ((w.files.read p).mapError fun e => Failure.of (.os e), w) := by
  unfold readFile
  rw [run_bind, run_files]
  exact run_ofOs _ w

@[simp] theorem run_pathExists (p : Path) (w : Workspace) :
    (pathExists p).run w = (.ok (w.files.exists? p), w) := rfl

end Job

namespace Config

theorem run_load (p : Path) (w : Workspace) :
    ∃ r, (load p).run w = (r, w) ∧ r.toOption = ((w.files.read p).toOption.bind
      fun text => (Toml.parse text).bind ofToml?) := by
  unfold load
  rw [Job.run_bind, Job.run_context, Job.run_readFile]
  cases hr : w.files.read p with
  | error e => exact ⟨_, rfl, rfl⟩
  | ok text =>
    simp only [Except.mapError, Except.toOption, Option.bind_some]
    cases (Toml.parse text).bind ofToml? with
    | none => exact ⟨_, rfl, rfl⟩
    | some c => exact ⟨_, rfl, rfl⟩

/-- loading a file never fails and changes nothing: the file's values, or none -/
theorem run_loadOrDefault (p : Path) (w : Workspace) :
    (loadOrDefault p).run w = (.ok (ofFile w.files p), w) := by
  obtain ⟨r, hrun, hr⟩ := run_load p w
  unfold loadOrDefault ofFile
  rw [Job.run_bind, Job.run_pathExists]
  cases hread : w.files.read p with
  | error e =>
    -- a file that cannot be read gives nothing, whether it exists or not
    have hnone : r.toOption = none := by rw [hr, hread]; rfl
    cases hex : w.files.exists? p
    · rfl
    · simp only [↓reduceIte, Job.run_bind, Job.run_attempt, hrun]
      cases r with
      | ok c => simp [Except.toOption] at hnone
      | error f => rfl
  | ok text =>
    have hparse : r.toOption = (Toml.parse text).bind ofToml? := by rw [hr, hread]; rfl
    simp only [Config.exists?_of_read hread, ↓reduceIte, Job.run_bind, Job.run_attempt, hrun]
    rw [← hparse]
    cases r <;> rfl

end Config

/-- loading the configuration never fails and changes nothing: the global file's values with the
project file's over them -/
theorem run_loadConfig (g p : Path) (w : Workspace) :
    (loadConfig (some g) p).run w =
      (.ok ((Config.ofFile w.files g).merge (Config.ofFile w.files p)), w) := by
  unfold loadConfig
  simp only [Job.run_bind, Config.run_loadOrDefault]
  rw [Config.empty_merge]
  rfl

/-! ## Postconditions of jobs -/

namespace Job

variable {α β : Type}

/-- every run of `j` from `w` that succeeds ends in a value and a workspace with `post` -/
def Ensures (j : Job α) (w : Workspace) (post : α → Workspace → Prop) : Prop :=
  ∀ a w', j.run w = (.ok a, w') → post a w'

theorem Ensures.mono {j : Job α} {w : Workspace} {P Q : α → Workspace → Prop}
    (h : Ensures j w P) (hPQ : ∀ a w', P a w' → Q a w') : Ensures j w Q :=
  fun a w' hrun => hPQ a w' (h a w' hrun)

/-- sequencing: the second part starts where the first part's postcondition holds -/
theorem Ensures.bind {x : Job α} {f : α → Job β} {w : Workspace} {P : α → Workspace → Prop}
    {Q : β → Workspace → Prop} (hx : Ensures x w P) (hf : ∀ a w', P a w' → Ensures (f a) w' Q) :
    Ensures (x >>= f) w Q := by
  intro b w'' h
  rw [run_bind] at h
  rcases hr : x.run w with ⟨_ | a, w'⟩ <;> rw [hr] at h
  · cases h
  · exact hf a w' (hx a w' hr) b w'' h

theorem ensures_of_run {j : Job α} {w w' : Workspace} {r : Outcome α} (h : j.run w = (r, w')) :
    Ensures j w fun a w'' => r = .ok a ∧ w'' = w' := by
  intro a w'' hrun
  rw [h] at hrun
  cases hrun
  exact ⟨rfl, rfl⟩

theorem ensures_pure (a : α) (w : Workspace) :
    Ensures (pure a : Job α) w fun b w' => b = a ∧ w' = w :=
  (ensures_of_run (run_pure a w)).mono fun _ _ ⟨h, hw⟩ => ⟨(Except.ok.inj h).symm, hw⟩

theorem ensures_fail (f : Failure) (w : Workspace) (post : α → Workspace → Prop) :
    Ensures (fail f : Job α) w post := by
  intro a w' h
  cases h

theorem Ensures.context {j : Job α} {w : Workspace} {P : α → Workspace → Prop}
    (h : Ensures j w P) (line : String) : Ensures (context line j) w P := by
  intro a w' hrun
  rw [run_context] at hrun
  rcases hj : j.run w with ⟨_ | b, w₁⟩ <;> rw [hj] at hrun
  · cases hrun
  · cases hrun
    exact h _ _ hj

theorem ensures_readFile (p : Path) (w : Workspace) :
    Ensures (readFile p) w fun text w' => w.files.read p = .ok text ∧ w' = w := by
  intro text w' hrun
  rw [run_readFile] at hrun
  cases hr : w.files.read p <;> rw [hr] at hrun <;> cases hrun
  exact ⟨rfl, rfl⟩

theorem ensures_ofOutcome (r : Outcome α) (w : Workspace) :
    Ensures (ofOutcome r) w fun a w' => r = .ok a ∧ w' = w :=
  ensures_of_run (run_ofOutcome r w)

/-- a fold keeps what each step keeps -/
theorem Ensures.foldlM {l : List α} {f : β → α → Job β} (I : β → Workspace → Prop)
    (hf : ∀ b a w, I b w → Ensures (f b a) w I) {b : β} {w : Workspace} (h0 : I b w) :
    Ensures (l.foldlM f b) w I := by
  induction l generalizing b w with
  | nil => exact (ensures_pure b w).mono fun _ _ ⟨hb, hw⟩ => hb ▸ hw ▸ h0
  | cons a rest ih =>
    rw [List.foldlM_cons]
    exact (hf b a w h0).bind fun b' w' hI => ih hI

end Job

/-! ## Evaluating -/

open Job

/-- the test switch of the profile an evaluation reads, when it reads one that sets it -/
def profileSkipTest (t : FileTree) (inv : Invocation) (opts : EvaluateOptions) : Option Bool :=
  (opts.profile.bind fun p => (t.read (inv.resolve p)).toOption.bind Profile.parse?).bind
    (·.skipTest)

theorem ensures_readVersion (root : Path) (w : Workspace) :
    Ensures (Package.readVersion root) w fun _ w' => w' = w := by
  unfold Package.readVersion
  refine Ensures.bind (P := fun _ w' => w' = w) ?_ fun r w₁ hw₁ => ?_
  · intro r w' hrun
    rw [run_attempt] at hrun
    cases hrun
    simp
  · subst hw₁
    dsimp only
    split
    · exact ensures_fail _ _ _
    · split
      · exact ensures_fail _ _ _
      · exact (ensures_pure _ _).mono fun _ _ h => h.2

/-- loading a recipe reads only, and the recipe lives at the root it was loaded from -/
theorem ensures_recipeLoad (root : Path) (w : Workspace) :
    Ensures (Package.Recipe.load root) w fun r w' => r.root = root ∧ w' = w := by
  unfold Package.Recipe.load
  refine ((ensures_readFile _ w).context _).bind fun text w₁ hw₁ => ?_
  obtain ⟨-, rfl⟩ := hw₁
  -- the manifest's package table, then the version file
  dsimp only
  split
  · refine (ensures_pure _ _).bind fun data w₂ ⟨_, hw₂⟩ => ?_
    subst w₂
    refine (ensures_readVersion root w₁).bind fun version w₃ hw₃ => ?_
    exact (ensures_pure _ _).mono fun _ _ ⟨hr, hw⟩ => ⟨hr ▸ rfl, hw.trans hw₃⟩
  · exact (ensures_fail _ _ fun _ _ => False).bind fun _ _ h => h.elim

/-- loading a profile reads only, and gives what the file's text parses to -/
theorem ensures_profileLoad (p : Path) (w : Workspace) :
    Ensures (Profile.load p) w fun prof w' =>
      (w.files.read p).toOption.bind Profile.parse? = some prof ∧ w' = w := by
  unfold Profile.load
  refine ((ensures_readFile _ w).context _).bind fun text w₁ hw₁ => ?_
  obtain ⟨hread, rfl⟩ := hw₁
  split
  · rename_i prof hparse
    exact (ensures_pure _ _).mono fun _ _ ⟨hb, hw⟩ => ⟨by simp [hread, Except.toOption, hparse, hb],
      hw⟩
  · exact ensures_fail _ _ _

/-- the command line's settings and options, written over a profile one by one, leave its test
switch alone -/
theorem ensures_foldlM_skipTest {l : List (String × String)}
    (step : Profile → String × String → Except RecipeError Profile)
    (hstep : ∀ p kv p', step p kv = .ok p' → p'.skipTest = p.skipTest) (prof : Profile)
    (w : Workspace) :
    Ensures (l.foldlM (fun p kv => ofOutcome ((step p kv).mapError Failure.recipe)) prof) w
      fun p' w' => p'.skipTest = prof.skipTest ∧ w' = w := by
  refine Ensures.foldlM _ (fun p kv w₁ hI => ?_) ⟨rfl, rfl⟩
  exact (ensures_ofOutcome _ w₁).mono fun p' w' ⟨hr, hw⟩ =>
    ⟨(hstep p kv p' (except_mapError_eq_ok.mp hr)).trans hI.1, hw.trans hI.2⟩

theorem skipTest_of_setSetting {p p' : Profile} {k v : String} (h : p.setSetting k v = .ok p') :
    p'.skipTest = p.skipTest := by
  by_cases hk : k ∈ Profile.settingKeys
  · obtain ⟨p'', hok, -, -, -, hskip⟩ := (Profile.setSetting_slots p k v).2 hk
    rw [hok] at h
    cases h
    exact hskip
  · obtain ⟨msg, herr⟩ := (Profile.setSetting_slots p k v).1 hk
    rw [herr] at h
    cases h

theorem skipTest_of_setOption {p p' : Profile} {k v : String} (h : p.setOption k v = .ok p') :
    p'.skipTest = p.skipTest := by
  cases hb : parseBool v with
  | none =>
    obtain ⟨msg, herr⟩ := (Profile.setOption_slots p k v).1 hb
    rw [herr] at h
    cases h
  | some b =>
    obtain ⟨p'', hok, -, -, -, hskip⟩ := (Profile.setOption_slots p k v).2 b hb
    rw [hok] at h
    cases h
    exact hskip

/-- what a successful evaluation started on `w` ends with: the workspace as it was, the recipe at
the root asked for, the configuration of the user's file with the project file's over it, and the
tests built unless the first of the command line, the profile, the project file and the user's
file that says so skips them -/
def EvaluatedFrom (inv : Invocation) (opts : EvaluateOptions) (w : Workspace) (e : Evaluation)
    (w' : Workspace) : Prop :=
  w' = w ∧ e.recipe.root = (opts.recipeRoot.map inv.resolve).getD inv.cwd ∧
  e.config = (Config.ofFile w.files inv.configPath).merge
    (Config.ofFile w.files (projectConfigPath e.recipe.root)) ∧
  e.withTests = !(opts.skipTest <|> profileSkipTest w.files inv opts <|>
    (Config.ofFile w.files (projectConfigPath e.recipe.root)).skipTest <|>
    (Config.ofFile w.files inv.configPath).skipTest).getD true

theorem ensures_evaluate (inv : Invocation) (opts : EvaluateOptions) (banner : Option String)
    (w : Workspace) : Ensures (evaluate inv opts banner) w (EvaluatedFrom inv opts w) := by
  unfold evaluate
  -- the recipe
  refine (ensures_recipeLoad _ w).bind fun recipe w₁ ⟨hroot, hw₁⟩ => ?_
  subst w₁
  extract_lets jp
  -- the rest runs from the profile, whether it is read from its file or empty
  suffices hrest : ∀ prof : Profile, prof.skipTest = profileSkipTest w.files inv opts →
      Ensures (jp prof) w (EvaluatedFrom inv opts w) by
    split
    · rename_i p hp
      exact (ensures_profileLoad _ w).bind fun prof w₂ ⟨hprof, hw₂⟩ =>
        hw₂ ▸ hrest prof (by simp [profileSkipTest, hp, hprof])
    · rename_i hp
      exact (ensures_pure _ w).bind fun prof w₂ ⟨hprof, hw₂⟩ =>
        hw₂ ▸ hrest prof (by simp [profileSkipTest, hp, hprof])
  intro prof hprof
  simp only [jp]
  -- the command line's settings and options
  refine (ensures_foldlM_skipTest _ (fun _ _ _ => skipTest_of_setSetting) prof w).bind
    fun prof₁ w₃ ⟨hprof₁, hw₃⟩ => ?_
  subst w₃
  refine (ensures_foldlM_skipTest _ (fun _ _ _ => skipTest_of_setOption) prof₁ w).bind
    fun prof₂ w₄ ⟨hprof₂, hw₄⟩ => ?_
  subst w₄
  -- the configuration, then the evaluation itself
  refine (ensures_of_run (run_loadConfig _ _ w)).bind fun config w₅ ⟨hconfig, hw₅⟩ => ?_
  subst w₅
  refine (ensures_ofOutcome _ w).mono fun e w' ⟨he, hw⟩ => ?_
  obtain ⟨settings, options, -, -, rfl⟩ := Evaluation.ofProfile_eq_ok he
  cases hconfig
  refine ⟨hw, ?_, rfl, ?_⟩
  · rw [hroot]
    cases opts.recipeRoot <;> rfl
  · simp [skipTestFlag, hprof₂, hprof₁, hprof]

/-! ## Generating -/

namespace Generation

/-- the build folder: the one given, else the configured one, each taken from the recipe root
when relative, else `build/<type>` below the recipe root -/
theorem buildFolder_buildLayout (e : Evaluation) (folder : Option Path) :
    (buildLayout e folder).buildFolder =
      ((folder <|> e.config.buildFolder).map fun f =>
        if f.isAbsolute then f else e.recipe.root.join f).getD
      ((e.recipe.root.join "build").join e.settings.buildType.name) := by
  unfold buildLayout
  cases folder <|> e.config.buildFolder <;> rfl

/-- the report format is the one given, else the configured one, else a table: generation runs as
if that format were given and none configured -/
theorem generate_eq_explicit_format (e : Evaluation) (opts : GenerateOptions) :
    generate e opts =
      generate { e with config := { e.config with licenseFormat := none } }
        { opts with licenseFormat := some ((opts.licenseFormat <|> e.config.licenseFormat).getD .table) } := by
  unfold generate buildLayout
  rfl

end Generation

namespace Config

/-- **Configuration: merging, files, and precedence.**
- merging takes each of the four values from the right side when it sets it, else from the left;
  so it is associative and idempotent, with the empty configuration as identity on both sides;
- a `[build]` table sets its values exactly when each one present reads, so a value of the wrong
  type makes its file set nothing;
- loading the configuration never fails and changes nothing, and gives the global file's values
  with the project file's over them, a file that is missing or cannot be read or parsed setting
  nothing;
- a successful evaluation changes nothing, loads the recipe at the root asked for, keeps the
  configuration of the user's file and the recipe's project file, and builds the tests unless the
  first of the command line, the profile, the project file and the user's file that says so
  skips them;
- generation builds in the folder given, else the configured one (relative ones below the recipe
  root), else `build/<type>` below the recipe root, and reports in the format given, else the
  configured one, else a table. -/
theorem configuration_precedence :
    (∀ a b : Config, (a.merge b).skipTest = (b.skipTest <|> a.skipTest) ∧
      (a.merge b).jobs = (b.jobs <|> a.jobs) ∧
      (a.merge b).licenseFormat = (b.licenseFormat <|> a.licenseFormat) ∧
      (a.merge b).buildFolder = (b.buildFolder <|> a.buildFolder)) ∧
    (∀ a b c : Config, (a.merge b).merge c = a.merge (b.merge c)) ∧
    (∀ a : Config, a.merge a = a ∧ ({} : Config).merge a = a ∧ a.merge {} = a) ∧
    (∀ (v : Toml.Value) (c : Config), ofBuildTable? v = some c ↔
      ∃ es, v.recordEntries? ["skip_test", "jobs", "license_format", "build_folder"] = some es ∧
        Toml.optional es "skip_test" Toml.Value.asBool? = some c.skipTest ∧
        Toml.optional es "jobs" jobsOf? = some c.jobs ∧
        Toml.optional es "license_format" formatOf? = some c.licenseFormat ∧
        Toml.optional es "build_folder" (fun v => Path.ofString <$> v.asString?) =
          some c.buildFolder) ∧
    (∀ (g p : Path) (w : Workspace), (loadConfig (some g) p).run w =
      (.ok ((ofFile w.files g).merge (ofFile w.files p)), w)) ∧
    (∀ (inv : Invocation) (opts : EvaluateOptions) (banner : Option String) (w : Workspace),
      Job.Ensures (evaluate inv opts banner) w fun e w' =>
        w' = w ∧ e.recipe.root = (opts.recipeRoot.map inv.resolve).getD inv.cwd ∧
        e.config = (ofFile w.files inv.configPath).merge
          (ofFile w.files (projectConfigPath e.recipe.root)) ∧
        e.withTests = !(opts.skipTest <|> profileSkipTest w.files inv opts <|>
          (ofFile w.files (projectConfigPath e.recipe.root)).skipTest <|>
          (ofFile w.files inv.configPath).skipTest).getD true) ∧
    (∀ (e : Evaluation) (folder : Option Path), (buildLayout e folder).buildFolder =
      ((folder <|> e.config.buildFolder).map fun f =>
        if f.isAbsolute then f else e.recipe.root.join f).getD
      ((e.recipe.root.join "build").join e.settings.buildType.name)) ∧
    (∀ (e : Evaluation) (opts : GenerateOptions), generate e opts =
      generate { e with config := { e.config with licenseFormat := none } }
        { opts with licenseFormat := some ((opts.licenseFormat <|> e.config.licenseFormat).getD .table) }) :=
  ⟨fun a b => ⟨skipTest_merge a b, jobs_merge a b, licenseFormat_merge a b, buildFolder_merge a b⟩,
    merge_assoc, fun a => ⟨merge_self a, empty_merge a, merge_empty a⟩, ofBuildTable?_eq_some_iff,
    run_loadConfig, ensures_evaluate, Generation.buildFolder_buildLayout,
    Generation.generate_eq_explicit_format⟩

end Config

end BuildRecipe

/-
A whole build, stage by stage. Validation, generation, the hooks before the build, the pipeline
and the hooks after it run in that order, and a stage starts only when every stage before it has
succeeded: a build ends with the outcome and the workspace of the first stage that fails.

- A compiler the recipe cannot use is refused as a configuration incompatibility
  (`validate_eq_error`), before anything runs.
- Generation and the hooks before the build leave every environment variable alone
  (`keepsEnv_generate`, `Hook.keepsEnv_preBuild`), so the pipeline runs under the variables the
  build started with.
- Dispatching the hooks before the build never fails as a job: a failing hook is a value, on
  which the build stops. When every hook succeeds, the context holds exactly the destinations
  the package's hooks compute (`Hook.destination`), and the test reports go to the test-results
  hook's (`Hook.Registry.dispatchPreBuild_run`).

Main statement: `Build.buildWith_stops_at_first_failure`.
-/
import BuildRecipe.Build.Run
import BuildRecipe.Proofs.Pipeline

namespace BuildRecipe

open Job

/-! ## Validation -/

/-- the only refusal of validation is a configuration incompatibility of the reference -/
theorem validate_eq_error {reference : Package.Reference} {compiler : CompilerSettings}
    {err : RecipeError} (h : validate reference compiler = .error err) :
    ∃ reason, err = .configurationIncompatibility reference.display minimumStandard reason := by
  have hfamily : validate.byFamily compiler
      (fun reason => .configurationIncompatibility reference.display minimumStandard reason) =
      .error err → ∃ reason, err = .configurationIncompatibility reference.display minimumStandard reason := by
    intro hb
    unfold validate.byFamily at hb
    split at hb
    · cases hb
    · split at hb
      · cases hb
        exact ⟨_, rfl⟩
      · cases hb
  unfold validate at h
  split at h
  · split at h
    · cases h
      exact ⟨_, rfl⟩
    · exact hfamily h
  · exact hfamily h

/-! ## Generation keeps the environment -/

theorem Toolchain.keepsEnv_write (t : Toolchain) (layout : Layout) (deps : List Dependency) :
    (t.write layout deps).KeepsEnv :=
  (keepsEnv_writeText _ _).bind fun _ => keepsEnv_writeText _ _

namespace License

theorem keepsEnv_globFiles (base : Path) (pattern : String) :
    (globFiles base pattern).KeepsEnv := by
  refine keepsEnv_files.bind fun t => ?_
  split
  · exact keepsEnv_fail _
  · exact keepsEnv_pure _

theorem keepsEnv_copyTree (source target : Path) : (copyTree source target).KeepsEnv :=
  (keepsEnv_globFiles _ _).bind fun _ => KeepsEnv.forM fun _ => keepsEnv_copyTo _ _

theorem keepsEnv_aggregate (identity : Package.Identity) (layout : Layout)
    (deps : List Dependency) : (aggregate identity layout deps).KeepsEnv := by
  unfold aggregate
  refine (KeepsEnv.foldlM (fun m d => ?_) _).bind fun m => ?_
  · -- one dependency: a row, and its license folder copied when it is new and present
    dsimp only
    split
    · exact keepsEnv_pure _
    · refine (keepsEnv_isDir _).bind fun b => ?_
      cases b
      · exact keepsEnv_pure _
      · exact (keepsEnv_copyTree _ _).bind fun _ => keepsEnv_pure _
  · refine (keepsEnv_isFile _).bind fun b => ?_
    cases b
    · exact keepsEnv_pure _
    · exact (keepsEnv_copyTo _ _).bind fun _ => keepsEnv_pure _

theorem keepsEnv_writeReport (m : Manifest) (layout : Layout) (format : Format) (withDoc : Bool) :
    (writeReport m layout format withDoc).KeepsEnv := by
  refine (keepsEnv_writeText _ _).bind fun _ => ?_
  cases withDoc
  · exact keepsEnv_pure _
  · exact keepsEnv_writeText _ _

end License

theorem keepsEnv_seedShim (layout : Layout) (deps : List Dependency) :
    (seedShim layout deps).KeepsEnv := by
  unfold seedShim
  dsimp only
  split
  · exact keepsEnv_pure _
  · split
    · exact keepsEnv_pure _
    · refine (keepsEnv_isFile _).bind fun b => ?_
      cases b
      · exact keepsEnv_pure _
      · exact (keepsEnv_copyTo _ _).bind fun _ => keepsEnv_pure _

theorem keepsEnv_generate (e : Evaluation) (opts : GenerateOptions) : (generate e opts).KeepsEnv :=
  (Toolchain.keepsEnv_write _ _ _).bind fun _ => (License.keepsEnv_aggregate _ _ _).bind fun _ =>
    (License.keepsEnv_writeReport _ _ _ _).bind fun _ => (keepsEnv_seedShim _ _).bind fun _ =>
      keepsEnv_pure _

/-! ## The hooks before the build -/

namespace Hook

namespace Context

/-- the CI directory `ciDirectory` gives when the process's variables are `env` -/
def ciPath (c : Context) (env : String → Option String) (subdir : String) : Path :=
  match ((c.env.get? ciProjectDir).getD (env ciProjectDir)).filter (!·.isEmpty) with
  | some dir => (Path.ofString dir).join subdir
  | none => c.recipeRoot.join subdir

theorem run_envVar (c : Context) (key : String) (w : Workspace) :
    (c.envVar key).run w =
      (.ok (((c.env.get? key).getD (w.env.get? key)).filter (!·.isEmpty)), w) := by
  unfold envVar
  cases c.env.get? key <;> rfl

@[simp] theorem run_ciDirectory (c : Context) (subdir : String) (w : Workspace) :
    (c.ciDirectory subdir).run w = (.ok (c.ciPath w.env.get? subdir), w) := by
  unfold ciDirectory
  rw [run_bind_ok (run_envVar c ciProjectDir w)]
  unfold ciPath
  split <;> rename_i hdir <;> simp only [hdir, run_pure]

theorem keepsEnv_ciDirectory (c : Context) (subdir : String) : (c.ciDirectory subdir).KeepsEnv :=
  fun w => by simp

theorem setDestination_eq_ok {c c' : Context} {hook : String} {p : Path}
    (h : c.setDestination hook p = .ok c') :
    c.destination? hook = none ∧ c' = { c with destinations := c.destinations.insert hook p } := by
  unfold setDestination at h
  split at h
  · cases h
  · rename_i hnone
    exact ⟨hnone, (Except.ok.inj h).symm⟩

end Context

theorem keepsEnv_prepareDestination (hook : String) (p : Path) :
    (prepareDestination hook p).KeepsEnv := by
  refine (keepsEnv_ensureDir p).attempt.bind fun o => ?_
  cases o
  · exact keepsEnv_fail _
  · exact keepsEnv_pure _

/-- the destination a hook computes before the build, when the process's variables are `env`:
the CI directory of its folder, or the recipe root joined to the destination it is given -/
def destination (h : Hook) (c : Context) (env : String → Option String) : Option Path :=
  match h with
  | .fmuArtifacts _ _ => some (c.ciPath env "fmus")
  | .testResults => some (c.ciPath env "testoutput")
  | .scripted _ dest _ _ => dest.map c.recipeRoot.join

theorem destination_withDestinations (h : Hook) (c : Context) (m : SortedMap Path)
    (env : String → Option String) :
    h.destination { c with destinations := m } env = h.destination c env := by
  cases h <;> rfl

theorem keepsEnv_preBuild (h : Hook) (c : Context) : (h.preBuild c).KeepsEnv := by
  cases h with
  | fmuArtifacts | testResults =>
    exact (c.keepsEnv_ciDirectory _).bind fun _ =>
      (keepsEnv_prepareDestination _ _).bind fun _ => keepsEnv_pure _
  | scripted i dest failPre =>
    refine (keepsEnv_record _).bind fun _ => ?_
    cases failPre
    · exact keepsEnv_pure _
    · exact (keepsEnv_fail _).bind fun _ => keepsEnv_pure _

/-- a hook that succeeds before the build gives the destination `destination` names -/
theorem preBuild_ok {h : Hook} {c : Context} {w : Workspace} {d : Option Path}
    (hrun : ((h.preBuild c).run w).1 = .ok d) : d = h.destination c w.env.get? := by
  cases h with
  | fmuArtifacts | testResults =>
    simp only [preBuild, run_bind_ok (c.run_ciDirectory _ w)] at hrun
    rw [run_bind] at hrun
    split at hrun
    · cases hrun
      rfl
    · cases hrun
  | scripted i dest failPre =>
    simp only [preBuild, run_bind_ok (run_record _ w)] at hrun
    cases failPre
    · simp only [Bool.false_eq_true, ite_false, run_pure] at hrun
      cases hrun
      rfl
    · simp only [ite_true, run_bind, run_fail] at hrun
      cases hrun

namespace Registry

/-- Dispatching the pre-build halves never fails as a job and keeps the environment; when every
hook succeeds, the context holds exactly the destinations it held and those the hooks computed. -/
theorem dispatchPreBuild_go_run (hooks : List Hook) (c : Context) (w : Workspace) :
    ∃ ctx pre w', (dispatchPreBuild.go hooks c).run w = (.ok (ctx, pre), w') ∧ w'.env = w.env ∧
      (pre = .ok () → ∀ k d, ctx.destination? k = some d ↔
        c.destination? k = some d ∨ ∃ h ∈ hooks, h.id = k ∧ h.destination c w.env.get? = some d) := by
  induction hooks generalizing c w with
  | nil => exact ⟨c, .ok (), w, rfl, rfl, fun _ k d => by simp⟩
  | cons h rest ih =>
    have henv : ((h.preBuild c).run w).2.env = w.env := keepsEnv_preBuild h c w
    have hdest := @preBuild_ok h c w
    rw [dispatchPreBuild.go, run_bind, run_attempt]
    rcases hrun : (h.preBuild c).run w with ⟨_ | _ | dest, w₁⟩ <;> rw [hrun] at henv hdest <;>
      dsimp only at henv hdest ⊢
    · exact ⟨c, _, w₁, rfl, henv, fun hpre => by cases hpre⟩
    · -- a hook without a destination records nothing
      obtain ⟨ctx, pre, w', hgo, henv', hctx⟩ := ih c w₁
      refine ⟨ctx, pre, w', hgo, henv'.trans henv, fun hpre k d => ?_⟩
      rw [hctx hpre k d, henv]
      simp only [List.mem_cons, or_and_right, exists_or, exists_eq_left, ← hdest rfl]
      simp
    · rcases hset : c.setDestination h.id dest with e | c'
      · exact ⟨c, _, w₁, rfl, henv, fun hpre => by cases hpre⟩
      · -- the destination is recorded, and was not before
        obtain ⟨hnone, rfl⟩ := Context.setDestination_eq_ok hset
        obtain ⟨ctx, pre, w', hgo, henv', hctx⟩ := ih _ w₁
        refine ⟨ctx, pre, w', hgo, henv'.trans henv, fun hpre k d => ?_⟩
        rw [hctx hpre k d, henv]
        simp only [List.mem_cons, or_and_right, exists_or, exists_eq_left, ← hdest rfl,
          Context.destination?, SortedMap.get?_insert, destination_withDestinations]
        by_cases hk : k = h.id
        · subst hk
          simp [show c.destinations.get? h.id = none from hnone]
        · simp [hk, Ne.symm hk]

/-- from a fresh context, a dispatch whose hooks all succeed records exactly the destinations
the package's hooks compute -/
theorem dispatchPreBuild_run (r : Registry) (identity : Package.Identity) (root build : Path)
    (w : Workspace) :
    let c := Context.new identity root build
    ∃ ctx pre w', (r.dispatchPreBuild c).run w = (.ok (ctx, pre), w') ∧ w'.env = w.env ∧
      (pre = .ok () → ∀ k d, ctx.destination? k = some d ↔
        ∃ h ∈ r.hooksFor identity.name, h.id = k ∧ h.destination c w.env.get? = some d) := by
  intro c
  obtain ⟨ctx, pre, w', hrun, henv, hctx⟩ := dispatchPreBuild_go_run (r.hooksFor identity.name) c w
  refine ⟨ctx, pre, w', hrun, henv, fun hpre k d => ?_⟩
  rw [hctx hpre k d]
  -- a fresh context has no destination
  have hnone : c.destination? k = none := rfl
  simp [hnone]

end Registry

end Hook

/-! ## The build -/

namespace Build

/-- **A build stops at its first failure.** For every evaluation, generation options, hook
registry, workspace and build tool that observes:
- a compiler that validation refuses fails the build as a configuration incompatibility of the
  recipe, with the workspace untouched: no file written, no hook run, no call issued;
- a failing generation ends the build as generation left it, before any hook or call;
- otherwise the hooks before the build run from a fresh context, never failing as a job and
  keeping the variables; a failing hook ends the build there, before any call;
- otherwise the test reports go to the destination a test-results hook of the package computed,
  if any, so the tests see `GTEST_OUTPUT` pointing there, and the variable as it was otherwise;
  the planned calls are issued until the first failing one, which ends the build as a failure of
  its phase, before any hook after the build, with the journal and the files the issued calls
  left; when none fails, the hooks after the build run from there, and the build completes every
  planned phase exactly when they succeed. -/
theorem buildWith_stops_at_first_failure (e : Evaluation) (opts : GenerateOptions)
    (hooks : Hook.Registry) (b : Backend)
    (verdict : Call → (String → Option String) → BuildRecipe.Outcome Unit)
    (log : Call → (String → Option String) → List Event) (effect : FileEffect)
    (hb : b.Observes verdict log effect) (w : Workspace) :
    let r := (buildWith e opts hooks b).run w
    (∀ err, e.validate = .error err → r = (.error (.recipe err), w) ∧
      ∃ reason, err = .configurationIncompatibility e.recipe.reference.display minimumStandard
        reason) ∧
    (∀ c f w₁, e.validate = .ok c → (generate e opts).run w = (.error f, w₁) →
      r = (.error f, w₁)) ∧
    (∀ c g w₁, e.validate = .ok c → (generate e opts).run w = (.ok g, w₁) →
      let start := Hook.Context.new e.recipe.identity e.recipe.root g.layout.buildFolder
      ∃ ctx pre w₂, (hooks.dispatchPreBuild start).run w₁ = (.ok (ctx, pre), w₂) ∧
        w₂.env = w.env ∧
        (∀ f, pre = .error f → r = (.error f, w₂)) ∧
        (pre = .ok () →
          let reports := ctx.destination? Hook.testResultsId
          let seen := callEnv w.env.get? reports
          (∀ d, reports = some d ↔ ∃ h ∈ hooks.hooksFor e.recipe.identity.name,
            h.id = Hook.testResultsId ∧ h.destination start w.env.get? = some d) ∧
          seen .test gtestOutput = (match reports with
            | some d => some ("xml:" ++ d.cmakeText ++ "/")
            | none => w.env.get? gtestOutput) ∧
          ∃ env, env.get? = w.env.get? ∧
            (∀ p f done, issue verdict seen (plannedCalls e.options.withDoc e.withTests) =
                (some (p, f), done) →
              r = (.error (.recipe (.externalBuildFailure p.name f.message)),
                afterCalls log effect seen done w₂ env)) ∧
            (∀ done, issue verdict seen (plannedCalls e.options.withDoc e.withTests) =
                (none, done) →
              let post := (hooks.dispatchPostBuild ctx).run (afterCalls log effect seen done w₂ env)
              r = (post.1.map fun _ => ⟨c, g, plan e.options.withDoc e.withTests⟩, post.2)))) := by
  intro r
  have hr : r = (buildWith e opts hooks b).run w := rfl
  -- validation reads and changes nothing: its outcome is the answer of `validate`
  have hval : (ofOutcome (e.validate.mapError Failure.recipe)).run w =
      (e.validate.mapError Failure.recipe, w) := run_ofOutcome _ w
  refine ⟨fun err herr => ⟨?_, validate_eq_error herr⟩, fun c f w₁ hc hgen => ?_,
    fun c g w₁ hc hgen => ?_⟩
  · rw [hr, buildWith, run_bind_error (hval.trans (by rw [herr]; rfl))]
  · rw [hr, buildWith, run_bind_ok (hval.trans (by rw [hc]; rfl)), run_bind_error hgen]
  · have henv₁ : w₁.env = w.env := by
      simpa [hgen] using keepsEnv_generate e opts w
    intro start
    obtain ⟨ctx, pre, w₂, hpre, henv₂, hctx⟩ :=
      Hook.Registry.dispatchPreBuild_run hooks e.recipe.identity e.recipe.root g.layout.buildFolder w₁
    rw [henv₁] at hctx
    refine ⟨ctx, pre, w₂, hpre, henv₂.trans henv₁, ?_⟩
    -- the build, from the hooks before it on
    rw [hr, buildWith, run_bind_ok (hval.trans (by rw [hc]; rfl)), run_bind_ok hgen]
    dsimp only
    rw [run_bind_ok hpre]
    refine ⟨fun f hf => run_bind_error (by rw [hf]; rfl) _, fun hok => ?_⟩
    subst hok
    rw [run_bind_ok (run_ofOutcome _ _)]
    obtain ⟨env, henv, hpipe⟩ :=
      runPipeline_plan_run hb (ctx.destination? Hook.testResultsId) e.options.withDoc e.withTests w₂
    rw [henv₂, henv₁] at hpipe henv
    refine ⟨fun d => hctx rfl _ d, callEnv_test_gtestOutput _ _, env, henv, fun p f done hi => ?_,
      fun done hi => ?_⟩
    · rw [run_bind, hpipe, hi]
      rfl
    · rw [run_bind, hpipe, hi]
      dsimp only [pipelineOutcome]
      rw [run_bind]
      -- the hooks after the build decide the outcome
      rcases (hooks.dispatchPostBuild ctx).run
          (afterCalls log effect (callEnv w.env.get? (ctx.destination? Hook.testResultsId)) done w₂ env)
        with ⟨_ | _, w₄⟩ <;> rfl

/-- The recorder failing `build`, with the default hooks, on the default evaluation. -/
theorem buildWith_recorder_failing_build :
    let b := Backend.recorder ["build"]
    let e : Evaluation := default
    let opts : GenerateOptions := {}
    let hooks := Hook.Registry.defaults
    let w : Workspace := {}
    b.Observes (recorderVerdict ["build"]) recorderLog recorderEffect ∧
    let r := (buildWith e opts hooks b).run w
    (∀ err, e.validate = .error err → r = (.error (.recipe err), w) ∧
      ∃ reason, err = .configurationIncompatibility e.recipe.reference.display minimumStandard
        reason) ∧
    (∀ c f w₁, e.validate = .ok c → (generate e opts).run w = (.error f, w₁) →
      r = (.error f, w₁)) ∧
    (∀ c g w₁, e.validate = .ok c → (generate e opts).run w = (.ok g, w₁) →
      let start := Hook.Context.new e.recipe.identity e.recipe.root g.layout.buildFolder
      ∃ ctx pre w₂, (hooks.dispatchPreBuild start).run w₁ = (.ok (ctx, pre), w₂) ∧
        w₂.env = w.env ∧
        (∀ f, pre = .error f → r = (.error f, w₂)) ∧
        (pre = .ok () →
          let reports := ctx.destination? Hook.testResultsId
          let seen := callEnv w.env.get? reports
          (∀ d, reports = some d ↔ ∃ h ∈ hooks.hooksFor e.recipe.identity.name,
            h.id = Hook.testResultsId ∧ h.destination start w.env.get? = some d) ∧
          seen .test gtestOutput = (match reports with
            | some d => some ("xml:" ++ d.cmakeText ++ "/")
            | none => w.env.get? gtestOutput) ∧
          ∃ env, env.get? = w.env.get? ∧
            (∀ p f done, issue (recorderVerdict ["build"]) seen
                (plannedCalls e.options.withDoc e.withTests) = (some (p, f), done) →
              r = (.error (.recipe (.externalBuildFailure p.name f.message)),
                afterCalls recorderLog recorderEffect seen done w₂ env)) ∧
            (∀ done, issue (recorderVerdict ["build"]) seen
                (plannedCalls e.options.withDoc e.withTests) = (none, done) →
              let post := (hooks.dispatchPostBuild ctx).run
                (afterCalls recorderLog recorderEffect seen done w₂ env)
              r = (post.1.map fun _ => ⟨c, g, plan e.options.withDoc e.withTests⟩, post.2)))) :=
  ⟨recorder_observes _,
    buildWith_stops_at_first_failure default {} .defaults _ _ _ _ (recorder_observes _) {}⟩

end Build

end BuildRecipe

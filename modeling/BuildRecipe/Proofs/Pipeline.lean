/-
The build pipeline under any build tool that observes: each call sees environment variables,
records what it records, changes the files as it does (`FileEffect`) and succeeds or fails as it
decides.

- `EnvOverride.apply_then_restore`: an override map in place sets or unsets each of its keys and
  leaves every other variable, lists its keys in ascending order, and once dropped leaves every
  variable as it was before, unset ones included (`test_settings_override_restores` at the test
  settings);
- `EnvOverride.run_withEnv`: a job run under overrides sees the variables with the overrides in
  place (the last value given for a variable winning), keeps everything it does to the files and
  the journal, and leaves every variable as it was, whether it succeeds or fails;
- `runPipeline_run`: the phases issue their calls in order until the first failing one, which ends
  the run as a failure of its phase;
- `pipeline_runs_planned_calls`: the calls of a planned pipeline are configure, the documentation
  target built and installed when asked for, the default target built, the tests run when asked
  for; exactly the prefix of them up to and including the first failing call is issued, the
  journal holding what those calls recorded and the files what they left; the tests see the test
  environment over the variables and every other call sees the variables as they are; the
  variables are back as they were at the end.
-/
import BuildRecipe.Build.Pipeline
import BuildRecipe.Proofs.Job

namespace BuildRecipe

/-! ## Scoped overrides of variables -/

namespace EnvOverride

/-- setting variables one after another: a variable ends at the last value given for it -/
theorem run_forM_setEnv (l : List (String × Option String)) (w : Workspace) :
    ∃ env, (l.forM fun (key, before) => Job.setEnv key before).run w = (.ok (), { w with env }) ∧
      ∀ k, env.get? k = (l.reverse.lookup k).getD (w.env.get? k) := by
  induction l generalizing w with
  | nil => exact ⟨w.env, rfl, by simp⟩
  | cons x rest ih =>
    obtain ⟨key, v⟩ := x
    obtain ⟨env, hrun, henv⟩ := ih ((Job.setEnv key v).run w).2
    refine ⟨env, ?_, fun k => ?_⟩
    · exact (Job.run_bind_ok (Job.run_setEnv key v w) _).trans hrun
    · rw [henv k, Job.env_setEnv_get?, List.reverse_cons, List.lookup_append]
      by_cases hk : k = key
      · subst hk
        cases rest.reverse.lookup k <;> simp
      · cases rest.reverse.lookup k <;> simp [hk, List.lookup_cons, beq_eq_false_iff_ne.mpr hk]

/-- restoring puts back the first value saved for each key -/
theorem run_restore (g : EnvOverride) (w : Workspace) :
    ∃ env, g.restore.run w = (.ok (), { w with env }) ∧
      ∀ k, env.get? k = (g.saved.lookup k).getD (w.env.get? k) := by
  simpa [restore] using run_forM_setEnv g.saved.reverse w

/-- saving a variable, then setting it -/
def saveAndSet : String × Option String → Job (String × Option String)
  | (key, value) => do
    let before ← Job.getEnv key
    Job.setEnv key value
    pure (key, before)

theorem apply_eq (overrides : List (String × Option String)) :
    apply overrides = overrides.mapM saveAndSet >>= fun saved => pure ⟨saved⟩ := rfl

/-- saving and setting each override: the variables end as setting them does, a value is saved
for each override in turn, and the first value saved for a key is the one it had before -/
theorem run_mapM_saveAndSet (ovs : List (String × Option String)) (w : Workspace) :
    ∃ saved, (ovs.mapM saveAndSet).run w =
        (.ok saved, ((ovs.forM fun (key, value) => Job.setEnv key value).run w).2) ∧
      saved.map Prod.fst = ovs.map Prod.fst ∧
      ∀ k, saved.lookup k = (ovs.lookup k).map fun _ => w.env.get? k := by
  induction ovs generalizing w with
  | nil => exact ⟨[], rfl, rfl, by simp⟩
  | cons x rest ih =>
    obtain ⟨key, v⟩ := x
    obtain ⟨saved, hrun, hkeys, hsaved⟩ := ih ((Job.setEnv key v).run w).2
    refine ⟨(key, w.env.get? key) :: saved, ?_, by simp [hkeys], fun k => ?_⟩
    · rw [List.mapM_cons]
      simp only [Job.run_bind, saveAndSet, Job.run_getEnv, Job.run_setEnv, Job.run_pure]
      simp only [Job.run_setEnv] at hrun
      rw [hrun]
      rfl
    · by_cases hk : k = key
      · subst hk
        simp
      · simp only [List.lookup_cons, beq_eq_false_iff_ne.mpr hk]
        rw [hsaved k, Job.env_setEnv_get?]
        simp [hk]

/-- applying overrides: the variables are those with the overrides in place, the last value given
for a key winning, the override lists the keys in the order given, and what is saved restores
each key to its value before -/
theorem run_apply (ovs : List (String × Option String)) (w : Workspace) :
    ∃ g env, (apply ovs).run w = (.ok g, { w with env }) ∧
      (∀ k, env.get? k = (ovs.reverse.lookup k).getD (w.env.get? k)) ∧
      g.keys = ovs.map Prod.fst ∧
      ∀ k, g.saved.lookup k = (ovs.lookup k).map fun _ => w.env.get? k := by
  obtain ⟨saved, hrun, hkeys, hsaved⟩ := run_mapM_saveAndSet ovs w
  obtain ⟨env, hset, henv⟩ := run_forM_setEnv ovs w
  refine ⟨⟨saved⟩, env, ?_, henv, hkeys, hsaved⟩
  rw [apply_eq, Job.run_bind_ok hrun, hset]
  rfl

theorem lookup_reverse_eq_none {l : List (String × Option String)} {k : String}
    (h : l.lookup k = none) : l.reverse.lookup k = none := by
  simpa using h

/-- restoring what applying overrides saved, from the variables the overrides left, brings every
variable back to its value before them: a key the overrides name to the value it had, unset
when it was unset, and every other key stays as the overrides left it -/
theorem run_restore_of_apply {ovs : List (String × Option String)} {w : Workspace}
    {g : EnvOverride} {env : SortedMap String}
    (henv : ∀ k, env.get? k = (ovs.reverse.lookup k).getD (w.env.get? k))
    (hsaved : ∀ k, g.saved.lookup k = (ovs.lookup k).map fun _ => w.env.get? k)
    (w' : Workspace) (hw' : w'.env = env) :
    ∃ env', g.restore.run w' = (.ok (), { w' with env := env' }) ∧
      ∀ k, env'.get? k = w.env.get? k := by
  obtain ⟨env', hrestore, henv'⟩ := run_restore g w'
  refine ⟨env', hrestore, fun k => ?_⟩
  rw [henv' k, hsaved k, hw', henv k]
  cases hk : ovs.lookup k with
  | none => simp [lookup_reverse_eq_none hk]
  | some v => rfl

/-- a job run under overrides runs with them in place; what it does to the files and the journal
stays, and the variables are back as they were, whether it succeeds or fails -/
theorem run_withEnv {α : Type} (ovs : List (String × Option String)) {j : Job α}
    (hj : j.KeepsEnv) (w : Workspace) :
    ∃ env, (∀ k, env.get? k = (ovs.reverse.lookup k).getD (w.env.get? k)) ∧
      ∃ env', (withEnv ovs j).run w =
          ((j.run { w with env }).1, { (j.run { w with env }).2 with env := env' }) ∧
        ∀ k, env'.get? k = w.env.get? k := by
  obtain ⟨g, env, happly, henv, -, hsaved⟩ := run_apply ovs w
  -- the job leaves the overridden variables for the restore to undo
  have hkeep : (j.run { w with env }).2.env = env := hj _
  obtain ⟨env', hrestore, henv'⟩ := run_restore_of_apply henv hsaved _ hkeep
  refine ⟨env, henv, env', ?_, henv'⟩
  simp only [withEnv, Job.run_bind_ok happly, Job.run_bind, Job.run_attempt, hrestore,
    Job.run_ofOutcome]

/-- an override map applied and then dropped: while it is in place the variables are those before
with each key of the map set to its value, or unset when its value is none, and every other key as
it was, and nothing but the variables has changed; the override lists the map's keys in ascending
order; dropping it brings every variable back to its value before, a variable that was unset
before or that the map unset included -/
theorem apply_then_restore (O : SortedMap (Option String)) (w : Workspace) :
    ∃ g env, (apply O.entries).run w = (.ok g, { w with env }) ∧
      (∀ k, env.get? k = (O.get? k).getD (w.env.get? k)) ∧
      g.keys = O.keys ∧ g.keys.Pairwise (· < ·) ∧
      ∃ env', g.restore.run { w with env } = (.ok (), { w with env := env' }) ∧
        ∀ k, env'.get? k = w.env.get? k := by
  obtain ⟨g, env, happly, henv, hkeys, hsaved⟩ := run_apply O.entries w
  obtain ⟨env', hrestore, henv'⟩ := run_restore_of_apply henv hsaved { w with env } rfl
  -- a map gives each key once, so the last value given for a key is its only one
  have hget : ∀ k, env.get? k = (O.get? k).getD (w.env.get? k) := fun k => by
    rw [henv k, SortedMap.lookup_reverse O.keys_nodup]
    rfl
  have hg : g.keys = O.keys := hkeys
  have hasc : g.keys.Pairwise (· < ·) := by
    rw [hg]
    exact O.ascending
  exact ⟨g, env, happly, hget, hg, hasc, env', hrestore, henv'⟩

/-- the test settings over variables where the first is unset and the second set: the map sets the
first and unsets the second, and dropping it unsets the first again and brings back the second -/
theorem test_settings_override_restores :
    ∃ g env, (apply [("CTEST_OUTPUT_ON_FAILURE", some "ON"), ("GTEST_OUTPUT", none)]).run
        { env := SortedMap.ofList [("GTEST_OUTPUT", "xml:old/")] } = (.ok g, { env }) ∧
      env.get? "CTEST_OUTPUT_ON_FAILURE" = some "ON" ∧ env.get? "GTEST_OUTPUT" = none ∧
      g.keys = ["CTEST_OUTPUT_ON_FAILURE", "GTEST_OUTPUT"] ∧
      ∃ env', g.restore.run { env } = (.ok (), { env := env' }) ∧
        env'.get? "CTEST_OUTPUT_ON_FAILURE" = none ∧ env'.get? "GTEST_OUTPUT" = some "xml:old/" := by
  obtain ⟨g, env, happly, hget, hkeys, -, env', hrestore, hback⟩ :=
    apply_then_restore ⟨[("CTEST_OUTPUT_ON_FAILURE", some "ON"), ("GTEST_OUTPUT", none)], by decide⟩
      { env := SortedMap.ofList [("GTEST_OUTPUT", "xml:old/")] }
  refine ⟨g, env, happly, ?_, ?_, hkeys, env', hrestore, ?_, ?_⟩
  · rw [hget]
    rfl
  · rw [hget]
    rfl
  · rw [hback]
    rfl
  · rw [hback]
    rfl

end EnvOverride


namespace Build

/-! ## Build tools that observe -/

/-- what a call of a build tool does to the files, from the variables it sees and the files it
finds -/
abbrev FileEffect := Call → (String → Option String) → FileTree → FileTree

/-- a build tool whose calls read environment variables, add to the journal and change the files,
and do nothing else: what a call returns and what it records are decided by the call and the
variables it sees, and what it does to the files by those and the files it finds -/
def Backend.Observes (b : Backend) (verdict : Call → (String → Option String) → BuildRecipe.Outcome Unit)
    (log : Call → (String → Option String) → List Event) (effect : FileEffect) : Prop :=
  ∀ c w, (b.run c).run w =
    (verdict c w.env.get?,
      { w with files := effect c w.env.get? w.files, journal := w.journal ++ log c w.env.get? })

theorem Backend.Observes.keepsEnv {b : Backend} {verdict log effect}
    (hb : b.Observes verdict log effect) (c : Call) : (b.run c).KeepsEnv := fun w => by rw [hb c w]

/-- what the recorder decides: a call named in `failOn` fails -/
def recorderVerdict (failOn : List String) (c : Call) (_ : String → Option String) :
    BuildRecipe.Outcome Unit :=
  if failOn.contains c.name then .error (Failure.msg (c.name ++ " exited with status 2")) else .ok ()

/-- what the recorder records: the call's name, and for the tests the two variables they read -/
def recorderLog (c : Call) (env : String → Option String) : List Event :=
  .call c.name :: if c == .test then [.testEnv (env ctestOutputOnFailure) (env gtestOutput)] else []

/-- the recorder writes no file -/
def recorderEffect : FileEffect := fun _ _ t => t

theorem recorder_observes (failOn : List String) :
    (Backend.recorder failOn).Observes (recorderVerdict failOn) recorderLog recorderEffect := by
  intro c w
  by_cases ht : c = .test
  · subst ht
    by_cases hf : Call.test.name ∈ failOn <;>
      simp [Backend.recorder, recorderVerdict, recorderLog, recorderEffect, Job.run_bind, hf]
  · by_cases hf : c.name ∈ failOn <;>
      simp [Backend.recorder, recorderVerdict, recorderLog, recorderEffect, Job.run_bind, ht, hf]

/-! ## The calls of a pipeline -/

/-- the calls of a phase, in order -/
def Phase.calls : Phase → List Call
  | .configure => [.configure]
  | .documentation => [.build (some docTarget), .install (some docTarget)]
  | .build => [.build none]
  | .test => [.test]

/-- the calls of a planned pipeline, each with its phase: configure; the documentation target
built and installed when asked for; the default target built; the tests run when asked for -/
def plannedCalls (withDoc withTests : Bool) : List (Phase × Call) :=
  [(.configure, .configure)] ++
  (if withDoc then
    [(.documentation, .build (some docTarget)), (.documentation, .install (some docTarget))]
  else []) ++
  [(.build, .build none)] ++
  (if withTests then [(.test, .test)] else [])

theorem plannedCalls_eq (withDoc withTests : Bool) :
    plannedCalls withDoc withTests = (plan withDoc withTests).flatMap fun p => p.calls.map (p, ·) := by
  cases withDoc <;> cases withTests <;> rfl

/-- what a call sees when the pipeline runs under the variables `env`: the tests see the test
environment over them, every other call sees them as they are -/
def callEnv (env : String → Option String) (reports : Option Path) : Call → String → Option String
  | .test => fun k => ((testEnvironment reports).lookup k).getD (env k)
  | _ => env

/-- the tests see the report directory in `GTEST_OUTPUT` when there is one, and the variable as
it is otherwise -/
theorem callEnv_test_gtestOutput (env : String → Option String) (reports : Option Path) :
    callEnv env reports .test gtestOutput = match reports with
      | some dir => some ("xml:" ++ dir.cmakeText ++ "/")
      | none => env gtestOutput := by
  have hne : (gtestOutput == ctestOutputOnFailure) = false := by decide
  cases reports <;> simp [callEnv, testEnvironment, List.lookup_cons, hne]

/-- issuing calls in order to an observing tool: the first failing call stops the run, with its
phase and its failure, and the calls issued are those up to and including it -/
def issue (verdict : Call → (String → Option String) → BuildRecipe.Outcome Unit)
    (seen : Call → String → Option String) :
    List (Phase × Call) → Option (Phase × Failure) × List (Phase × Call)
  | [] => (none, [])
  | (p, c) :: rest =>
    match verdict c (seen c) with
    | .ok () => ((issue verdict seen rest).1, (p, c) :: (issue verdict seen rest).2)
    | .error f => (some (p, f), [(p, c)])

/-- the events the calls record, in order -/
def recorded (log : Call → (String → Option String) → List Event)
    (seen : Call → String → Option String) (calls : List (Phase × Call)) : List Event :=
  calls.flatMap fun x => log x.2 (seen x.2)

/-- the files after the calls, each changing them in turn -/
def filesAfter (effect : FileEffect) (seen : Call → String → Option String)
    (calls : List (Phase × Call)) (t : FileTree) : FileTree :=
  calls.foldl (fun t x => effect x.2 (seen x.2) t) t

section Issue

variable {verdict : Call → (String → Option String) → BuildRecipe.Outcome Unit}
  {seen : Call → String → Option String}

@[simp] theorem recorded_append (log : Call → (String → Option String) → List Event)
    (l₁ l₂ : List (Phase × Call)) :
    recorded log seen (l₁ ++ l₂) = recorded log seen l₁ ++ recorded log seen l₂ := by
  simp [recorded]

@[simp] theorem filesAfter_append (effect : FileEffect) (l₁ l₂ : List (Phase × Call))
    (t : FileTree) :
    filesAfter effect seen (l₁ ++ l₂) t = filesAfter effect seen l₂ (filesAfter effect seen l₁ t) := by
  simp [filesAfter]

theorem issue_append (l₁ l₂ : List (Phase × Call)) :
    issue verdict seen (l₁ ++ l₂) =
      match issue verdict seen l₁ with
      | (none, done) => ((issue verdict seen l₂).1, done ++ (issue verdict seen l₂).2)
      | (some x, done) => (some x, done) := by
  induction l₁ with
  | nil => simp [issue]
  | cons x rest ih =>
    obtain ⟨p, c⟩ := x
    simp only [List.cons_append, issue]
    cases verdict c (seen c) with
    | error f => rfl
    | ok u =>
      rw [ih]
      cases issue verdict seen rest with
      | mk r done => cases r <;> simp

/-- a failure among the calls of one phase is a failure of that phase -/
theorem issue_phase {p q : Phase} {f : Failure} (cs : List Call)
    (h : (issue verdict seen (cs.map (p, ·))).1 = some (q, f)) : q = p := by
  induction cs with
  | nil => simp [issue] at h
  | cons c rest ih =>
    simp only [List.map_cons, issue] at h
    split at h
    · exact ih h
    · simp only [Option.some.injEq, Prod.mk.injEq] at h
      exact h.1.symm

/-- the calls split at the first failing one: all before it succeed, and the calls issued are
those up to it -/
theorem issue_split (cs : List (Phase × Call)) :
    ∃ done rest, cs = done ++ rest ∧ (∀ x ∈ done, verdict x.2 (seen x.2) = .ok ()) ∧
      ((rest = [] ∧ issue verdict seen cs = (none, done)) ∨
        ∃ p c f more, rest = (p, c) :: more ∧ verdict c (seen c) = .error f ∧
          issue verdict seen cs = (some (p, f), done ++ [(p, c)])) := by
  induction cs with
  | nil => exact ⟨[], [], rfl, by simp, .inl ⟨rfl, rfl⟩⟩
  | cons x rest ih =>
    obtain ⟨p, c⟩ := x
    cases hv : verdict c (seen c) with
    | error f =>
      exact ⟨[], (p, c) :: rest, rfl, by simp, .inr ⟨p, c, f, rest, rfl, hv, by simp [issue, hv]⟩⟩
    | ok u =>
      obtain ⟨done, more, hsplit, hok, hcases⟩ := ih
      refine ⟨(p, c) :: done, more, by simp [hsplit], ?_, ?_⟩
      · intro y hy
        rcases List.mem_cons.mp hy with rfl | hy
        · exact hv
        · exact hok y hy
      · rcases hcases with ⟨rfl, hissue⟩ | ⟨q, d, g, tail, rfl, hvd, hissue⟩
        · exact .inl ⟨rfl, by simp [issue, hv, hissue]⟩
        · exact .inr ⟨q, d, g, tail, rfl, hvd, by simp [issue, hv, hissue]⟩

end Issue

/-! ## Running the phases -/

theorem testEnvironment_keys_nodup (reports : Option Path) :
    ((testEnvironment reports).map Prod.fst).Nodup := by
  cases reports with
  | none => decide
  | some dir =>
    show [ctestOutputOnFailure, gtestOutput].Nodup
    decide

section Run

variable {b : Backend} {verdict : Call → (String → Option String) → BuildRecipe.Outcome Unit}
  {log : Call → (String → Option String) → List Event} {effect : FileEffect}

/-- the workspace after issuing calls: the files changed by each call in turn and the events of
each added to the journal, under the variables `env` -/
def afterCalls (log : Call → (String → Option String) → List Event) (effect : FileEffect)
    (seen : Call → String → Option String) (calls : List (Phase × Call)) (w : Workspace)
    (env : SortedMap String) : Workspace :=
  { w with files := filesAfter effect seen calls w.files,
           journal := w.journal ++ recorded log seen calls, env }

theorem afterCalls_append (seen : Call → String → Option String) (l₁ l₂ : List (Phase × Call))
    (w : Workspace) (env₁ env₂ : SortedMap String) :
    afterCalls log effect seen l₂ (afterCalls log effect seen l₁ w env₁) env₂ =
      afterCalls log effect seen (l₁ ++ l₂) w env₂ := by
  simp [afterCalls, List.append_assoc]

/-- the outcome of a run of calls: the first failure, or success -/
def outcomeOf (r : Option (Phase × Failure)) : BuildRecipe.Outcome Unit :=
  match r with
  | none => .ok ()
  | some (_, f) => .error f

/-- a call issued alone, seeing the variables `seen` gives it -/
theorem run_call (hb : b.Observes verdict log effect) (seen : Call → String → Option String)
    (p : Phase) {c : Call} (hseen : seen c = w.env.get?) :
    (b.run c).run w =
      (outcomeOf (issue verdict seen [(p, c)]).1,
        afterCalls log effect seen (issue verdict seen [(p, c)]).2 w w.env) := by
  rw [hb]
  simp only [issue, hseen]
  cases verdict c w.env.get? with
  | error f => simp [outcomeOf, afterCalls, recorded, filesAfter, hseen]
  | ok u => cases u; simp [outcomeOf, afterCalls, recorded, filesAfter, hseen]

/-- a phase issues its calls in order until the first failing one, and leaves the variables as
they were -/
theorem runPhase_run (hb : b.Observes verdict log effect) (reports : Option Path) (p : Phase)
    (w : Workspace) :
    ∃ env, (runPhase b reports p).run w =
        (outcomeOf (issue verdict (callEnv w.env.get? reports) (p.calls.map (p, ·))).1,
          afterCalls log effect (callEnv w.env.get? reports)
            (issue verdict (callEnv w.env.get? reports) (p.calls.map (p, ·))).2 w env) ∧
      env.get? = w.env.get? := by
  cases p with
  | configure => exact ⟨w.env, run_call hb _ .configure rfl, rfl⟩
  | build => exact ⟨w.env, run_call hb _ .build rfl, rfl⟩
  | documentation =>
    refine ⟨w.env, ?_, rfl⟩
    rw [runPhase, Job.run_bind, hb]
    simp only [Phase.calls, List.map_cons, List.map_nil, issue, callEnv]
    cases verdict (.build (some docTarget)) w.env.get? with
    | error f => simp [outcomeOf, afterCalls, recorded, filesAfter, callEnv]
    | ok u =>
      cases u
      dsimp only
      rw [hb]
      cases verdict (.install (some docTarget)) w.env.get? with
      | error f => simp [outcomeOf, afterCalls, recorded, filesAfter, callEnv]
      | ok u => cases u; simp [outcomeOf, afterCalls, recorded, filesAfter, callEnv]
  | test =>
    obtain ⟨env, henv, env', hrun, henv'⟩ := EnvOverride.run_withEnv (testEnvironment reports)
      (hb.keepsEnv .test) w
    -- the tests see the test environment over the variables
    have hseen : env.get? = callEnv w.env.get? reports .test := by
      funext k
      rw [henv k, SortedMap.lookup_reverse (testEnvironment_keys_nodup reports)]
      rfl
    refine ⟨env', ?_, funext henv'⟩
    rw [runPhase, hrun, hb, hseen]
    simp only [Phase.calls, List.map_cons, List.map_nil, issue]
    cases verdict .test (callEnv w.env.get? reports .test) with
    | error f => simp [outcomeOf, afterCalls, recorded, filesAfter]
    | ok u => cases u; simp [outcomeOf, afterCalls, recorded, filesAfter]

/-- one step of the pipeline: a phase run, and a failure charged to it -/
def pipelineStep (b : Backend) (reports : Option Path) (done : List Phase) (phase : Phase) :
    Job (List Phase) := do
  match ← Job.attempt (runPhase b reports phase) with
  | .ok () => pure (done ++ [phase])
  | .error f => Job.fail (Failure.recipe (.externalBuildFailure phase.name f.message))

theorem runPipeline_eq (b : Backend) (reports : Option Path) (phases : List Phase) :
    runPipeline b reports phases = phases.foldlM (pipelineStep b reports) [] := rfl

/-- the outcome of a pipeline: the phases completed, or the failure of the phase of the first
failing call -/
def pipelineOutcome (done : List Phase) (r : Option (Phase × Failure)) :
    BuildRecipe.Outcome (List Phase) :=
  match r with
  | none => .ok done
  | some (p, f) => .error (Failure.recipe (.externalBuildFailure p.name f.message))

/-- the phases issue their calls in order until the first failing one, which ends the run as a
failure of its phase; the variables are back as they were -/
theorem runPipeline_run (hb : b.Observes verdict log effect) (reports : Option Path)
    (phases : List Phase) (done : List Phase) (w : Workspace) :
    ∃ env, (phases.foldlM (pipelineStep b reports) done).run w =
        (pipelineOutcome (done ++ phases) (issue verdict (callEnv w.env.get? reports)
            (phases.flatMap fun p => p.calls.map (p, ·))).1,
          afterCalls log effect (callEnv w.env.get? reports) (issue verdict
            (callEnv w.env.get? reports) (phases.flatMap fun p => p.calls.map (p, ·))).2 w env) ∧
      env.get? = w.env.get? := by
  induction phases generalizing done w with
  | nil => exact ⟨w.env, by simp [issue, pipelineOutcome, afterCalls, recorded, filesAfter], rfl⟩
  | cons p rest ih =>
    obtain ⟨env₁, hphase, henv₁⟩ := runPhase_run hb reports p w
    rw [List.foldlM_cons, Job.run_bind, List.flatMap_cons, issue_append]
    simp only [pipelineStep, Job.run_bind, Job.run_attempt, hphase]
    generalize hi : issue verdict (callEnv w.env.get? reports) (p.calls.map (p, ·)) = i₁
    obtain ⟨r₁, calls₁⟩ := i₁
    cases r₁ with
    | none =>
      obtain ⟨env₂, hrest, henv₂⟩ := ih (done ++ [p]) (afterCalls log effect
        (callEnv w.env.get? reports) calls₁ w env₁)
      -- the later phases see the variables the earlier ones left, which are those they found
      have hfound : (afterCalls log effect (callEnv w.env.get? reports) calls₁ w env₁).env.get? =
          w.env.get? := henv₁
      rw [hfound, afterCalls_append] at hrest
      rw [hfound] at henv₂
      refine ⟨env₂, ?_, henv₂⟩
      simp only [outcomeOf, Job.run_pure, hrest, List.append_assoc, List.singleton_append]
    | some x =>
      obtain ⟨q, f⟩ := x
      have hq : q = p := issue_phase p.calls (by rw [hi])
      subst hq
      exact ⟨env₁, by simp [outcomeOf, pipelineOutcome], henv₁⟩

/-- the planned pipeline issues the planned calls until the first failing one, and completes
every planned phase when none fails -/
theorem runPipeline_plan_run (hb : b.Observes verdict log effect) (reports : Option Path)
    (withDoc withTests : Bool) (w : Workspace) :
    ∃ env, env.get? = w.env.get? ∧ (runPipeline b reports (plan withDoc withTests)).run w =
      (pipelineOutcome (plan withDoc withTests)
          (issue verdict (callEnv w.env.get? reports) (plannedCalls withDoc withTests)).1,
        afterCalls log effect (callEnv w.env.get? reports)
          (issue verdict (callEnv w.env.get? reports) (plannedCalls withDoc withTests)).2 w env) := by
  obtain ⟨env, hrun, henv⟩ := runPipeline_run hb reports (plan withDoc withTests) [] w
  rw [← plannedCalls_eq, List.nil_append, ← runPipeline_eq] at hrun
  exact ⟨env, henv, hrun⟩

end Run

/-! ## The pipeline -/

/-- **The pipeline.** For every switch of documentation and tests, directory for test reports,
workspace and build tool that observes, running the planned pipeline
- issues, in order, exactly the calls of `plannedCalls` up to and including the first failing
  one: every call before it succeeds, the journal holds what the issued calls recorded, and the
  files are those the issued calls left, each changing them in turn;
- completes every planned phase when no call fails, and otherwise fails with an external build
  failure naming the phase of the failing call and carrying that call's message;
- lets the tests see the test environment over the variables and every other call the variables
  as they are (`callEnv`);
- leaves every variable as it was, whether it succeeds or fails. -/
theorem pipeline_runs_planned_calls (b : Backend)
    (verdict : Call → (String → Option String) → BuildRecipe.Outcome Unit)
    (log : Call → (String → Option String) → List Event) (effect : FileEffect)
    (hb : b.Observes verdict log effect) (withDoc withTests : Bool) (reports : Option Path)
    (w : Workspace) :
    let seen := callEnv w.env.get? reports
    let r := (runPipeline b reports (plan withDoc withTests)).run w
    r.2.env.get? = w.env.get? ∧
    ∃ done rest, plannedCalls withDoc withTests = done ++ rest ∧
      (∀ x ∈ done, verdict x.2 (seen x.2) = .ok ()) ∧
      ((rest = [] ∧ r.1 = .ok (plan withDoc withTests) ∧
          r.2.journal = w.journal ++ recorded log seen done ∧
          r.2.files = filesAfter effect seen done w.files) ∨
        ∃ p c f more, rest = (p, c) :: more ∧ verdict c (seen c) = .error f ∧
          r.1 = .error (Failure.recipe (.externalBuildFailure p.name f.message)) ∧
          r.2.journal = w.journal ++ recorded log seen (done ++ [(p, c)]) ∧
          r.2.files = filesAfter effect seen (done ++ [(p, c)]) w.files) := by
  intro seen r
  obtain ⟨env, henv, hrun⟩ := runPipeline_plan_run hb reports withDoc withTests w
  have hr : r = _ := hrun
  obtain ⟨done, rest, hsplit, hok, hcases⟩ :=
    @issue_split verdict seen (plannedCalls withDoc withTests)
  refine ⟨by rw [hr]; exact henv, done, rest, hsplit, hok, ?_⟩
  rcases hcases with ⟨rfl, hi⟩ | ⟨p, c, f, more, rfl, hv, hi⟩
  · exact .inl ⟨rfl, by rw [hr, hi]; rfl, by rw [hr, hi]; rfl, by rw [hr, hi]; rfl⟩
  · exact .inr ⟨p, c, f, more, rfl, hv, by rw [hr, hi]; rfl, by rw [hr, hi]; rfl, by rw [hr, hi]; rfl⟩

/-- The recorder failing `build:doc` on a pipeline with documentation and tests: configure and
`build:doc` are issued, and the pipeline fails in the documentation phase. -/
theorem pipeline_recorder_documentation_fails :
    let b := Backend.recorder ["build:doc"]
    let w : Workspace := {}
    b.Observes (recorderVerdict ["build:doc"]) recorderLog recorderEffect ∧
    let seen := callEnv w.env.get? none
    let r := (runPipeline b none (plan true true)).run w
    r.2.env.get? = w.env.get? ∧
    ∃ done rest, plannedCalls true true = done ++ rest ∧
      (∀ x ∈ done, recorderVerdict ["build:doc"] x.2 (seen x.2) = .ok ()) ∧
      ((rest = [] ∧ r.1 = .ok (plan true true) ∧
          r.2.journal = w.journal ++ recorded recorderLog seen done ∧
          r.2.files = filesAfter recorderEffect seen done w.files) ∨
        ∃ p c f more, rest = (p, c) :: more ∧ recorderVerdict ["build:doc"] c (seen c) = .error f ∧
          r.1 = .error (Failure.recipe (.externalBuildFailure p.name f.message)) ∧
          r.2.journal = w.journal ++ recorded recorderLog seen (done ++ [(p, c)]) ∧
          r.2.files = filesAfter recorderEffect seen (done ++ [(p, c)]) w.files) :=
  ⟨recorder_observes _,
    pipeline_runs_planned_calls _ _ _ _ (recorder_observes _) true true none {}⟩

end Build

end BuildRecipe

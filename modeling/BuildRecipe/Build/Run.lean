/-
A whole build with a given backend and set of hooks: check the compiler, generate what the
native build reads, let the hooks prepare their destinations, run the pipeline, with test
reports going to the test-results hook's destination when it has one, and let the hooks act on
the finished tree. The first failure ends the build.
-/
import BuildRecipe.Generation
import BuildRecipe.Build.Pipeline
import BuildRecipe.Hook.Registry

namespace BuildRecipe.Build

/-- what a completed build reports -/
structure Outcome where
  compatibility : Compatibility
  generated : Generated
  completed : List Phase
deriving Repr, Inhabited

/-- validates, generates and builds with an explicit backend and hook set -/
def buildWith (e : Evaluation) (opts : GenerateOptions) (hooks : Hook.Registry)
    (backend : Backend) : Job Outcome := do
  let compatibility ← Job.ofOutcome (e.validate.mapError Failure.recipe)
  let generated ← generate e opts
  let start := Hook.Context.new e.recipe.identity e.recipe.root generated.layout.buildFolder
  let (ctx, pre) ← hooks.dispatchPreBuild start
  Job.ofOutcome pre
  let completed ← runPipeline backend (ctx.destination? Hook.testResultsId)
    (plan e.options.withDoc e.withTests)
  hooks.dispatchPostBuild ctx
  pure { compatibility, generated, completed }

end BuildRecipe.Build

/-
The build pipeline: configure, then the documentation when asked for, then the build, then the
tests when asked for. Phases run in order and the first failure stops the pipeline, reported as
a failure of its phase; nothing is retried or undone. The test phase runs with the test runner
told to show the output of failing tests and, when a directory for reports was prepared, test
programs told to write XML reports there.
-/
import BuildRecipe.Build.Backend
import BuildRecipe.EnvOverride

namespace BuildRecipe.Build

/-- a phase of the pipeline -/
inductive Phase where
  | configure
  | documentation
  | build
  | test
deriving DecidableEq, Repr, Inhabited

/-- the name of a phase -/
def Phase.name : Phase → String
  | .configure => "configure"
  | .documentation => "documentation"
  | .build => "build"
  | .test => "test"

/-- the target and install component of the documentation -/
def docTarget : String := "doc"

/-- the phases to run: configure, documentation if asked for, build, tests if asked for -/
def plan (withDoc withTests : Bool) : List Phase :=
  [.configure] ++ (if withDoc then [.documentation] else []) ++ [.build] ++
  (if withTests then [.test] else [])

/-- the variables set while the tests run, by name -/
def testEnvironment (reports : Option Path) : List (String × Option String) :=
  [(ctestOutputOnFailure, some "ON")] ++
  match reports with
  | some dir => [(gtestOutput, some ("xml:" ++ dir.cmakeText ++ "/"))]
  | none => []

/-- runs one phase with the build tool -/
def runPhase (backend : Backend) (reports : Option Path) : Phase → Job Unit
  | .configure => backend.run .configure
  | .documentation => do
    backend.run (.build (some docTarget))
    backend.run (.install (some docTarget))
  | .build => backend.run (.build none)
  | .test => withEnv (testEnvironment reports) (backend.run .test)

/-- runs the phases in order and gives those completed; the first failure stops the pipeline
as a failure of its phase -/
def runPipeline (backend : Backend) (reports : Option Path) (phases : List Phase) :
    Job (List Phase) :=
  phases.foldlM (fun done phase => do
    match ← Job.attempt (runPhase backend reports phase) with
    | .ok () => pure (done ++ [phase])
    | .error f => Job.fail (Failure.recipe (.externalBuildFailure phase.name f.message))) []

end BuildRecipe.Build

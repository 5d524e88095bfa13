/-
The build tool a pipeline drives: it configures the build tree, builds a target (or the default
one), installs a component (or everything) and runs the tests, each a call that may fail. A
recorder stands in for a real tool: it writes every call to the journal, notes the test
settings it sees when running the tests, and fails the calls it is told to fail.
-/
import BuildRecipe.SemVer
import BuildRecipe.Workspace

namespace BuildRecipe.Build

/-- one call of the build tool -/
inductive Call where
  | configure
  | build (target : Option String)
  | install (component : Option String)
  | test
deriving DecidableEq, Repr, Inhabited

/-- the name of a call: `configure`, `build`, `build:<target>`, `install`,
`install:<component>` or `test` -/
def Call.name : Call → String
  | .configure => "configure"
  | .build none => "build"
  | .build (some t) => "build:" ++ t
  | .install none => "install"
  | .install (some c) => "install:" ++ c
  | .test => "test"

/-- a build tool: its name and how it runs a call -/
structure Backend where
  name : String
  run : Call → Job Unit

/-- the variables the test runner reads -/
def ctestOutputOnFailure : String := "CTEST_OUTPUT_ON_FAILURE"

/-- the variable that tells test programs where to write reports -/
def gtestOutput : String := "GTEST_OUTPUT"

/-- a build tool that records its calls and fails those named in `failOn` with
`<call> exited with status 2`, after recording them -/
def Backend.recorder (failOn : List String) : Backend where
  name := "recorder"
  run c := do
    Job.record (.call c.name)
    if c == .test then
      Job.record (.testEnv (← Job.getEnv ctestOutputOnFailure) (← Job.getEnv gtestOutput))
    if failOn.contains c.name then
      Job.fail (Failure.msg (c.name ++ " exited with status 2"))

/-- whether a build tool can be used -/
inductive Availability where
  | available (version : SemVer.Version)
  | notInstalled (tool hint : String)
  | versionUnsupported (found : SemVer.Version) (required : SemVer.Requirement)
deriving Repr, Inhabited

namespace Availability

/-- whether the tool can be used -/
def isAvailable : Availability → Bool
  | .available _ => true
  | _ => false

/-- why the tool cannot be used -/
def errorMessage : Availability → Option String
  | .available _ => none
  | .notInstalled tool hint => some (tool ++ " not found. " ++ hint)
  | .versionUnsupported found required =>
    some ("version " ++ found.display ++ " found, but " ++ required.display ++ " is supported")

end Availability

end BuildRecipe.Build

/-
Running a command line against a workspace. Every command first evaluates the recipe; the
generating commands then check the compiler and read the dependency set they are given. What a
command prints goes to standard output, progress and warnings to standard error, and a failure
is reported as `error: ` and its chain of messages, followed by the details of the recipe error
it carries, if any. This tool runs no other program: no compiler is detected, and a build, which
needs CMake, reports CMake as not found.
-/
import BuildRecipe.Cli.Arguments
import BuildRecipe.Build.Run
import BuildRecipe.CMake
import BuildRecipe.JsonData

namespace BuildRecipe.Cli

/-- what a run writes to its two streams, and whether it succeeded -/
structure Report where
  out : String := ""
  err : String := ""
  success : Bool := true
deriving Repr, Inhabited

/-- the requirement graph as an indented JSON array of `reference` and `role` records -/
def graphJson (g : Requirement.Graph) : String :=
  match g.entries with
  | [] => "[]"
  | es => "[\n" ++ ",\n".intercalate (es.map fun e =>
      "  \x7b\n    \"reference\": " ++ JsonData.quote e.reference.display ++ ",\n    \"role\": " ++
        JsonData.quote e.role.name ++ "\n  \x7d") ++ "\n]"

/-- the generation options of a command: its dependency set read from its file, and its build
folder taken from the working directory -/
def generateOptions (inv : Invocation) (args : GenerateArgs) : Job GenerateOptions := do
  let deps ← match args.deps with
    | some p => loadDeps (inv.resolve p)
    | none => pure []
  pure { deps, buildFolder := args.buildFolder.map inv.resolve, licenseFormat := args.licenseFormat }

/-- the compiler check of an evaluation, as a step of a job -/
def checkCompiler (e : Evaluation) : Job Compatibility :=
  Job.ofOutcome (e.validate.mapError Failure.recipe)

/-- the lines `generate` writes about what it produced -/
def generatedLines (e : Evaluation) (g : Generated) : String :=
  "    Generated " ++ e.recipe.reference.display ++ " in " ++ g.layout.buildFolder.display ++ "\n" ++
  "     Toolchain " ++ g.layout.toolchainFile.display ++ "\n" ++
  "      Licenses " ++ toString g.licenses.entryCount ++ " entries\n" ++
  (match g.shimSeed with
    | some seed => "          Shim " ++ seed.display ++ "\n"
    | none => "")

/-- runs a request from the directories of an invocation -/
def execute (r : Request) (inv : Invocation) : Job Report := do
  let color := !r.noColor
  let e ← evaluate inv r.recipe none
  match r.command with
  | .options => pure { out := e.options.display ++ "with_tests=" ++ toString e.withTests ++ "\n" }
  | .graph json => pure { out := if json then graphJson e.graph ++ "\n" else e.graph.display }
  | .validate =>
    let c ← checkCompiler e
    let reference := e.recipe.reference
    let compiler := e.settings.compiler
    let err := match c.warning reference r.verbose with
      | some d => d.format color
      | none => ""
    let out := match c with
      | .verified => reference.display ++ " is compatible with " ++ compiler.family.name ++ " " ++
          compiler.version.raw ++ "\n"
      | .unverified family => reference.display ++ ": compiler `" ++ family ++ "` was not checked\n"
    pure { out, err }
  | .generate args =>
    let _ ← checkCompiler e
    let g ← generate e (← generateOptions inv args)
    pure { err := generatedLines e g }
  | .build args _ =>
    let _ ← generateOptions inv args
    let _ ← checkCompiler e
    Job.fail (.msg ("CMake not found\n\n" ++ cmakeInstallHint))

/-- the report of a failure: its messages, then the details of its recipe error -/
def failureText (f : Failure) (color : Bool) : String :=
  "error: " ++ f.message ++ "\n" ++
    match f.recipeError? with
    | some e => e.toDiagnostic.details color
    | none => ""

/-- the files and directories a request reads before its dependency set is known: the recipe
root, the profile, the user's configuration and the dependency set -/
def inputPaths (r : Request) (inv : Invocation) : List Path :=
  let root := match r.recipe.recipeRoot with
    | some p => inv.resolve p
    | none => inv.cwd
  let deps := match r.command with
    | .generate args | .build args _ => args.deps.map inv.resolve
    | _ => none
  [root] ++ (r.recipe.profile.map inv.resolve).toList ++ [inv.configPath] ++ deps.toList

/-- the install folders of the dependency set a request names, as far as it can be read from
the files at hand -/
def dependencyFolders (r : Request) (inv : Invocation) (t : FileTree) : List Path :=
  let deps := match r.command with
    | .generate args | .build args _ => args.deps.map inv.resolve
    | _ => none
  match deps with
  | some p =>
    match (t.read p).toOption.bind parseDeps? with
    | some ds => ds.map (·.packageFolder)
    | none => []
  | none => []

/-- runs a request and reports a failure as the tool does -/
def run (r : Request) (inv : Invocation) : Job Report := do
  match ← Job.attempt (execute r inv) with
  | .ok report => pure report
  | .error f => pure { err := failureText f !r.noColor, success := false }

end BuildRecipe.Cli

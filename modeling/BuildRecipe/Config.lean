/-
Tool configuration: whether to skip tests, the parallel jobs, the layout of the license report
and the build folder. It is read from a global file and a project file; a value set in the
project file wins over the global one, and a file that is missing or cannot be read counts as
setting nothing. Whether tests are skipped is decided by the first of the command line, the
profile and the configuration that says so, and tests are skipped when none does.
-/
import BuildRecipe.License.Basic
import BuildRecipe.Toml.Document
import BuildRecipe.Workspace

namespace BuildRecipe

open Toml

/-- the configuration: every value may be unset -/
structure Config where
  skipTest : Option Bool := none
  jobs : Option Nat := none
  licenseFormat : Option License.Format := none
  buildFolder : Option Path := none
deriving Repr, Inhabited

/-- the directory that holds configuration files -/
def configDirName : String := ".stevedore"

/-- where a recipe keeps its project configuration -/
def projectConfigPath (recipeRoot : Path) : Path :=
  (recipeRoot.join configDirName).join "config.toml"

/-- whether tests are skipped: the first value given by the command line, the profile and the
configuration, and skipped when none is given -/
def skipTestFlag (cli profile config : Option Bool) : Bool :=
  (cli <|> profile <|> config).getD true

namespace Config

/-- `b`'s values where they are set, `a`'s elsewhere -/
def merge (a b : Config) : Config where
  skipTest := b.skipTest <|> a.skipTest
  jobs := b.jobs <|> a.jobs
  licenseFormat := b.licenseFormat <|> a.licenseFormat
  buildFolder := b.buildFolder <|> a.buildFolder

/-- a count of jobs: a non-negative integer -/
def jobsOf? (v : Value) : Option Nat := do
  let i ← v.asInt?
  if i < 0 then none else some i.toNat

/-- a license report layout, named exactly `table` or `list`, as a string or as a table with that
one key and no content -/
def formatOf? (v : Value) : Option License.Format :=
  match v.variantName? with
  | some "table" => some .table
  | some "list" => some .list
  | _ => none

/-- the configuration a document's `[build]` table sets -/
def ofBuildTable? (v : Value) : Option Config := do
  let es ← v.recordEntries? ["skip_test", "jobs", "license_format", "build_folder"]
  pure {
    skipTest := ← optional es "skip_test" Value.asBool?
    jobs := ← optional es "jobs" jobsOf?
    licenseFormat := ← optional es "license_format" formatOf?
    buildFolder := ← optional es "build_folder" fun v => Path.ofString <$> v.asString? }

/-- the configuration a document's root table sets -/
def ofToml? (root : List (String × Value)) : Option Config :=
  withDefault root "build" {} ofBuildTable?

/-- reads the configuration in the file at `p` -/
def load (p : Path) : Job Config := do
  let text ← Job.context ("failed to read config file: " ++ p.display) (Job.readFile p)
  match (Toml.parse text).bind ofToml? with
  | some c => pure c
  | none => Job.fail ((Failure.of .toml).withContext ("failed to parse config file: " ++ p.display))

/-- the configuration in the file at `p`, or nothing set when there is no file or it cannot be
read -/
def loadOrDefault (p : Path) : Job Config := do
  if ← Job.pathExists p then
    match ← Job.attempt (load p) with
    | .ok c => pure c
    | .error _ => pure {}
  else pure {}

end Config

/-- the global configuration (when there is a global file) merged with the project's -/
def loadConfig (global : Option Path) (project : Path) : Job Config := do
  let g ← match global with
    | some p => Config.loadOrDefault p
    | none => pure {}
  return ({} : Config).merge g |>.merge (← Config.loadOrDefault project)

/-- where the tool was started: the working directory and the directory of user settings -/
structure Invocation where
  cwd : Path
  home : Path
deriving Repr, Inhabited

namespace Invocation

/-- the user's configuration file -/
def configPath (i : Invocation) : Path := i.home.join "config.toml"

/-- a path taken from the working directory unless it is absolute -/
def resolve (i : Invocation) (p : Path) : Path := if p.isAbsolute then p else i.cwd.join p

/-- the configuration for a recipe: the user's merged with the recipe's project file -/
def configFor (i : Invocation) (recipeRoot : Path) : Job Config :=
  loadConfig (some i.configPath) (projectConfigPath recipeRoot)

end Invocation

end BuildRecipe

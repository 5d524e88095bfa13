/-
Evaluating a recipe: its identity, the profile with the command-line settings and options
written over it, the configuration of the user and of the recipe, the settings (the compiler
detected when none is named), the options in effect, whether tests are built, and the
requirement graph. Checking the compiler against the recipe's C++ standard is a separate step,
so that a configuration the recipe would refuse can still be shown.
-/
import BuildRecipe.Compatibility
import BuildRecipe.Compiler.Banner
import BuildRecipe.Config
import BuildRecipe.Package.Recipe
import BuildRecipe.Profile.Read
import BuildRecipe.Requirement.Pinned

namespace BuildRecipe

/-- what the command line gives an evaluation -/
structure EvaluateOptions where
  recipeRoot : Option Path := none
  profile : Option Path := none
  settings : List (String × String) := []
  options : List (String × String) := []
  skipTest : Option Bool := none
deriving Repr, Inhabited

/-- the compiler a `--version` banner reports, with no standard -/
def detectCompiler (banner : Option String) : Option CompilerSettings :=
  banner.bind fun text =>
    (Compiler.parseBanner text).map fun (family, version) => { family, version }

/-- everything derived from one recipe and configuration -/
structure Evaluation where
  recipe : Package.Recipe
  settings : Settings
  options : ResolvedOptions
  withTests : Bool
  graph : Requirement.Graph
  config : Config
deriving Repr, Inhabited

namespace Evaluation

/-- evaluates a loaded recipe under a profile and a configuration -/
def ofProfile (recipe : Package.Recipe) (profile : Profile) (config : Config)
    (skipTestCli : Option Bool) (detected : Option CompilerSettings) : Outcome Evaluation := do
  let settings ← (profile.resolveSettings detected).mapError fun e =>
    (Failure.recipe e).withContext "invalid settings"
  let schema := OptionSchema.standard
  let options ← ((ResolvedOptions.resolve schema settings).applyOverrides schema
    profile.optionOverrides).mapError Failure.recipe
  let withTests := !skipTestFlag skipTestCli profile.skipTest config.skipTest
  pure { recipe, settings, options, withTests, config,
         graph := Requirement.requirements options withTests settings }

/-- checks the compiler against the recipe's C++ standard -/
def validate (e : Evaluation) : Except RecipeError Compatibility :=
  BuildRecipe.validate e.recipe.reference e.settings.compiler

end Evaluation

/-- evaluates the recipe the options select, from where the tool was started; `banner` is what
the compiler on the path prints for `--version`, if there is one -/
def evaluate (inv : Invocation) (opts : EvaluateOptions) (banner : Option String) :
    Job Evaluation := do
  let root := match opts.recipeRoot with
    | some r => inv.resolve r
    | none => inv.cwd
  let recipe ← Package.Recipe.load root
  let profile ← match opts.profile with
    | some p => Profile.load (inv.resolve p)
    | none => pure {}
  let profile ← opts.settings.foldlM (fun p (k, v) =>
    Job.ofOutcome ((p.setSetting k v).mapError Failure.recipe)) profile
  let profile ← opts.options.foldlM (fun p (k, v) =>
    Job.ofOutcome ((p.setOption k v).mapError Failure.recipe)) profile
  let config ← inv.configFor recipe.root
  Job.ofOutcome (Evaluation.ofProfile recipe profile config opts.skipTest (detectCompiler banner))

end BuildRecipe

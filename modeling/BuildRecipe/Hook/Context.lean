/-
What the hooks of one build share: the identity of the package, the recipe root, the build
folder, environment overrides seen only by hooks (a value, or none to hide a variable of the
process) and the destination each hook computed before the build, which is handed back to it
after the build. A hook gets one destination. The CI directory of a hook is below
`$CI_PROJECT_DIR` when that is set and not empty, else below the recipe root.
-/
import BuildRecipe.Package.Recipe

namespace BuildRecipe.Hook

/-- the variable CI runners set to the checkout directory -/
def ciProjectDir : String := "CI_PROJECT_DIR"

/-- the state the hooks of one build share -/
structure Context where
  identity : Package.Identity
  recipeRoot : Path
  buildFolder : Path
  env : SortedMap (Option String) := {}
  destinations : SortedMap Path := {}
deriving Repr, Inhabited

namespace Context

/-- a context with no overrides and no destinations -/
def new (identity : Package.Identity) (recipeRoot buildFolder : Path) : Context :=
  { identity, recipeRoot, buildFolder }

/-- the context with an environment override -/
def setEnv (c : Context) (key : String) (value : Option String) : Context :=
  { c with env := c.env.insert key value }

/-- a variable as hooks see it: the override, else the process's; empty counts as unset -/
def envVar (c : Context) (key : String) : Job (Option String) := do
  let value ← match c.env.get? key with
    | some v => pure v
    | none => Job.getEnv key
  pure (value.filter (!·.isEmpty))

/-- records the destination of a hook; a second one is refused -/
def setDestination (c : Context) (hook : String) (path : Path) : Except RecipeError Context :=
  match c.destinations.get? hook with
  | some existing =>
    .error (.hookSideEffectFailure hook ("destination already set to " ++ existing.display))
  | none => .ok { c with destinations := c.destinations.insert hook path }

/-- the destination of a hook -/
def destination? (c : Context) (hook : String) : Option Path := c.destinations.get? hook

/-- `$CI_PROJECT_DIR/<subdir>`, or `<recipe root>/<subdir>` outside CI -/
def ciDirectory (c : Context) (subdir : String) : Job Path := do
  match ← c.envVar ciProjectDir with
  | some dir => pure ((Path.ofString dir).join subdir)
  | none => pure (c.recipeRoot.join subdir)

end Context

/-- makes a hook's destination directory; a failure is the hook's -/
def prepareDestination (hook : String) (p : Path) : Job Unit := do
  match ← Job.attempt (Job.ensureDir p) with
  | .ok () => pure ()
  | .error f => Job.fail (.recipe (.hookSideEffectFailure hook f.message))

/-- a failure charged to a hook, unless it already carries a recipe error -/
def asHookFailure (hook : String) (f : Failure) : Failure :=
  match f.recipeError? with
  | some _ => f
  | none => .recipe (.hookSideEffectFailure hook f.message)

end BuildRecipe.Hook

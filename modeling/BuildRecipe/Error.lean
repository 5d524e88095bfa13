/-
The fatal conditions of evaluating or building a recipe. Each has one display text (the
one-line message) and one diagnostic (headline, context, suggestions).
-/
import BuildRecipe.Compiler.Standard
import BuildRecipe.Diagnostic

namespace BuildRecipe

/-- a fatal condition raised while evaluating or building a recipe -/
inductive RecipeError where
  /-- the compiler cannot build the recipe's language standard -/
  | configurationIncompatibility (reference : String) (required : Compiler.Standard)
      (reason : String)
  /-- the recipe's version file is missing or empty -/
  | missingVersionSource (path : String) (reason : String)
  /-- a phase of the build system failed -/
  | externalBuildFailure (phase : String) (message : String)
  /-- a CI hook could not do its side effect -/
  | hookSideEffectFailure (hook : String) (message : String)
  /-- an option override names no declared option -/
  | invalidOption (name : String) (known : List String)
  /-- a setting is unknown or its value is rejected -/
  | invalidSetting (key : String) (message : String)
  /-- a package name or reference is malformed -/
  | invalidPackageName (name : String) (message : String)
  /-- a hook is registered twice for one package -/
  | duplicateHook (hook : String) (package : String)
deriving Repr, Inhabited

namespace RecipeError

/-- the one-line message -/
def display : RecipeError → String
  | .configurationIncompatibility reference required reason =>
    reference ++ " requires " ++ required.name ++ ", which your compiler does not support: " ++
      reason
  | .missingVersionSource path reason =>
    "cannot determine recipe version from `" ++ path ++ "`: " ++ reason
  | .externalBuildFailure phase message => phase ++ " phase failed: " ++ message
  | .hookSideEffectFailure hook message => "hook `" ++ hook ++ "` failed: " ++ message
  | .invalidOption name _ => "unknown option `" ++ name ++ "`"
  | .invalidSetting key message => "invalid setting `" ++ key ++ "`: " ++ message
  | .invalidPackageName name message => "invalid package name `" ++ name ++ "`: " ++ message
  | .duplicateHook hook package =>
    "hook `" ++ hook ++ "` is already registered for `" ++ package ++ "`"

/-- the diagnostic shown to the user -/
def toDiagnostic : RecipeError → Diagnostic
  | .configurationIncompatibility reference required reason =>
    ((Diagnostic.error ("`" ++ reference ++ "` requires " ++ required.name)).withContext reason
      |>.withSuggestion ("Select a compiler that supports " ++ required.name ++
        " (`-s compiler.version=...`)")).withSuggestion
      ("Raise `compiler.cppstd` to " ++ required.number ++ " or later")
  | .missingVersionSource path reason =>
    (((Diagnostic.error "recipe version could not be read").withLocation path).withContext
      reason).withSuggestion "Create `version.txt` next to `Recipe.toml`"
  | .externalBuildFailure phase message =>
    ((Diagnostic.error (phase ++ " phase failed")).withContext message).withSuggestion
      "Inspect the build system output above"
  | .hookSideEffectFailure hook message =>
    ((Diagnostic.error ("hook `" ++ hook ++ "` failed")).withContext message).withContext
      "compiled output is intact; only CI packaging is affected"
  | .invalidOption name known =>
    (Diagnostic.error ("unknown option `" ++ name ++ "`")).withContext
      ("known options: " ++ ", ".intercalate known)
  | .invalidSetting key message =>
    (Diagnostic.error ("invalid setting `" ++ key ++ "`")).withContext message
  | .invalidPackageName name message =>
    (Diagnostic.error ("invalid package name `" ++ name ++ "`")).withContext message
  | .duplicateHook hook package =>
    Diagnostic.error ("hook `" ++ hook ++ "` registered twice for `" ++ package ++ "`")

end RecipeError

end BuildRecipe

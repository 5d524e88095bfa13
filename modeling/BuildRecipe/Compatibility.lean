/-
Compiler compatibility: the recipe needs C++17. An explicit standard below it is refused; a known
family must be at least its minimum version (msvc 14.1, gcc 8.1, clang 7, apple-clang 10); an
unrecognised family is let through unverified, with a warning.
-/
import BuildRecipe.Diagnostic
import BuildRecipe.Package.Reference
import BuildRecipe.Settings

namespace BuildRecipe

/-- the language standard the recipe needs -/
def minimumStandard : Compiler.Standard := .cpp17

/-- the oldest version of a known family that supports C++17 -/
def minimumVersion : Compiler.Family → Option Compiler.Version
  | .msvc => some (.ofParts 14 1)
  | .gcc => some (.ofParts 8 1)
  | .clang => some (.ofParts 7 0)
  | .appleClang => some (.ofParts 10 0)
  | .unrecognized _ => none

/-- how far the compiler is known to support the recipe -/
inductive Compatibility where
  | verified
  | unverified (family : String)
deriving DecidableEq, Repr, Inhabited

namespace Compatibility

/-- whether support is known -/
def isVerified : Compatibility → Bool
  | .verified => true
  | .unverified _ => false

/-- the families with a known minimum, in the order the warning lists them -/
def knownFamilies : List Compiler.Family := [.msvc, .gcc, .clang, .appleClang]

/-- the warning for an unverified compiler; verbose lists the known minimums -/
def warning (c : Compatibility) (reference : Package.Reference) (verbose : Bool) :
    Option Diagnostic :=
  match c with
  | .verified => none
  | .unverified family =>
    let d := (Diagnostic.warning ("compiler `" ++ family ++ "` has no known minimum version for " ++
      reference.display)).withSuggestion
      ("Make sure `" ++ family ++ "` supports " ++ minimumStandard.name ++ " before building")
    let known := knownFamilies.filterMap fun f =>
      (minimumVersion f).map fun v => f.name ++ " >= " ++ v.raw
    some (if verbose then known.foldl Diagnostic.withContext d else d)

end Compatibility

/-- checks that the compiler supports the recipe's standard -/
def validate (reference : Package.Reference) (compiler : CompilerSettings) :
    Except RecipeError Compatibility :=
  let incompatible := fun reason =>
    RecipeError.configurationIncompatibility reference.display minimumStandard reason
  match compiler.cppstd with
  | some std =>
    if std < minimumStandard then .error (incompatible ("compiler.cppstd is set to " ++ std.number))
    else byFamily incompatible
  | none => byFamily incompatible
where
  /-- the check of the family's minimum version -/
  byFamily (incompatible : String → RecipeError) : Except RecipeError Compatibility :=
    match minimumVersion compiler.family with
    | none => .ok (.unverified compiler.family.name)
    | some minimum =>
      if compiler.version.lt minimum then
        .error (incompatible (compiler.family.name ++ " " ++ compiler.version.raw ++
          " is older than " ++ minimum.raw))
      else .ok .verified

end BuildRecipe

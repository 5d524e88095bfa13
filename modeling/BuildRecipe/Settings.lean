/-
Resolved settings: the target platform, the build type and the compiler (family, version and an
optional explicit C++ standard).
-/
import BuildRecipe.BuildType
import BuildRecipe.Compiler.Family
import BuildRecipe.Compiler.Standard
import BuildRecipe.Compiler.Version
import BuildRecipe.Platform

namespace BuildRecipe

/-- the compiler a recipe is built with -/
structure CompilerSettings where
  family : Compiler.Family
  version : Compiler.Version
  cppstd : Option Compiler.Standard := none
deriving Repr, Inhabited

/-- the settings a recipe is evaluated for -/
structure Settings where
  os : Os
  arch : Arch
  compiler : CompilerSettings
  buildType : BuildType
deriving Repr, Inhabited

/-- whether the target is Windows -/
def Settings.isWindows (s : Settings) : Bool := s.os == .windows

end BuildRecipe

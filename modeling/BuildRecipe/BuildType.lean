/-
Build types, as CMake names them. Reading compares ASCII case-insensitively and rejects any other
text with an `invalid setting` error that lists the four names.
-/
import BuildRecipe.Error
import BuildRecipe.Text.Case

namespace BuildRecipe

/-- a CMake build type -/
inductive BuildType where
  | debug
  | release
  | relWithDebInfo
  | minSizeRel
deriving DecidableEq, Repr

instance : Inhabited BuildType := ⟨.release⟩

namespace BuildType

/-- the display name -/
def name : BuildType → String
  | .debug => "Debug"
  | .release => "Release"
  | .relWithDebInfo => "RelWithDebInfo"
  | .minSizeRel => "MinSizeRel"

/-- reads a build type, ASCII case-insensitively -/
def parse (s : String) : Except RecipeError BuildType :=
  match Text.lowerAscii s with
  | "debug" => .ok .debug
  | "release" => .ok .release
  | "relwithdebinfo" => .ok .relWithDebInfo
  | "minsizerel" => .ok .minSizeRel
  | _ => .error (.invalidSetting "build_type"
      ("`" ++ s ++ "` is not one of Debug, Release, RelWithDebInfo, MinSizeRel"))

theorem parse_name (b : BuildType) : parse b.name = .ok b := by
  cases b <;> rfl

end BuildType

end BuildRecipe

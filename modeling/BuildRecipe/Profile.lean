/-
Profiles: the raw texts of settings (os, arch, build type, compiler family, version and standard),
option overrides and whether to skip tests. Command-line `-s key=value` and `-o key=value` write
into a profile; resolving it reads every text, in a fixed order, and asks a detector for the
compiler only when the profile names neither a family nor a version.
-/
import BuildRecipe.Data.SortedMap
import BuildRecipe.Settings
import BuildRecipe.Text.Basic
import BuildRecipe.Text.Blank
import BuildRecipe.Text.Case

namespace BuildRecipe

/-- the raw compiler texts of a profile -/
structure CompilerSpec where
  family : Option String := none
  version : Option String := none
  cppstd : Option String := none
deriving Repr, Inhabited, DecidableEq

/-- the raw setting texts of a profile -/
structure SettingsSpec where
  os : Option String := none
  arch : Option String := none
  buildType : Option String := none
  compiler : CompilerSpec := {}
deriving Repr, Inhabited, DecidableEq

/-- a profile: setting texts, option overrides and the test switch -/
structure Profile where
  settings : SettingsSpec := {}
  options : SortedMap Bool := {}
  skipTest : Option Bool := none
deriving Repr, Inhabited, DecidableEq

/-- reads a switch: `true`, `1`, `on`, `yes` or `false`, `0`, `off`, `no`, ASCII
case-insensitively -/
def parseBool (value : String) : Option Bool :=
  match Text.lowerAscii value with
  | "true" | "1" | "on" | "yes" => some true
  | "false" | "0" | "off" | "no" => some false
  | _ => none

/-- splits a `key=value` argument at its first `=`; the key must not be empty before trimming,
and both sides are trimmed -/
def parseKeyValue (arg : String) : Except String (String × String) :=
  match Text.splitOnce arg '=' with
  | some (key, value) =>
    if key.isEmpty then .error ("expected `key=value`, got `" ++ arg ++ "`")
    else .ok (Text.trim key, Text.trim value)
  | none => .error ("expected `key=value`, got `" ++ arg ++ "`")

namespace Profile

/-- the setting keys a profile knows -/
def settingKeys : List String :=
  ["os", "arch", "build_type", "compiler", "compiler.version", "compiler.cppstd"]

/-- the raw text of a setting, by key -/
def setting? (p : Profile) : String → Option String
  | "os" => p.settings.os
  | "arch" => p.settings.arch
  | "build_type" => p.settings.buildType
  | "compiler" => p.settings.compiler.family
  | "compiler.version" => p.settings.compiler.version
  | "compiler.cppstd" => p.settings.compiler.cppstd
  | _ => none

/-- writes one setting; an unknown key is an `invalid setting` error -/
def setSetting (p : Profile) (key value : String) : Except RecipeError Profile :=
  let s := p.settings
  let c := s.compiler
  match key with
  | "os" => .ok { p with settings := { s with os := some value } }
  | "arch" => .ok { p with settings := { s with arch := some value } }
  | "build_type" => .ok { p with settings := { s with buildType := some value } }
  | "compiler" => .ok { p with settings := { s with compiler := { c with family := some value } } }
  | "compiler.version" =>
    .ok { p with settings := { s with compiler := { c with version := some value } } }
  | "compiler.cppstd" =>
    .ok { p with settings := { s with compiler := { c with cppstd := some value } } }
  | _ => .error (.invalidSetting key
      "expected one of os, arch, build_type, compiler, compiler.version, compiler.cppstd")

/-- writes one option override; the value must read as a switch -/
def setOption (p : Profile) (key value : String) : Except RecipeError Profile :=
  match parseBool value with
  | some b => .ok { p with options := p.options.insert key b }
  | none => .error (.invalidSetting key ("`" ++ value ++ "` is not a boolean"))

/-- the option overrides, in name order -/
def optionOverrides (p : Profile) : List (String × Bool) := p.options.entries

/-- whether resolving asks the detector: the build type and standard read, and neither a
compiler family nor a version is given -/
def consultsDetector (p : Profile) : Bool :=
  let s := p.settings
  (match s.buildType with
    | some bt => (BuildType.parse bt).toBool
    | none => true) &&
  (match s.compiler.cppstd with
    | some c => (Compiler.Standard.parse c).toBool
    | none => true) &&
  s.compiler.family.isNone && s.compiler.version.isNone

/-- the settings a profile stands for: os and arch (the host's when absent), the build type
(Release when absent), the standard, then the compiler, which is the profile's when it gives a
family and a version, and otherwise the detected one with the profile's standard -/
def resolveSettings (p : Profile) (detected : Option CompilerSettings) :
    Except RecipeError Settings := do
  let s := p.settings
  let os := (s.os.map Os.parse).getD Os.host
  let arch := (s.arch.map Arch.parse).getD Arch.host
  let buildType ← match s.buildType with
    | some bt => BuildType.parse bt
    | none => pure .release
  let cppstd ← match s.compiler.cppstd with
    | some c => match Compiler.Standard.parse c with
      | .ok std => pure (some std)
      | .error bad => throw (.invalidSetting "compiler.cppstd"
          (Compiler.Standard.parseErrorText bad))
    | none => pure none
  let compiler ← match s.compiler.family, s.compiler.version with
    | some family, some version => do
      let v ← Compiler.Version.parse version
      pure { family := Compiler.Family.parse family, version := v, cppstd }
    | some _, none => throw (.invalidSetting "compiler.version"
        "a compiler family was given without a version")
    | none, some _ => throw (.invalidSetting "compiler"
        "a compiler version was given without a compiler family")
    | none, none => match detected with
      | some d => pure { d with cppstd }
      | none => throw (.invalidSetting "compiler" "no compiler configured and none found on PATH")
  pure { os, arch, compiler, buildType }

end Profile

end BuildRecipe

/-
The toolchain a CMake project is configured with: cache variables (switches and texts) and the
build-context packages whose CMake modules are loaded. From the package name, options, settings
and whether tests are built it sets `<PREFIX>_WITH_TOOLS`, `<PREFIX>_WITH_DOC`, the position
independent code switch when the option exists, and the C++ standard when one is set; it
activates the build helper, and the compliance checker when tests are built. It is written as
a toolchain file, which includes a dependency file that puts host packages on the prefix path
and the activated packages on the module path with their modules included.
-/
import BuildRecipe.Dependency
import BuildRecipe.Layout
import BuildRecipe.Options
import BuildRecipe.Requirement.Pinned
import BuildRecipe.Settings

namespace BuildRecipe

/-- a CMake cache value -/
inductive CacheValue where
  | bool (b : Bool)
  | text (s : String)
deriving DecidableEq, Repr, Inhabited

namespace CacheValue

/-- the cache type of a value -/
def cacheType : CacheValue → String
  | .bool _ => "BOOL"
  | .text _ => "STRING"

/-- the value as CMake reads it: `ON`/`OFF`, or a quoted text with inner quotes escaped -/
def display : CacheValue → String
  | .bool true => "ON"
  | .bool false => "OFF"
  | .text s => "\"" ++ Text.replaceChar s '"' "\\\"" ++ "\""

end CacheValue

/-- the first line of every generated file -/
def generatedHeader : String := "# Generated by stevedore. Do not edit.\n"

/-- cache variables by name, and the activated packages in the order they were activated -/
structure Toolchain where
  cache : SortedMap CacheValue := {}
  activated : List String := []
deriving Repr, Inhabited

namespace Toolchain

/-- the toolchain with a variable set -/
def set (t : Toolchain) (key : String) (v : CacheValue) : Toolchain :=
  { t with cache := t.cache.insert key v }

/-- the value of a variable -/
def get? (t : Toolchain) (key : String) : Option CacheValue := t.cache.get? key

/-- the toolchain with a package activated, once -/
def activate (t : Toolchain) (name : String) : Toolchain :=
  if t.activated.contains name then t else { t with activated := t.activated ++ [name] }

/-- whether a package is activated -/
def isActivated (t : Toolchain) (name : String) : Bool := t.activated.contains name

/-- the toolchain for a package, its options and settings -/
def new (name : Package.Name) (options : ResolvedOptions) (settings : Settings)
    (withTests : Bool) : Toolchain :=
  let pre := name.variablePrefix
  let t : Toolchain := {}
  let t := t.set (pre ++ "_WITH_TOOLS") (.bool options.withTools)
  let t := t.set (pre ++ "_WITH_DOC") (.bool options.withDoc)
  let t := match options.fpic with
    | some b => t.set "CMAKE_POSITION_INDEPENDENT_CODE" (.bool b)
    | none => t
  let t := match settings.compiler.cppstd with
    | some std => t.set "CMAKE_CXX_STANDARD" (.text std.number)
    | none => t
  let t := t.activate Requirement.buildHelper.name.val
  if withTests then t.activate Requirement.complianceChecker.name.val else t

/-- the text of the toolchain file -/
def renderToolchain (t : Toolchain) : String :=
  generatedHeader ++
  String.join (t.cache.entries.map fun (k, v) =>
    "set(" ++ k ++ " " ++ v.display ++ " CACHE " ++ v.cacheType ++ " \"\" FORCE)\n") ++
  "include(\"$" ++ "\x7bCMAKE_CURRENT_LIST_DIR\x7d/" ++ depsFileName ++ "\" OPTIONAL)\n"

/-- the text of the dependency file -/
def renderDeps (t : Toolchain) (deps : List Dependency) : String :=
  generatedHeader ++
  String.join ((deps.filter (·.isHost)).map fun d =>
    "list(APPEND CMAKE_PREFIX_PATH \"" ++ d.packageFolder.cmakeText ++ "\")\n") ++
  String.join (t.activated.map fun name =>
    match deps.find? (·.name.val == name) with
    | some d =>
      "list(APPEND CMAKE_MODULE_PATH \"" ++ d.packageFolder.cmakeText ++ "\")\n" ++
      String.join (d.buildModulePaths.map fun m => "include(\"" ++ m.cmakeText ++ "\")\n")
    | none => "")

/-- writes the toolchain file and the dependency file -/
def write (t : Toolchain) (layout : Layout) (deps : List Dependency) : Job Unit := do
  Job.writeText layout.toolchainFile t.renderToolchain
  Job.writeText layout.depsFile (t.renderDeps deps)

end Toolchain

end BuildRecipe

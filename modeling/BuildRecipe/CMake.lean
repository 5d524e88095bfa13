/-
Driving CMake for one recipe: the command lines that configure the build folder with the
generated toolchain, build a target, install a component into the install prefix and run the
tests; the generator a configured build folder records in its cache; the name of the test
target under that generator, which the test command of a configured build folder builds; and
the version a `cmake --version` banner reports.
-/
import BuildRecipe.Command
import BuildRecipe.FileTree
import BuildRecipe.Layout
import BuildRecipe.SemVer
import BuildRecipe.Text.Blank

namespace BuildRecipe

/-- the CMake versions a recipe accepts -/
def cmakeVersionRange : String := ">=3.18.0, <4"

/-- how to install CMake on the host -/
def cmakeInstallHint : String :=
  "Install CMake: apt install cmake, dnf install cmake, or https://cmake.org/download/"

/-- CMake for one recipe: the program, the layout, the build type and the parallel jobs -/
structure CMake where
  program : Path
  layout : Layout
  buildType : BuildType
  jobs : Option Nat := none
deriving Repr, Inhabited

namespace CMake

/-- `cmake -S <root> -B <build> -DCMAKE_TOOLCHAIN_FILE=<toolchain> -DCMAKE_BUILD_TYPE=<type>` -/
def configureCommand (c : CMake) : Command :=
  ((((Command.new c.program).arg "-S").arg c.layout.recipeRoot.display |>.arg "-B"
    |>.arg c.layout.buildFolder.display)
    |>.arg ("-DCMAKE_TOOLCHAIN_FILE=" ++ c.layout.toolchainFile.display))
    |>.arg ("-DCMAKE_BUILD_TYPE=" ++ c.buildType.name)

/-- `cmake --build <build> --config <type>`, then the target and the parallel jobs if given -/
def buildCommand (c : CMake) (target : Option String) : Command :=
  let cmd := (Command.new c.program).arg "--build" |>.arg c.layout.buildFolder.display
    |>.arg "--config" |>.arg c.buildType.name
  let cmd := match target with
    | some t => cmd.arg "--target" |>.arg t
    | none => cmd
  match c.jobs with
  | some j => cmd.arg "--parallel" |>.arg (toString j)
  | none => cmd

/-- `cmake --install <build> --config <type>`, the component if given, then the prefix -/
def installCommand (c : CMake) (component : Option String) : Command :=
  let cmd := (Command.new c.program).arg "--install" |>.arg c.layout.buildFolder.display
    |>.arg "--config" |>.arg c.buildType.name
  let cmd := match component with
    | some comp => cmd.arg "--component" |>.arg comp
    | none => cmd
  cmd.arg "--prefix" |>.arg c.layout.installPrefix.display

end CMake

/-- the target that runs the tests: `RUN_TESTS` under Visual Studio and Xcode, else `test` -/
def testTarget : Option String → String
  | some g => if g.startsWith "Visual Studio" || g == "Xcode" then "RUN_TESTS" else "test"
  | none => "test"

/-- the command that builds the test target of the generator -/
def CMake.testCommand (c : CMake) (generator : Option String) : Command :=
  c.buildCommand (some (testTarget generator))

/-- the generator a CMake cache text records: the value of the first `CMAKE_GENERATOR` entry,
whatever its type -/
def generatorOfCache (cache : String) : Option String :=
  (Text.lines cache).findSome? fun line =>
    match Text.splitOnce line '=' with
    | some (key, value) =>
      if (Text.splitAll key ':').head? == some "CMAKE_GENERATOR" then some (Text.trim value)
      else none
    | none => none

/-- the name of CMake's cache file in a build folder -/
def cmakeCacheFileName : String := "CMakeCache.txt"

/-- the generator the build folder of a layout is configured with, as its CMake cache records it;
none when the cache file cannot be read -/
def configuredGenerator (t : FileTree) (layout : Layout) : Option String :=
  match t.read (layout.buildFolder.join cmakeCacheFileName) with
  | .ok cache => generatorOfCache cache
  | .error _ => none

/-- the command that builds the test target of the generator the build folder is configured
with -/
def CMake.configuredTestCommand (c : CMake) (t : FileTree) : Command :=
  c.testCommand (configuredGenerator t c.layout)

/-- the version a `cmake --version` banner reports: the first line reading `cmake version `,
its text up to a `-`, read as a semantic version -/
def parseCMakeVersion (banner : String) : Option SemVer.Version := do
  let rest ← (Text.lines banner).findSome? fun l => Text.stripPrefix? (Text.trim l) "cmake version "
  let core ← (Text.splitAll (Text.trim rest) '-').head?
  (SemVer.Version.parse core).toOption

end BuildRecipe

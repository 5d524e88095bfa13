/-
The layout of a build: everything the tool writes lives under one build folder, by default
`<recipe root>/build/<build type>`; generated CMake files, collected licenses, generated
documentation and the install prefix each have their place below it.
-/
import BuildRecipe.BuildType
import BuildRecipe.Path

namespace BuildRecipe

/-- the name of the generated toolchain file -/
def toolchainFileName : String := "stevedore_toolchain.cmake"

/-- the name of the generated dependency file -/
def depsFileName : String := "stevedore_deps.cmake"

/-- where a recipe lives and where its build goes -/
structure Layout where
  recipeRoot : Path
  buildFolder : Path
deriving DecidableEq, Repr, Inhabited

namespace Layout

/-- the default layout: the build folder is `build/<build type>` under the recipe root -/
def new (recipeRoot : Path) (buildType : BuildType) : Layout :=
  { recipeRoot, buildFolder := (recipeRoot.join "build").join buildType.name }

/-- the layout with another build folder; a relative one is taken from the recipe root -/
def withBuildFolder (l : Layout) (folder : Path) : Layout :=
  { l with buildFolder := if folder.isAbsolute then folder else l.recipeRoot.join folder }

/-- where generated CMake files go -/
def generatorsFolder (l : Layout) : Path := l.buildFolder.join "generators"

/-- the generated toolchain file -/
def toolchainFile (l : Layout) : Path := l.generatorsFolder.join toolchainFileName

/-- the generated dependency file -/
def depsFile (l : Layout) : Path := l.generatorsFolder.join depsFileName

/-- where licenses are collected -/
def licensesFolder (l : Layout) : Path := l.buildFolder.join "licenses"

/-- where generated documentation sources go -/
def genMdFolder (l : Layout) : Path := l.buildFolder.join "gen_md"

/-- the install prefix -/
def installPrefix (l : Layout) : Path := l.buildFolder.join "package"

end Layout

end BuildRecipe

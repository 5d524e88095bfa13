/-
Package kinds, written in kebab case in a recipe: `application`, `library`, `shared-library`,
`static-library`, `header-library` and `build-scripts`. A recipe that names none builds a
shared library.
-/

namespace BuildRecipe.Package

/-- what a package produces -/
inductive Kind where
  | application
  | library
  | sharedLibrary
  | staticLibrary
  | headerLibrary
  | buildScripts
deriving DecidableEq, Repr

instance : Inhabited Kind := ⟨.sharedLibrary⟩

namespace Kind

/-- all kinds -/
def all : List Kind :=
  [.application, .library, .sharedLibrary, .staticLibrary, .headerLibrary, .buildScripts]

/-- the kebab-case name -/
def name : Kind → String
  | .application => "application"
  | .library => "library"
  | .sharedLibrary => "shared-library"
  | .staticLibrary => "static-library"
  | .headerLibrary => "header-library"
  | .buildScripts => "build-scripts"

/-- the kind with exactly this name -/
def ofName? (s : String) : Option Kind := all.find? (·.name == s)

end Kind

end BuildRecipe.Package

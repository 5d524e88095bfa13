/-
License manifests: the package's own license first, then one row per dependency name in
ascending name order. A name is added once: the package's own name and a name already present
are refused, so the first license given for a name is kept.
-/
import BuildRecipe.Data.SortedMap
import BuildRecipe.License.Basic
import BuildRecipe.Text.Basic

namespace BuildRecipe.License

/-- the licenses of a package and its dependencies -/
structure Manifest where
  package : String
  packageLicense : String
  rows : SortedMap String := {}
deriving Repr, Inhabited

namespace Manifest

/-- a manifest with the package's own row only -/
def new (package packageLicense : String) : Manifest := { package, packageLicense }

/-- whether the manifest has a row for `name` -/
def contains (m : Manifest) (name : String) : Bool := name == m.package || m.rows.contains name

/-- the manifest with a row for `name`, unless it has one; and whether it was added -/
def add (m : Manifest) (name : String) (license : License) : Manifest × Bool :=
  if m.contains name then (m, false)
  else ({ m with rows := m.rows.insert name license.display }, true)

/-- all rows: the package's own, then the dependencies in name order -/
def allRows (m : Manifest) : List (String × String) := (m.package, m.packageLicense) :: m.rows.entries

/-- the number of rows -/
def entryCount (m : Manifest) : Nat := m.rows.size + 1

/-- one table line: each cell after `| `, padded to its width -/
def tableLine (name license : String) : String :=
  "| " ++ Text.padRight name 20 ++ "| " ++ Text.padRight license 30 ++ "|\n"

/-- the report text: a header paragraph, then the rows as a table or as `name: license` lines -/
def render (m : Manifest) (format : Format) : String :=
  let header := "Licenses for `" ++ m.package ++ "` and its dependencies are listed below.\n\n"
  match format with
  | .table =>
    header ++ tableLine "Library" "License" ++
      "|" ++ String.ofList (List.replicate 21 '-') ++ "|" ++
      String.ofList (List.replicate 31 '-') ++ "|\n" ++
      String.join (m.allRows.map fun (n, l) => tableLine n l)
  | .list => header ++ String.join (m.allRows.map fun (n, l) => n ++ ": " ++ l ++ "\n")

end Manifest

end BuildRecipe.License

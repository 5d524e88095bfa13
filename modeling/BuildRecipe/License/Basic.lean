/-
Licenses of dependencies, one identifier or several, and the two formats of the license report.
Several identifiers display joined by `, `.
-/
import BuildRecipe.Text.Case

namespace BuildRecipe

/-- the license of a dependency: one identifier or a list of them -/
inductive License where
  | single (id : String)
  | multiple (ids : List String)
deriving DecidableEq, Repr, Inhabited

namespace License

/-- the identifiers joined by `, ` -/
def display : License → String
  | .single id => id
  | .multiple ids => ", ".intercalate ids

/-- how the license report lists its rows -/
inductive Format where
  | table
  | list
deriving DecidableEq, Repr

instance : Inhabited Format := ⟨.table⟩

/-- the format's name -/
def Format.name : Format → String
  | .table => "table"
  | .list => "list"

/-- reads a format name, ASCII case-insensitively -/
def Format.parse (s : String) : Except String Format :=
  match Text.lowerAscii s with
  | "table" => .ok .table
  | "list" => .ok .list
  | _ => .error ("unknown license format `" ++ s ++ "` (expected table or list)")

end License

end BuildRecipe

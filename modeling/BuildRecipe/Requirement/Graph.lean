/-
Requirement graphs: the packages a recipe needs, each with the role it plays, in the order they
were added. A package name appears at most once: adding a second reference with a name already
present changes nothing and reports `false`.
-/
import BuildRecipe.Package.Reference
import BuildRecipe.Text.Basic

namespace BuildRecipe.Requirement

/-- the role a required package plays in the build -/
inductive Role where
  | host
  | buildTool
  | test
deriving DecidableEq, Repr, Inhabited

namespace Role

/-- the role's name -/
def name : Role → String
  | .host => "host"
  | .buildTool => "build-tool"
  | .test => "test"

/-- reads a role from its exact name -/
def ofName? : String → Option Role
  | "host" => some .host
  | "build-tool" => some .buildTool
  | "test" => some .test
  | _ => none

end Role

/-- a required package and its role -/
structure Entry where
  reference : Package.Reference
  role : Role
deriving DecidableEq, Repr, Inhabited

/-- the name of the required package -/
def Entry.name (e : Entry) : String := e.reference.name.val

/-- the requirements of a recipe, in the order they were added -/
structure Graph where
  entries : List Entry := []
deriving DecidableEq, Repr, Inhabited

namespace Graph

/-- the entry for the package `name`, if any -/
def get? (g : Graph) (name : String) : Option Entry := g.entries.find? (·.name == name)

/-- whether the package `name` is required -/
def contains (g : Graph) (name : String) : Bool := (g.get? name).isSome

/-- the graph with the requirement added unless its name is present; and whether it was added -/
def add (g : Graph) (reference : Package.Reference) (role : Role) : Graph × Bool :=
  if g.contains reference.name.val then (g, false)
  else (⟨g.entries ++ [⟨reference, role⟩]⟩, true)

/-- the graph with the requirement added unless its name is present -/
def push (g : Graph) (reference : Package.Reference) (role : Role) : Graph :=
  (g.add reference role).1

/-- the entries playing `role`, in order -/
def withRole (g : Graph) (role : Role) : List Entry := g.entries.filter (·.role == role)

/-- the number of requirements -/
def size (g : Graph) : Nat := g.entries.length

/-- one line per requirement: the role padded to 12 characters, a space, the reference -/
def display (g : Graph) : String :=
  String.join (g.entries.map fun e => Text.padRight e.role.name 12 ++ " " ++ e.reference.display ++ "\n")

end Graph

end BuildRecipe.Requirement

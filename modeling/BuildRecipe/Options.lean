/-
Package options: a schema declares each option with its default; resolving it for some settings
drops `fPIC` on Windows, where position-independent code does not apply. Overrides then set
declared options one by one; an override of an option that resolving dropped is ignored, and one
naming an undeclared option stops with an `unknown option` error.
-/
import BuildRecipe.Data.SortedMap
import BuildRecipe.Error
import BuildRecipe.Settings

namespace BuildRecipe

/-- the option that asks for position-independent code -/
def optionFpic : String := "fPIC"

/-- the option that builds the command-line tools -/
def optionWithTools : String := "with_tools"

/-- the option that builds the documentation -/
def optionWithDoc : String := "with_doc"

/-- the declared options of a package with their defaults -/
structure OptionSchema where
  defaults : SortedMap Bool
deriving Repr, Inhabited

namespace OptionSchema

/-- the schema of the packaged FMU: `fPIC` and `with_tools` on, `with_doc` off -/
def standard : OptionSchema :=
  ⟨SortedMap.ofList [(optionFpic, true), (optionWithTools, true), (optionWithDoc, false)]⟩

/-- whether the schema declares `name` -/
def declares (s : OptionSchema) (name : String) : Bool := s.defaults.contains name

/-- the declared names, ascending -/
def names (s : OptionSchema) : List String := s.defaults.keys

end OptionSchema

/-- the options in effect for one evaluation -/
structure ResolvedOptions where
  values : SortedMap Bool
deriving Repr, Inhabited

namespace ResolvedOptions

/-- the schema's defaults, without `fPIC` on Windows -/
def resolve (schema : OptionSchema) (settings : Settings) : ResolvedOptions :=
  ⟨if settings.isWindows then schema.defaults.erase optionFpic else schema.defaults⟩

/-- the value of an option that is in effect -/
def get? (o : ResolvedOptions) (name : String) : Option Bool := o.values.get? name

/-- whether the tools are built; off when the option is absent -/
def withTools (o : ResolvedOptions) : Bool := (o.get? optionWithTools).getD false

/-- whether the documentation is built; off when the option is absent -/
def withDoc (o : ResolvedOptions) : Bool := (o.get? optionWithDoc).getD false

/-- whether position-independent code is asked for, when the option is in effect -/
def fpic (o : ResolvedOptions) : Option Bool := o.get? optionFpic

/-- one override: an undeclared name is an error, a dropped option is left out -/
def applyOverride (schema : OptionSchema) (o : ResolvedOptions) (override : String × Bool) :
    Except RecipeError ResolvedOptions :=
  let (name, value) := override
  if !schema.declares name then .error (.invalidOption name schema.names)
  else if o.values.contains name then .ok ⟨o.values.insert name value⟩
  else .ok o

/-- the overrides applied in order, stopping at the first undeclared name -/
def applyOverrides (schema : OptionSchema) (o : ResolvedOptions) (overrides : List (String × Bool)) :
    Except RecipeError ResolvedOptions :=
  overrides.foldlM (applyOverride schema) o

/-- one `name=value` line per option, in name order -/
def display (o : ResolvedOptions) : String :=
  String.join (o.values.entries.map fun (k, v) => k ++ "=" ++ toString v ++ "\n")

end ResolvedOptions

end BuildRecipe

/-
TOML values as a document holds them: strings, integers, floats, booleans, date-times, arrays
and tables. Floats and date-times keep their text; tables keep their keys in the order they were
defined. Accessors give the value of one shape or nothing, which is how typed reading refuses a
value of the wrong shape.
-/

namespace BuildRecipe.Toml

/-- a TOML value -/
inductive Value where
  | string (s : String)
  | integer (i : Int)
  | float (text : String)
  | boolean (b : Bool)
  | datetime (text : String)
  | array (items : List Value)
  | table (entries : List (String × Value))
deriving Repr, Inhabited

namespace Value

/-- the text of a string value -/
def asString? : Value → Option String
  | .string s => some s
  | _ => none

/-- the value of a boolean -/
def asBool? : Value → Option Bool
  | .boolean b => some b
  | _ => none

/-- the value of an integer -/
def asInt? : Value → Option Int
  | .integer i => some i
  | _ => none

/-- the items of an array -/
def asArray? : Value → Option (List Value)
  | .array items => some items
  | _ => none

/-- the entries of a table -/
def asTable? : Value → Option (List (String × Value))
  | .table entries => some entries
  | _ => none

/-- the name of a choice without content: a string, or a table with one key whose value is an
empty table or an empty array -/
def variantName? : Value → Option String
  | .string s => some s
  | .table [(k, .table [])] | .table [(k, .array [])] => some k
  | _ => none

/-- the entries of a record: a table gives its own, and an array stands for the record's
`fields` in their order, its items past the last field passed over -/
def recordEntries? (fields : List String) : Value → Option (List (String × Value))
  | .table entries => some entries
  | .array items => some (fields.zip items)
  | _ => none

end Value

/-- the entry of a table under `key` -/
def field? (entries : List (String × Value)) (key : String) : Option Value := entries.lookup key

/-- an optional entry read with `read`: absent is fine, present must read -/
def optional {α : Type} (entries : List (String × Value)) (key : String)
    (read : Value → Option α) : Option (Option α) :=
  match field? entries key with
  | none => some none
  | some v => (read v).map some

/-- an entry read with `read`, or `dflt` when absent -/
def withDefault {α : Type} (entries : List (String × Value)) (key : String) (dflt : α)
    (read : Value → Option α) : Option α :=
  match field? entries key with
  | none => some dflt
  | some v => read v

/-- an entry that must be present and read with `read` -/
def required {α : Type} (entries : List (String × Value)) (key : String)
    (read : Value → Option α) : Option α :=
  (field? entries key).bind read

/-- an array of strings -/
def stringList? (v : Value) : Option (List String) := v.asArray?.bind (·.mapM Value.asString?)

end BuildRecipe.Toml

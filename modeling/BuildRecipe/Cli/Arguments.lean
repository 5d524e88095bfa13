/-
The command line of the tool: flags that apply to every command (verbosity, colour, the recipe
root, the profile, `-s`/`-o` overrides, whether to skip the tests), which may stand anywhere,
and one command with flags of its own. A flag's value is the next argument or follows `=` in
the same one. Reading stops at the first argument that is not understood.
-/
import BuildRecipe.Evaluation
import BuildRecipe.License.Basic

namespace BuildRecipe.Cli

/-- what the generating commands are given besides the recipe -/
structure GenerateArgs where
  deps : Option Path := none
  buildFolder : Option Path := none
  licenseFormat : Option License.Format := none
deriving Repr, Inhabited

/-- the commands of the tool -/
inductive Command where
  /-- print the resolved options -/
  | options
  /-- print the requirement graph, as lines or as JSON -/
  | graph (json : Bool)
  /-- check the compiler against the recipe -/
  | validate
  /-- write the toolchain, the dependency wiring and the license report -/
  | generate (args : GenerateArgs)
  /-- generate, then configure, build and test -/
  | build (args : GenerateArgs) (jobs : Option Nat)
deriving Repr, Inhabited

/-- a whole command line, read -/
structure Request where
  verbose : Bool := false
  noColor : Bool := false
  recipe : EvaluateOptions := {}
  command : Command
deriving Repr, Inhabited

/-- what has been read so far -/
structure Draft where
  verbose : Bool := false
  noColor : Bool := false
  recipe : EvaluateOptions := {}
  command : Option String := none
  json : Bool := false
  generate : GenerateArgs := {}
  jobs : Option Nat := none
deriving Repr, Inhabited

/-- the arguments with each `--flag=value` split in two -/
def splitAssignments (args : List String) : List String :=
  args.flatMap fun a =>
    if a.startsWith "--" then
      match Text.splitOnce a '=' with
      | some (flag, value) => [flag, value]
      | none => [a]
    else [a]

/-- the refusal of a value -/
def invalidValue (value flag reason : String) : String :=
  "invalid value '" ++ value ++ "' for '" ++ flag ++ "': " ++ reason

/-- reads `true` or `false` -/
def readBool (flag value : String) : Except String Bool :=
  match value with
  | "true" => .ok true
  | "false" => .ok false
  | _ => .error (invalidValue value flag "expected `true` or `false`")

/-- reads a count of jobs -/
def readCount (flag value : String) : Except String Nat :=
  match value.toNat? with
  | some k => .ok k
  | none => .error (invalidValue value flag "invalid digit found in string")

/-- applies a flag that takes a value -/
def withValue (d : Draft) (flag value : String) : Except String Draft :=
  match flag with
  | "--recipe-root" => .ok { d with recipe := { d.recipe with recipeRoot := some ⟨value⟩ } }
  | "--profile" => .ok { d with recipe := { d.recipe with profile := some ⟨value⟩ } }
  | "-s" | "--setting" => do
    let kv ← (parseKeyValue value).mapError (invalidValue value "--setting <KEY=VALUE>")
    pure { d with recipe := { d.recipe with settings := d.recipe.settings ++ [kv] } }
  | "-o" | "--option" => do
    let kv ← (parseKeyValue value).mapError (invalidValue value "--option <KEY=VALUE>")
    pure { d with recipe := { d.recipe with options := d.recipe.options ++ [kv] } }
  | "--skip-test" => do
    let v ← readBool "--skip-test <BOOL>" value
    pure { d with recipe := { d.recipe with skipTest := some v } }
  | "--deps" => .ok { d with generate := { d.generate with deps := some ⟨value⟩ } }
  | "--build-folder" => .ok { d with generate := { d.generate with buildFolder := some ⟨value⟩ } }
  | "--license-format" => do
    let f ← (License.Format.parse value).mapError (invalidValue value "--license-format <FORMAT>")
    pure { d with generate := { d.generate with licenseFormat := some f } }
  | "-j" | "--jobs" => do
    let k ← readCount "--jobs <JOBS>" value
    pure { d with jobs := some k }
  | _ => .error ("unexpected argument '" ++ flag ++ "' found")

/-- the flags that take a value -/
def valueFlags : List String :=
  ["--recipe-root", "--profile", "-s", "--setting", "-o", "--option", "--skip-test", "--deps",
   "--build-folder", "--license-format", "-j", "--jobs"]

/-- reads the arguments one by one into a draft -/
def readArgs : List String → Draft → Except String Draft
  | [], d => .ok d
  | a :: rest, d =>
    if a == "-v" || a == "--verbose" then readArgs rest { d with verbose := true }
    else if a == "--no-color" then readArgs rest { d with noColor := true }
    else if a == "--json" then readArgs rest { d with json := true }
    else if valueFlags.contains a then
      match rest with
      | v :: more => do readArgs more (← withValue d a v)
      | [] => .error ("a value is required for '" ++ a ++ "' but none was supplied")
    else if a.startsWith "-" then .error ("unexpected argument '" ++ a ++ "' found")
    else match d.command with
      | none => readArgs rest { d with command := some a }
      | some _ => .error ("unexpected argument '" ++ a ++ "' found")

/-- the request a draft describes, checking that its command exists and takes its flags -/
def Draft.request (d : Draft) : Except String Request := do
  let command ← match d.command with
    | some "options" => pure Command.options
    | some "graph" => pure (Command.graph d.json)
    | some "validate" => pure Command.validate
    | some "generate" => pure (Command.generate d.generate)
    | some "build" => pure (Command.build d.generate d.jobs)
    | some other => throw ("unrecognized subcommand '" ++ other ++ "'")
    | none => throw "a command is required: options, graph, validate, generate or build"
  let generating := match command with
    | .generate _ | .build _ _ => true
    | _ => false
  if d.json && !(match command with | .graph _ => true | _ => false) then
    throw "unexpected argument '--json' found"
  if !generating && (d.generate.deps.isSome || d.generate.buildFolder.isSome ||
      d.generate.licenseFormat.isSome) then
    throw "the generation flags belong to generate and build"
  if d.jobs.isSome && !(match command with | .build _ _ => true | _ => false) then
    throw "unexpected argument '--jobs' found"
  pure { verbose := d.verbose, noColor := d.noColor, recipe := d.recipe, command }

/-- reads a command line, without the program's name -/
def parse (args : List String) : Except String Request := do
  (← readArgs (splitAssignments args) {}).request

end BuildRecipe.Cli

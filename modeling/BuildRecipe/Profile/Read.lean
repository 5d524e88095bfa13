/-
Reading a profile from its TOML document. Every section and entry may be absent; an entry that
is present must have its type (texts for settings, switches for options and for `skip_test`),
and entries the profile does not know are passed over. A section may also be written as an
array of its entries' values in their order.
-/
import BuildRecipe.Profile
import BuildRecipe.Toml.Document
import BuildRecipe.Workspace

namespace BuildRecipe

open Toml

/-- the compiler texts of a `[settings.compiler]` table -/
def CompilerSpec.ofToml? (v : Value) : Option CompilerSpec := do
  let es ← v.recordEntries? ["family", "version", "cppstd"]
  pure {
    family := ← optional es "family" Value.asString?
    version := ← optional es "version" Value.asString?
    cppstd := ← optional es "cppstd" Value.asString? }

/-- the setting texts of a `[settings]` table -/
def SettingsSpec.ofToml? (v : Value) : Option SettingsSpec := do
  let es ← v.recordEntries? ["os", "arch", "build_type", "compiler"]
  pure {
    os := ← optional es "os" Value.asString?
    arch := ← optional es "arch" Value.asString?
    buildType := ← optional es "build_type" Value.asString?
    compiler := ← withDefault es "compiler" {} CompilerSpec.ofToml? }

/-- a table of switches -/
def switches? (v : Value) : Option (SortedMap Bool) := do
  let es ← v.asTable?
  let pairs ← es.mapM fun (k, b) => (k, ·) <$> b.asBool?
  pure (SortedMap.ofList pairs)

/-- the test switch of a `[conf]` table -/
def skipTestOfConf? (v : Value) : Option (Option Bool) := do
  let es ← v.recordEntries? ["skip_test"]
  optional es "skip_test" Value.asBool?

namespace Profile

/-- the profile a document's root table describes -/
def ofToml? (root : List (String × Value)) : Option Profile := do
  pure {
    settings := ← withDefault root "settings" {} SettingsSpec.ofToml?
    options := ← withDefault root "options" {} switches?
    skipTest := ← withDefault root "conf" none skipTestOfConf? }

/-- the profile in a TOML text -/
def parse? (text : String) : Option Profile := (Toml.parse text).bind ofToml?

/-- reads the profile in the file at `p` -/
def load (p : Path) : Job Profile := do
  let text ← Job.context ("failed to read profile: " ++ p.display) (Job.readFile p)
  match parse? text with
  | some profile => pure profile
  | none => Job.fail ((Failure.of .toml).withContext ("failed to parse profile: " ++ p.display))

end Profile

end BuildRecipe

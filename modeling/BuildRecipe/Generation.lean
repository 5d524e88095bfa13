/-
Generating what the native build reads before it configures: the toolchain and dependency
files, the collected licenses and their report, and the seed of the FMI shim, whose
`fmi_functions.cpp` is copied into the build folder when the shim is a host dependency that
exports a source folder holding it. The build folder is the one asked for, else the configured
one, else `build/<build type>` under the recipe root.
-/
import BuildRecipe.Evaluation
import BuildRecipe.License.Report
import BuildRecipe.Toolchain

namespace BuildRecipe

/-- the source file the FMI shim ships -/
def shimSourceName : String := "fmi_functions.cpp"

/-- what generation is given besides the evaluation -/
structure GenerateOptions where
  deps : List Dependency := []
  buildFolder : Option Path := none
  licenseFormat : Option License.Format := none
deriving Repr, Inhabited

/-- what generation produced -/
structure Generated where
  layout : Layout
  toolchain : Toolchain
  licenses : License.Manifest
  shimSeed : Option Path
deriving Repr, Inhabited

/-- the layout: the build folder asked for, else the configured one, else the default -/
def buildLayout (e : Evaluation) (folder : Option Path) : Layout :=
  let layout := Layout.new e.recipe.root e.settings.buildType
  match folder <|> e.config.buildFolder with
  | some f => layout.withBuildFolder f
  | none => layout

/-- copies the shim's source into `<build>/cppfmu/`, when the shim is a host dependency whose
first source folder holds it -/
def seedShim (layout : Layout) (deps : List Dependency) : Job (Option Path) := do
  let shimName := Requirement.fmiShim.name.val
  match (deps.filter (·.isHost)).find? (·.name.val == shimName) with
  | none => pure none
  | some shim =>
    match shim.srcDirs.head? with
    | none => pure none
    | some dir =>
      let source := if dir.isAbsolute then dir.join shimSourceName
        else (shim.packageFolder.join dir).join shimSourceName
      if !(← Job.isFile source) then return none
      let target := (layout.buildFolder.join shimName).join shimSourceName
      Job.copyTo source target
      pure (some target)

/-- writes the toolchain, the licenses and the shim seed -/
def generate (e : Evaluation) (opts : GenerateOptions) : Job Generated := do
  let identity := e.recipe.identity
  let layout := buildLayout e opts.buildFolder
  let toolchain := Toolchain.new identity.name e.options e.settings e.withTests
  toolchain.write layout opts.deps
  let licenses ← License.aggregate identity layout opts.deps
  let format := (opts.licenseFormat <|> e.config.licenseFormat).getD .table
  License.writeReport licenses layout format e.options.withDoc
  let shimSeed ← seedShim layout opts.deps
  pure { layout, toolchain, licenses, shimSeed }

end BuildRecipe

/-
The dependencies a package manager installed, read from a JSON array of records. Each record
names the package (a valid package name), its role (a name, or an object whose one member is
that name with the value null), its license (one identifier or a list) and its install folder,
and may give its version (or null), the source folders it exports and the
CMake modules to include when it is activated, relative ones taken from its install folder. A
record may also be an array of its fields' values in that order, the last ones optional. A
record that gives a field twice, or a field of the wrong type, makes the whole set unreadable;
fields the record does not know are passed over.
-/
import BuildRecipe.JsonData
import BuildRecipe.License.Basic
import BuildRecipe.Package.Name
import BuildRecipe.Requirement.Graph
import BuildRecipe.Workspace

namespace BuildRecipe

/-- an installed dependency -/
structure Dependency where
  name : Package.Name
  version : Option String := none
  role : Requirement.Role
  license : License
  packageFolder : Path
  srcDirs : List Path := []
  buildModules : List Path := []
deriving Repr, Inhabited

namespace Dependency

/-- whether the dependency is linked into the package -/
def isHost (d : Dependency) : Bool := d.role == .host

/-- the build modules with relative ones taken from the install folder -/
def buildModulePaths (d : Dependency) : List Path :=
  d.buildModules.map fun m => if m.isAbsolute then m else d.packageFolder.join m

open JsonData

/-- the fields a dependency record knows -/
def fieldNames : List String :=
  ["name", "version", "role", "license", "package_folder", "src_dirs", "build_modules"]

/-- a license: one identifier, or a list of them -/
def licenseOf? : Value → Option License
  | .string s => some (.single s)
  | .array vs => License.multiple <$> vs.mapM Value.asString?
  | _ => none

/-- a list of paths -/
def pathsOf? (v : Value) : Option (List Path) := do
  let vs ← v.asArray?
  vs.mapM fun x => Path.ofString <$> x.asString?

/-- the fields of a record: an object gives its own, refused when it gives a known field twice;
an array stands for the fields in their order and may not hold more items than there are fields -/
def entriesOf? : Value → Option (List (String × Value))
  | .object ms =>
    let known := (ms.map (·.1)).filter (· ∈ fieldNames)
    if known.eraseDups.length != known.length then none else some ms
  | .array vs => if vs.length > fieldNames.length then none else some (fieldNames.zip vs)
  | _ => none

/-- a dependency record -/
def ofJson? (v : Value) : Option Dependency := do
  let ms ← entriesOf? v
  let field := fun k => ms.lookup k
  let name ← (field "name").bind fun x => x.asString?.bind fun s => (Package.Name.parse s).toOption
  let version ← match field "version" with
    | none | some .null => some none
    | some (.string s) => some (some s)
    | some _ => none
  let role ← (field "role").bind fun x => x.variantName?.bind Requirement.Role.ofName?
  let license ← (field "license").bind licenseOf?
  let packageFolder ← (field "package_folder").bind fun x => Path.ofString <$> x.asString?
  let srcDirs ← match field "src_dirs" with
    | none => some []
    | some x => pathsOf? x
  let buildModules ← match field "build_modules" with
    | none => some []
    | some x => pathsOf? x
  pure { name, version, role, license, packageFolder, srcDirs, buildModules }

end Dependency

/-- the dependency set in a JSON text -/
def parseDeps? (text : String) : Option (List Dependency) := do
  let vs ← (JsonData.parseAs? (.listOf (.record Dependency.fieldNames)) text).bind
    JsonData.Value.asArray?
  vs.mapM Dependency.ofJson?

/-- reads the dependency set in the file at `p` -/
def loadDeps (p : Path) : Job (List Dependency) := do
  let text ← Job.context ("failed to read dependency set: " ++ p.display) (Job.readFile p)
  match parseDeps? text with
  | some deps => pure deps
  | none => Job.fail ((Failure.of .json).withContext ("failed to parse dependency set: " ++ p.display))

end BuildRecipe

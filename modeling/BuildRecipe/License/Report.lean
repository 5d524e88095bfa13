/-
Collecting licenses into the build folder. Every host dependency gives one row, the first
license seen for a name winning, and when its `licenses` folder exists, has the files that the
glob `<package folder>/licenses/**/*` matches copied to `licenses/<name>/` in the build folder,
at their paths relative to that folder; the package folder is read as part of the pattern, so its
wildcards select other folders too, whose files land where their relative paths lead. Build tools
and test frameworks are not redistributed and give nothing. The recipe's own `LICENSE` is copied to
`licenses/LICENSE`. The report goes to `licenses/licenses.txt`, and, when documentation is
built, also to `gen_md/licenses.md` under a heading.
-/
import BuildRecipe.Dependency
import BuildRecipe.FileTree.Glob
import BuildRecipe.FileTree.Walk
import BuildRecipe.Layout
import BuildRecipe.License.Manifest
import BuildRecipe.Package.Recipe

namespace BuildRecipe.License

/-- the name of the report file in the licenses folder -/
def reportFileName : String := "licenses.txt"

/-- the files that a glob pattern relative to `base` matches, ordered by their components; the
text of `base` is part of the pattern, wildcards included -/
def globFiles (base : Path) (pattern : String) : Job (List Path) := do
  let t ← Job.files
  match Glob.search t (base.join pattern).text with
  | .error e => Job.fail ((Failure.msg e.message).withContext ("invalid glob pattern: " ++ pattern))
  | .ok found => pure ((found.filter t.isFile).mergeSort fun a b => Path.compare a b != .gt)

/-- copies the files that `source/**/*` matches to their paths relative to `source` below
`target` -/
def copyTree (source target : Path) : Job Unit := do
  let files ← globFiles source "**/*"
  files.forM fun file => Job.copyTo file (target.join (file.relativeTo source))

/-- the license rows of a package and its host dependencies, with their license files copied
into the layout's licenses folder -/
def aggregate (identity : Package.Identity) (layout : Layout) (deps : List Dependency) :
    Job Manifest := do
  let folder := layout.licensesFolder
  let m ← (deps.filter (·.isHost)).foldlM (fun m d => do
    let (m', added) := m.add d.name.val d.license
    if !added then return m'
    let source := d.packageFolder.join "licenses"
    if ← Job.isDir source then copyTree source (folder.join d.name.val)
    return m') (Manifest.new identity.name.val identity.license)
  let own := layout.recipeRoot.join "LICENSE"
  if ← Job.isFile own then Job.copyTo own (folder.join "LICENSE")
  pure m

/-- the report under its documentation heading -/
def markdownReport (text : String) : String := "# Licenses \x7b#sec_licenses\x7d\n" ++ text

/-- writes the report, and its documentation page when documentation is built -/
def writeReport (m : Manifest) (layout : Layout) (format : Format) (withDoc : Bool) : Job Unit := do
  let text := m.render format
  Job.writeText (layout.licensesFolder.join reportFileName) text
  if withDoc then Job.writeText (layout.genMdFolder.join "licenses.md") (markdownReport text)

end BuildRecipe.License

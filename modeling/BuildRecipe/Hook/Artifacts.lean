/-
Collecting built FMUs. The build tree is walked from its root, at most to a depth limit, and
every file whose extension is `fmu` (in any case) is copied flat into the destination, unless it
is already inside the destination. A walk that meets more entries than its budget allows fails
the hook; an entry that cannot be read is skipped but counted.
-/
import BuildRecipe.FileTree.Walk
import BuildRecipe.Hook.Context
import BuildRecipe.Text.Case

namespace BuildRecipe.Hook

/-- the id of the FMU collecting hook -/
def fmuArtifactsId : String := "fmu-artifacts"

/-- the default depth limit of the walk -/
def defaultMaxDepth : Nat := 32

/-- the default budget of entries -/
def defaultMaxEntries : Nat := 100000

/-- whether a path names an FMU: its extension is `fmu` in any case -/
def isFmu (p : Path) : Bool :=
  match p.extension? with
  | some ext => Text.eqIgnoreAsciiCase ext "fmu"
  | none => false

/-- the state of a collection: entries visited, files copied, and the failure that ended it -/
structure Collection where
  visited : Nat := 0
  copied : List Path := []
  failure : Option Failure := none
deriving Repr, Inhabited

/-- handles one entry of the walk; a failure ends the walk, keeping what was copied before -/
def collectStep (buildFolder destination destRoot : Path) (maxEntries : Nat)
    (v : Visit) (st : Collection × Workspace) : ForInStep (Collection × Workspace) :=
  let (c, w) := st
  let c := { c with visited := c.visited + 1 }
  if c.visited > maxEntries then
    .done ({ c with failure := some (.recipe (.hookSideEffectFailure fmuArtifactsId
      ("build tree " ++ buildFolder.display ++ " has more than " ++ toString maxEntries ++
        " entries"))) }, w)
  else
    match v.entry with
    | some (.file _) =>
      if !isFmu v.path then .yield (c, w)
      else if ((w.files.canonical? v.path).getD v.path).startsWith destRoot then .yield (c, w)
      else
        let name := (v.path.fileName?).getD v.path.display
        let target := destination.join name
        match (Job.context ("failed to copy " ++ v.path.display ++ " to " ++ target.display)
            (Job.copyFile v.path target)).run w with
        | (.ok (), w') => .yield ({ c with copied := c.copied ++ [target] }, w')
        | (.error f, w') => .done ({ c with failure := some f }, w')
    | _ => .yield (c, w)

/-- copies the FMUs below `buildFolder` flat into `destination` and gives the copies in walk
order -/
def collect (maxDepth maxEntries : Nat) (buildFolder destination : Path) : Job (List Path) := do
  let w ← get
  let destRoot := (w.files.canonical? destination).getD destination
  let (c, w') := FileTree.walk (·.2.files) maxDepth
    (collectStep buildFolder destination destRoot maxEntries) buildFolder (maxEntries + 1)
    (({} : Collection), w)
  set w'
  match c.failure with
  | some f => Job.fail f
  | none => pure c.copied

end BuildRecipe.Hook

/-
The workspace an operation runs in: its files, its environment variables, and the journal of
what ran in it (calls of the build tool, the test settings they saw, lines written by hooks).
A job reads and changes the workspace and may fail; what it changed before failing stays
changed, as with a real file system.
-/
import BuildRecipe.FileTree

namespace BuildRecipe

/-- something that ran in a workspace and left a record -/
inductive Event where
  /-- a call of the build tool, by name -/
  | call (name : String)
  /-- the test settings the build tool saw when it ran the tests -/
  | testEnv (ctestOutputOnFailure gtestOutput : Option String)
  /-- a line written by a scripted hook -/
  | note (line : String)
deriving DecidableEq, Repr, Inhabited

/-- files, environment variables and the journal -/
structure Workspace where
  files : FileTree := {}
  env : SortedMap String := {}
  journal : List Event := []
deriving Repr, Inhabited

/-- a workspace holding only the directory `dir` and the directories above it -/
def Workspace.withDirectory (dir : Path) : Workspace :=
  { files := (({} : FileTree).createDirAll dir).toOption.getD {} }

/-- a job on a workspace: it may change the workspace and may fail -/
abbrev Job := ExceptT Failure (StateM Workspace)

namespace Job

/-- runs a job on a workspace, giving its outcome and the workspace it leaves -/
def run {α : Type} (j : Job α) (w : Workspace) : Outcome α × Workspace :=
  ExceptT.run j |>.run w

/-- fails with `f` -/
def fail {α : Type} (f : Failure) : Job α := throw f

/-- the job's failure, if any, under one more context line -/
def context {α : Type} (line : String) (j : Job α) : Job α :=
  tryCatch j fun f => throw (f.withContext line)

/-- the outcome of a job as a value: it never fails itself -/
def attempt {α : Type} (j : Job α) : Job (Outcome α) :=
  tryCatch (.ok <$> j) fun f => pure (.error f)

/-- lifts an outcome into a job -/
def ofOutcome {α : Type} : Outcome α → Job α
  | .ok a => pure a
  | .error f => throw f

/-- lifts the outcome of a file operation into a job, its failure with no context -/
def ofOs {α : Type} : Except OsError α → Job α
  | .ok a => pure a
  | .error e => throw (Failure.of (.os e))

/-- the files of the workspace -/
def files : Job FileTree := do return (← get).files

/-- replaces the files of the workspace -/
def setFiles (t : FileTree) : Job Unit := modify fun w => { w with files := t }

/-- the text of a file -/
def readFile (p : Path) : Job String := do ofOs ((← files).read p)

/-- writes a file -/
def writeFile (p : Path) (content : String) : Job Unit := do
  setFiles (← ofOs ((← files).write p content))

/-- makes a directory and every missing one above it -/
def createDirAll (p : Path) : Job Unit := do
  setFiles (← ofOs ((← files).createDirAll p))

/-- copies a file -/
def copyFile (src dst : Path) : Job Unit := do
  setFiles (← ofOs ((← files).copy src dst))

/-- whether a path leads to an entry -/
def pathExists (p : Path) : Job Bool := do return (← files).exists? p

/-- whether a path leads to a file -/
def isFile (p : Path) : Job Bool := do return (← files).isFile p

/-- whether a path leads to a directory -/
def isDir (p : Path) : Job Bool := do return (← files).isDir p

/-- makes a directory and those above it unless the path leads to an entry already -/
def ensureDir (p : Path) : Job Unit := do
  unless ← pathExists p do
    context ("failed to create directory: " ++ p.display) (createDirAll p)

/-- writes a file, making its directory first -/
def writeText (p : Path) (content : String) : Job Unit := do
  if let some parent := p.parent? then ensureDir parent
  context ("failed to write file: " ++ p.display) (writeFile p content)

/-- copies a file, making the target's directory first -/
def copyTo (src dst : Path) : Job Unit := do
  if let some parent := dst.parent? then ensureDir parent
  context ("failed to copy " ++ src.display ++ " to " ++ dst.display) (copyFile src dst)

/-- the value of an environment variable -/
def getEnv (key : String) : Job (Option String) := do return (← get).env.get? key

/-- sets an environment variable, or removes it when the value is none -/
def setEnv (key : String) (value : Option String) : Job Unit :=
  modify fun w => { w with env := match value with
    | some v => w.env.insert key v
    | none => w.env.erase key }

/-- adds an event to the journal -/
def record (e : Event) : Job Unit := modify fun w => { w with journal := w.journal ++ [e] }

end Job

end BuildRecipe

/-
The program: reads its command line, loads the files the command reads into a workspace, runs
the command there, writes back to disk what the command created or changed, and prints its
report. The exit status is 0 on success, 1 when the command fails and 2 when the command line
cannot be read.
-/
import BuildRecipe.Cli.Commands

namespace BuildRecipe.Disk

/-- adds the file, or the whole directory, at an absolute path on disk to a file tree; what
cannot be read is left out -/
partial def loadPath (t : FileTree) (p : Path) : IO FileTree := do
  try
    let real ← IO.FS.realPath p.display
    if ← real.isDir then
      let mut t := (t.createDirAll p).toOption.getD t
      for entry in ← real.readDir do
        t ← loadPath t (p.join entry.fileName)
      pure t
    else
      pure (t.withFile p (← IO.FS.readFile real))
  catch _ =>
    pure t

/-- writes the entries a run created or changed -/
def writeBack (changes : List (Path × Entry)) : IO Unit := do
  for (p, e) in changes do
    match e with
    | .directory => IO.FS.createDirAll p.display
    | .file content => IO.FS.writeFile p.display content

end BuildRecipe.Disk

open BuildRecipe

def main (args : List String) : IO UInt32 := do
  match Cli.parse args with
  | .error message =>
    IO.eprint ("error: " ++ message ++ "\n")
    pure 2
  | .ok request =>
    let cwd : Path := ⟨(← IO.currentDir).toString⟩
    let home : Path := match ← IO.getEnv "HOME" with
      | some h => (Path.ofString h).join configDirName
      | none => Path.ofString configDirName
    let inv : Invocation := { cwd, home }
    let mut files : FileTree := {}
    for p in Cli.inputPaths request inv do
      files ← Disk.loadPath files p
    for p in Cli.dependencyFolders request inv files do
      files ← Disk.loadPath files p
    let (outcome, after) := (Cli.run request inv).run { files }
    let report : Cli.Report := match outcome with
      | .ok report => report
      | .error f => { err := Cli.failureText f !request.noColor, success := false }
    try
      Disk.writeBack (files.changes after.files)
    catch e =>
      IO.eprint ("error: " ++ toString e ++ "\n")
      return 1
    IO.print report.out
    IO.eprint report.err
    pure (if report.success then 0 else 1)

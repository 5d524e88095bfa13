/-
A file tree: directories and text files under one root, addressed by paths. The tree follows
the rules of a POSIX file interface on the text of a path: it is walked part by part from the
root (a relative path from the root too), empty parts are skipped, every part before the last
must be a directory that exists, `.` stays and `..` climbs to the parent directory. A path that
ends in a separator or in `.` or `..` names a directory. Each operation refuses with the
system's error when its entry is missing, is of the wrong kind, or already exists.
-/
import BuildRecipe.Data.SortedMap
import BuildRecipe.Failure
import BuildRecipe.Path

namespace BuildRecipe

/-- an entry of a file tree -/
inductive Entry where
  | file (content : String)
  | directory
deriving DecidableEq, Repr, Inhabited

/-- a file tree: its entries by location, the root directory apart -/
structure FileTree where
  entries : SortedMap Entry := {}
deriving Repr, Inhabited

/-- the key of a location given by its names from the root -/
def locationKey (names : List String) : String := "/" ++ "/".intercalate names

namespace FileTree

/-- the entry at a location; the root is a directory -/
def at? (t : FileTree) (names : List String) : Option Entry :=
  if names.isEmpty then some .directory else t.entries.get? (locationKey names)

/-- the non-empty parts of a path's text, `.` and `..` among them, as the system walks them -/
def walkParts (p : Path) : List String := (Text.splitAll p.text '/').filter (!·.isEmpty)

/-- whether a path's text ends in a separator, which makes its last part name a directory -/
def endsInSeparator (p : Path) : Bool := p.text.endsWith "/"

/-- enters parts from a directory, each of which must be a directory that exists (`.` stays,
`..` climbs, the root being its own parent); gives the directory reached -/
def enter (t : FileTree) : List String → List String → Except OsError (List String)
  | here, [] => .ok here
  | here, part :: rest =>
    if part == "." then enter t here rest
    else if part == ".." then enter t here.dropLast rest
    else
      let next := here ++ [part]
      match t.at? next with
      | some .directory => enter t next rest
      | some (.file _) => .error .notADirectory
      | none => .error .notFound

/-- where the last part of a path is looked up: the directory the other parts lead to (from the
root, for a relative path too) and that last part, none for the root itself; the empty path
leads nowhere -/
def lastStep (t : FileTree) (p : Path) : Except OsError (List String × Option String) := do
  if p.text.isEmpty then throw .notFound
  let parts := walkParts p
  let dir ← t.enter [] parts.dropLast
  pure (dir, parts.getLast?)

/-- the location of the entry a path names: a last part `.` or `..` names a directory reached,
and a path that ends in a separator must name a directory -/
def locate (t : FileTree) (p : Path) : Except OsError (List String) := do
  match ← t.lastStep p with
  | (dir, none) => pure dir
  | (dir, some last) =>
    if last == "." then pure dir
    else if last == ".." then pure dir.dropLast
    else
      let loc := dir ++ [last]
      match t.at? loc with
      | none => throw .notFound
      | some (.file _) => if endsInSeparator p then throw .notADirectory else pure loc
      | some .directory => pure loc

/-- the entry a path leads to -/
def stat (t : FileTree) (p : Path) : Except OsError Entry := do
  let names ← t.locate p
  match t.at? names with
  | some e => .ok e
  | none => .error .notFound

/-- the absolute path without `.` and `..` of the entry a path leads to -/
def canonical? (t : FileTree) (p : Path) : Option Path := do
  let names ← (t.locate p).toOption
  let _ ← t.at? names
  pure ⟨locationKey names⟩

/-- whether a path leads to an entry -/
def exists? (t : FileTree) (p : Path) : Bool := (t.stat p).toBool

/-- whether a path leads to a file -/
def isFile (t : FileTree) (p : Path) : Bool :=
  match t.stat p with
  | .ok (.file _) => true
  | _ => false

/-- whether a path leads to a directory -/
def isDir (t : FileTree) (p : Path) : Bool :=
  match t.stat p with
  | .ok .directory => true
  | _ => false

/-- the text of the file a path leads to -/
def read (t : FileTree) (p : Path) : Except OsError String := do
  match ← t.stat p with
  | .file c => .ok c
  | .directory => .error .isADirectory

/-- the tree with the entry `e` put at a location whose parent is a directory -/
def put (t : FileTree) (names : List String) (e : Entry) : FileTree :=
  { entries := t.entries.insert (locationKey names) e }

/-- writes a file, making it or replacing the file that is there: a path that names a directory,
ends in a separator or ends in `.` or `..` cannot be written -/
def write (t : FileTree) (p : Path) (content : String) : Except OsError FileTree := do
  match ← t.lastStep p with
  | (_, none) => throw .isADirectory
  | (dir, some last) =>
    if last == "." || last == ".." || endsInSeparator p then throw .isADirectory
    let loc := dir ++ [last]
    match t.at? loc with
    | some .directory => throw .isADirectory
    | _ => pure (t.put loc (.file content))

/-- makes one directory, whose parent must exist; a last part `.` or `..`, or an entry already
there, is refused as existing -/
def mkdir (t : FileTree) (p : Path) : Except OsError FileTree := do
  match ← t.lastStep p with
  | (_, none) => throw .alreadyExists
  | (dir, some last) =>
    if last == "." || last == ".." then throw .alreadyExists
    let loc := dir ++ [last]
    match t.at? loc with
    | some _ => throw .alreadyExists
    | none => pure (t.put loc .directory)

/-- makes a directory given by its components and every missing directory above it: a
directory that is there already is fine, and a missing parent is made first -/
def mkdirAll (t : FileTree) (cs : List Component) : Except OsError FileTree :=
  if _hc : cs.isEmpty then .ok t
  else
    let p := Path.ofComponents cs
    match t.mkdir p with
    | .ok t' => .ok t'
    | .error e =>
      if e != .notFound then
        if t.isDir p then .ok t else .error e
      else
        match cs.getLast? with
        | some .root | none => .error e
        | some _ => do
          let t' ← t.mkdirAll cs.dropLast
          match t'.mkdir p with
          | .ok t'' => .ok t''
          | .error e' => if t'.isDir p then .ok t' else .error e'
termination_by cs.length
decreasing_by
  simp_wf
  have : cs ≠ [] := by simpa using _hc
  have := List.length_pos_iff.mpr this
  omega

/-- makes a directory and every missing directory above it: the directory is made as its text
names it, and when its parent is missing, the directories of the components before its last are
made first; the empty path needs nothing -/
def createDirAll (t : FileTree) (p : Path) : Except OsError FileTree :=
  if p.text.isEmpty then .ok t
  else
    match t.mkdir p with
    | .ok t' => .ok t'
    | .error e =>
      if e != .notFound then
        if t.isDir p then .ok t else .error e
      else
        let cs := p.components
        match cs.getLast? with
        | some .root | none => .error e
        | some _ => do
          let t' ← t.mkdirAll cs.dropLast
          match t'.mkdir p with
          | .ok t'' => .ok t''
          | .error e' => if t'.isDir p then .ok t' else .error e'

/-- copies a file to a path, replacing the file that is there -/
def copy (t : FileTree) (src dst : Path) : Except OsError FileTree := do
  match ← t.stat src with
  | .directory => .error .notAFile
  | .file c => t.write dst c

/-- the entries directly inside a directory, by name in ascending order -/
def children (t : FileTree) (names : List String) : List (String × Entry) :=
  let pre := if names.isEmpty then "/" else locationKey names ++ "/"
  t.entries.entries.filterMap fun (k, e) =>
    match Text.stripPrefix? k pre with
    | some rest => if rest.contains '/' then none else some (rest, e)
    | none => none

/-- every entry below a directory, with its path relative to it, in ascending key order -/
def below (t : FileTree) (names : List String) : List (String × Entry) :=
  let pre := if names.isEmpty then "/" else locationKey names ++ "/"
  t.entries.entries.filterMap fun (k, e) => (Text.stripPrefix? k pre).map fun rest => (rest, e)

/-- the entries of `after` that `before` lacks or holds differently, each directory before what
it holds -/
def changes (before after : FileTree) : List (Path × Entry) :=
  after.entries.entries.filterMap fun (k, e) =>
    if before.entries.get? k == some e then none else some (⟨k⟩, e)

/-- the tree with a file and the directories above it added; a path that cannot hold a file
leaves the tree as it is -/
def withFile (t : FileTree) (p : Path) (content : String) : FileTree :=
  let t := match p.parent? with
    | some parent => (t.createDirAll parent).toOption.getD t
    | none => t
  (t.write p content).toOption.getD t

end FileTree

end BuildRecipe

/-
Hooks and the registry that runs them around a build. A hook is registered for one package
name and fires only when the package built has exactly that name. Before the build each
matching hook computes, and creates, its destination, which the context keeps; after the build
each hook with a destination acts on it. A failing post-build hook does not stop the others;
the first failure is the answer once all have run. A failure that names no recipe error is
charged to the hook that raised it.
-/
import BuildRecipe.Hook.Artifacts

namespace BuildRecipe.Hook

/-- the id of the hook that creates the directory for test reports -/
def testResultsId : String := "test-results"

/-- the package the built-in hooks are registered for -/
def defaultTarget : Package.Name := ⟨"dds-fmu", by decide⟩

end BuildRecipe.Hook

namespace BuildRecipe

/-- a build lifecycle hook -/
inductive Hook where
  /-- copies built FMUs into `fmus/`, walking at most `maxDepth` deep and `maxEntries` entries -/
  | fmuArtifacts (maxDepth maxEntries : Nat)
  /-- creates `testoutput/` for the reports of the test phase -/
  | testResults
  /-- writes what it is asked to the journal: `pre:<id>` before the build, returning
  `<recipe root>/<dest>` when a `dest` is given, and `post:<id>:<destination>` after it; each
  half may be told to fail -/
  | scripted (id : String) (dest : Option String) (failPre failPost : Bool)
deriving DecidableEq, Repr, Inhabited

namespace Hook

/-- the hook's identifier, also the key of its destination -/
def id : Hook → String
  | .fmuArtifacts _ _ => fmuArtifactsId
  | .testResults => testResultsId
  | .scripted i _ _ _ => i

/-- the destination the hook computes and creates before the build -/
def preBuild (h : Hook) (c : Context) : Job (Option Path) :=
  match h with
  | .fmuArtifacts _ _ => do
    let destination ← c.ciDirectory "fmus"
    prepareDestination fmuArtifactsId destination
    pure (some destination)
  | .testResults => do
    let destination ← c.ciDirectory "testoutput"
    prepareDestination testResultsId destination
    pure (some destination)
  | .scripted i dest failPre _ => do
    Job.record (.note ("pre:" ++ i))
    if failPre then Job.fail (.msg ("pre-build of " ++ i ++ " failed"))
    pure (dest.map c.recipeRoot.join)

/-- what the hook does with its destination once the build tree is complete -/
def postBuild (h : Hook) (c : Context) (destination : Path) : Job Unit :=
  match h with
  | .fmuArtifacts maxDepth maxEntries => do
    let _ ← collect maxDepth maxEntries c.buildFolder destination
  | .testResults => pure ()
  | .scripted i _ _ failPost => do
    Job.record (.note ("post:" ++ i ++ ":" ++ destination.display))
    if failPost then Job.fail (.msg "disk full")

/-- hooks with the package each applies to, in registration order -/
structure Registry where
  entries : List (Package.Name × Hook) := []
deriving Repr, Inhabited

namespace Registry

/-- the FMU and test-results hooks, registered for `dds-fmu` -/
def defaults : Registry :=
  { entries := [(defaultTarget, .fmuArtifacts defaultMaxDepth defaultMaxEntries),
                (defaultTarget, .testResults)] }

/-- adds a hook for a package; a second hook with the same id for the same package is refused -/
def register (r : Registry) (package : Package.Name) (h : Hook) : Except RecipeError Registry :=
  if r.entries.any (fun (n, e) => n == package && e.id == h.id) then
    .error (.duplicateHook h.id package.val)
  else .ok { entries := r.entries ++ [(package, h)] }

/-- adds a hook for a package given by name, checking the name first -/
def registerFor (r : Registry) (package : String) (h : Hook) : Except RecipeError Registry := do
  r.register (← Package.Name.parse package) h

/-- the hooks of a package, in registration order -/
def hooksFor (r : Registry) (package : Package.Name) : List Hook :=
  (r.entries.filter (·.1 == package)).map (·.2)

/-- the number of registrations -/
def len (r : Registry) : Nat := r.entries.length

/-- runs the pre-build halves of the package's hooks in order and records each destination;
the first failure stops them, and the context keeps what was recorded before it -/
def dispatchPreBuild (r : Registry) (c : Context) : Job (Context × Outcome Unit) :=
  go (r.hooksFor c.identity.name) c
where
  go : List Hook → Context → Job (Context × Outcome Unit)
    | [], c => pure (c, .ok ())
    | h :: rest, c => do
      match ← Job.attempt (h.preBuild c) with
      | .error f => pure (c, .error (asHookFailure h.id f))
      | .ok none => go rest c
      | .ok (some destination) =>
        match c.setDestination h.id destination with
        | .ok c' => go rest c'
        | .error e => pure (c, .error (.recipe e))

/-- runs the post-build halves of the package's hooks that have a destination, all of them,
and fails with the first failure -/
def dispatchPostBuild (r : Registry) (c : Context) : Job Unit := do
  match ← go c (r.hooksFor c.identity.name) none with
  | some f => Job.fail f
  | none => pure ()
where
  go (c : Context) : List Hook → Option Failure → Job (Option Failure)
    | [], first => pure first
    | h :: rest, first =>
      match c.destination? h.id with
      | none => go c rest first
      | some destination => do
        match ← Job.attempt (Job.context ("post-build hook `" ++ h.id ++ "`")
            (h.postBuild c destination)) with
        | .ok () => go c rest first
        | .error f => go c rest (first <|> some (asHookFailure h.id f))

end Registry

end Hook

end BuildRecipe

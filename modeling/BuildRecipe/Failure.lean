/-
Failures: a root cause under a stack of context lines, outermost first. The message of a
failure is its context lines and its cause joined by `: `. The text of a rejected TOML or JSON
document is no part of the message: the message stops before it.
-/
import BuildRecipe.Error

namespace BuildRecipe

/-- an error of the operating system's file interface -/
inductive OsError where
  /-- no entry at the path (errno 2) -/
  | notFound
  /-- a component of the path that should be a directory is a file (errno 20) -/
  | notADirectory
  /-- an entry already exists where a directory was to be made (errno 17) -/
  | alreadyExists
  /-- a directory is where a file was expected (errno 21) -/
  | isADirectory
  /-- the source of a copy is no regular file -/
  | notAFile
deriving DecidableEq, Repr, Inhabited

/-- the system's text for an error, with its number -/
def OsError.text : OsError → String
  | .notFound => "No such file or directory (os error 2)"
  | .notADirectory => "Not a directory (os error 20)"
  | .alreadyExists => "File exists (os error 17)"
  | .isADirectory => "Is a directory (os error 21)"
  | .notAFile => "the source path is neither a regular file nor a symlink to a regular file"

/-- what went wrong at the bottom of a failure -/
inductive Cause where
  /-- a fatal condition of the recipe -/
  | recipe (e : RecipeError)
  /-- a rejected C++ standard spelling -/
  | standard (spelling : String)
  /-- a TOML document that could not be read into the expected shape -/
  | toml
  /-- a JSON document that could not be read into the expected shape -/
  | json
  /-- an error of the file interface -/
  | os (e : OsError)
  /-- any other failure, with its text -/
  | message (text : String)
deriving Repr, Inhabited

/-- the text of a cause; a rejected document has none -/
def Cause.text? : Cause → Option String
  | .recipe e => some e.display
  | .standard s => some (Compiler.Standard.parseErrorText s)
  | .toml => none
  | .json => none
  | .os e => some e.text
  | .message t => some t

/-- a failure: its root cause and the context lines above it, outermost first -/
structure Failure where
  context : List String := []
  cause : Cause
deriving Repr, Inhabited

namespace Failure

/-- a failure with no context -/
def of (cause : Cause) : Failure := { cause }

/-- a failure raised by a recipe error -/
def recipe (e : RecipeError) : Failure := of (.recipe e)

/-- a failure with a plain message -/
def msg (text : String) : Failure := of (.message text)

/-- the failure under one more context line -/
def withContext (f : Failure) (line : String) : Failure :=
  { f with context := line :: f.context }

/-- the message: context lines and the cause's text joined by `: ` -/
def message (f : Failure) : String :=
  ": ".intercalate (f.context ++ f.cause.text?.toList)

/-- the recipe error at the bottom of the failure, if there is one -/
def recipeError? (f : Failure) : Option RecipeError :=
  match f.cause with
  | .recipe e => some e
  | _ => none

end Failure

/-- a computation that may fail -/
abbrev Outcome := Except Failure

/-- the outcome with one more context line on its failure -/
def Outcome.context {α : Type} (line : String) : Outcome α → Outcome α
  | .ok a => .ok a
  | .error f => .error (f.withContext line)

end BuildRecipe

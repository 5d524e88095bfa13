/-
Package references: `name/version`, optionally qualified as `name/version@user/channel`. Reading
splits at the first `@`, the qualifier at its first `/` and the pinned part at its first `/`.
-/
import BuildRecipe.Package.Name
import BuildRecipe.Text.Basic

namespace BuildRecipe.Package

/-- a reference to a package version, optionally in a user's channel -/
structure Reference where
  name : Name
  version : String
  userChannel : Option (String × String) := none
deriving DecidableEq, Repr, Inhabited

namespace Reference

/-- the written form `name/version[@user/channel]` -/
def display (r : Reference) : String :=
  r.name.val ++ "/" ++ r.version ++
    match r.userChannel with
    | some (u, c) => "@" ++ u ++ "/" ++ c
    | none => ""

/-- the version part and the qualifier of a written reference -/
def splitQualifier (s : String) : Except String (String × Option (String × String)) :=
  match Text.splitOnce s '@' with
  | none => .ok (s, none)
  | some (pinned, qualifier) =>
    match Text.splitOnce qualifier '/' with
    | none => .error "expected `@user/channel`"
    | some (u, c) =>
      if u.isEmpty || c.isEmpty then .error "user and channel must not be empty"
      else .ok (pinned, some (u, c))

/-- reads a written reference; a malformed one is reported under the whole text, a bad name
under the name alone -/
def parse (s : String) : Except RecipeError Reference :=
  let bad := fun message => RecipeError.invalidPackageName s message
  match splitQualifier s with
  | .error m => .error (bad m)
  | .ok (pinned, userChannel) =>
    match Text.splitOnce pinned '/' with
    | none => .error (bad "expected `name/version`")
    | some (name, version) =>
      if version.isEmpty then .error (bad "version must not be empty")
      else do
        let n ← Name.parse name
        pure { name := n, version, userChannel }

end Reference

end BuildRecipe.Package

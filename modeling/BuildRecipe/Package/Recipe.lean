/-
Recipes on disk. A recipe root holds `Recipe.toml`, whose `[package]` table gives the package's
name, author, licence, homepage and, optionally, its description, topics and kind (a name, or a
table with that one key and no content), and `version.txt`, which holds the version
(surrounding blanks dropped; an empty file is refused).
The identity of the package joins the two.
-/
import BuildRecipe.Package.Kind
import BuildRecipe.Package.Reference
import BuildRecipe.Toml.Document
import BuildRecipe.Url
import BuildRecipe.Workspace
import BuildRecipe.Text.Blank

namespace BuildRecipe.Package

open Toml

/-- the name of a recipe's manifest -/
def manifestName : String := "Recipe.toml"

/-- the name of the file that holds a recipe's version -/
def versionFileName : String := "version.txt"

/-- what a package is: its manifest data and its version -/
structure Identity where
  name : Name
  version : String
  author : String
  description : Option String
  license : String
  homepage : Url
  topics : List String
  kind : Kind
deriving Repr, Inhabited

/-- the `name/version` reference of a package -/
def Identity.reference (i : Identity) : Reference := { name := i.name, version := i.version }

/-- the manifest data of a package, all but the version -/
structure Metadata where
  name : Name
  author : String
  description : Option String
  license : String
  homepage : Url
  topics : List String
  kind : Kind
deriving Repr, Inhabited

/-- the metadata a `[package]` table gives: the name must be a valid package name and the
homepage a URL -/
def Metadata.ofToml? (v : Value) : Option Metadata := do
  let es ← v.recordEntries?
    ["name", "author", "description", "license", "homepage", "topics", "package_type"]
  let name ← required es "name" fun v => v.asString?.bind fun s => (Name.parse s).toOption
  let author ← required es "author" Value.asString?
  let description ← optional es "description" Value.asString?
  let license ← required es "license" Value.asString?
  let homepage ← required es "homepage" fun v => v.asString?.bind Url.parse?
  let topics ← withDefault es "topics" [] stringList?
  let kind ← withDefault es "package_type" .sharedLibrary fun v => v.variantName?.bind Kind.ofName?
  pure { name, author, description, license, homepage, topics, kind }

/-- the identity of a package from its metadata and version -/
def Metadata.withVersion (m : Metadata) (version : String) : Identity :=
  { m with version }

/-- a recipe: the identity of its package and where it lives -/
structure Recipe where
  identity : Identity
  root : Path
deriving Repr, Inhabited

/-- the version in a recipe root's version file, without surrounding blanks -/
def readVersion (root : Path) : Job String := do
  let path := root.join versionFileName
  match ← Job.attempt (Job.readFile path) with
  | .error f => Job.fail (.recipe (.missingVersionSource path.display f.message))
  | .ok raw =>
    let version := Text.trim raw
    if version.isEmpty then Job.fail (.recipe (.missingVersionSource path.display "file is empty"))
    else pure version

/-- loads the recipe at a root: its manifest, then its version -/
def Recipe.load (root : Path) : Job Recipe := do
  let path := root.join manifestName
  let text ← Job.context ("failed to read manifest: " ++ path.display) (Job.readFile path)
  let data ← match (Toml.parse text).bind fun t => required t "package" Metadata.ofToml? with
    | some m => pure m
    | none => Job.fail ((Failure.of .toml).withContext ("failed to parse manifest: " ++ path.display))
  let version ← readVersion root
  pure { identity := data.withVersion version, root }

/-- the reference of a recipe's package -/
def Recipe.reference (r : Recipe) : Reference := r.identity.reference

end BuildRecipe.Package

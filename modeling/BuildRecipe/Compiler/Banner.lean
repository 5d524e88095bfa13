/-
Recognising a compiler from the banner that `--version` prints. Only the first line that is not
blank counts. Its family is found by name (ASCII case-insensitively); its version is a dotted
token of it: the first one from `version ` on when the line says `version `, else the last one.
-/
import BuildRecipe.Compiler.Family
import BuildRecipe.Compiler.Version
import BuildRecipe.Text.Basic
import BuildRecipe.Text.Blank
import BuildRecipe.Text.Case

namespace BuildRecipe.Compiler

/-- whether a character may stay at the edge of a version token -/
def isVersionChar (c : Char) : Bool := c.isDigit || c == '.'

/-- the token with other characters than digits and dots removed from both ends -/
def trimToken (cs : List Char) : List Char :=
  ((cs.dropWhile (!isVersionChar ·)).reverse.dropWhile (!isVersionChar ·)).reverse

/-- the versions among the words of a text: each word is trimmed to digits and dots at its ends,
and kept when it has a dot and reads as a version -/
def dottedVersions (cs : List Char) : List Version :=
  (Text.wordsOf cs).filterMap fun w =>
    let t := trimToken w
    if t.contains '.' then (Version.parse (String.ofList t)).toOption else none

/-- the family that a lower-cased banner line names -/
def familyOfLine (lower : String) : Option Family :=
  if Text.hasInfix lower "apple clang" then some .appleClang
  else if Text.hasInfix lower "clang" then some .clang
  else if Text.hasInfix lower "microsoft" then some .msvc
  else if Text.hasInfix lower "gcc" || Text.hasInfix lower "g++" ||
      Text.hasInfix lower "free software" then some .gcc
  else none

/-- the family and version a compiler banner announces -/
def parseBanner (banner : String) : Option (Family × Version) := do
  let first ← (Text.lines banner).find? fun l => !Text.isBlankText l
  let lower := Text.lowerAscii first
  let family ← familyOfLine lower
  let version ← match Text.findInfix? "version ".toList lower.toList with
    | some i => (dottedVersions (first.toList.drop i)).head?
    | none => (dottedVersions first.toList).getLast?
  pure (family, version)

end BuildRecipe.Compiler

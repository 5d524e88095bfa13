/-
Package names: non-empty, at most 101 bytes, starting with a lowercase ASCII letter, a digit or
`_`, and otherwise made of those and `-`, `+`, `.`. The checks run in that order and the first
that fails names the problem. A name carries the proof that its text passes them, so a name read
from a text and a name fixed in the program are valid alike.
-/
import BuildRecipe.Error

namespace BuildRecipe.Package

/-- whether a name may start with `c` -/
def isNameStart (c : Char) : Bool := ('a' ≤ c && c ≤ 'z') || c.isDigit || c == '_'

/-- whether a name may hold `c` -/
def isNameChar (c : Char) : Bool := isNameStart c || c == '-' || c == '+' || c == '.'

/-- the longest name, in bytes -/
def maxNameBytes : Nat := 101

/-- what is wrong with a text as a package name, checked in order: empty, too long, first
character, any character -/
def Name.problem? (s : String) : Option String :=
  match s.toList with
  | [] => some "name is empty"
  | c :: _ =>
    if s.utf8ByteSize > maxNameBytes then some "name is longer than 101 characters"
    else if !isNameStart c then some "name must start with a lowercase letter, digit or '_'"
    else match s.toList.find? (!isNameChar ·) with
      | some bad => some ("character '" ++ bad.toString ++ "' is not allowed")
      | none => none

/-- a package name: a text that passes every check -/
structure Name where
  val : String
  valid : Name.problem? val = none
deriving DecidableEq, Repr

namespace Name

instance : Inhabited Name := ⟨⟨"_", by decide⟩⟩

/-- reads a package name -/
def parse (s : String) : Except RecipeError Name :=
  match h : problem? s with
  | some message => .error (.invalidPackageName s message)
  | none => .ok ⟨s, h⟩

/-- the name's ASCII letters and digits, upper-cased: the prefix of its CMake variables -/
def variablePrefix (n : Name) : String :=
  String.ofList ((n.val.toList.filter Char.isAlphanum).map Char.toUpper)

end Name

end BuildRecipe.Package

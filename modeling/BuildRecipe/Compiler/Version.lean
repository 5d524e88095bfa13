/-
Compiler versions: dotted unsigned numbers such as `11`, `19.3` or `14.0.6`. The text is kept as
written (less surrounding blanks) for display; order and equality look only at the first three
components, a missing one counting as zero.
-/
import BuildRecipe.Error
import BuildRecipe.Text.Basic
import BuildRecipe.Text.Blank
import BuildRecipe.Text.Number

namespace BuildRecipe.Compiler

/-- a compiler version: its text and the first three components -/
structure Version where
  raw : String
  major : Nat
  minor : Nat
  patch : Nat
deriving DecidableEq, Repr, Inhabited

namespace Version

/-- the components that order versions -/
def key (v : Version) : Nat × Nat × Nat := (v.major, v.minor, v.patch)

/-- versions are ordered by their first three components, lexicographically -/
def cmp (a b : Version) : Ordering :=
  (compare a.major b.major).then ((compare a.minor b.minor).then (compare a.patch b.patch))

instance : Ord Version := ⟨cmp⟩

/-- whether `a` comes before `b` -/
def lt (a b : Version) : Bool := cmp a b == .lt

/-- versions are equal when their first three components are, whatever their texts: `7`, `7.0`
and `7.0.0` are one version -/
def beq (a b : Version) : Bool := a.key == b.key

instance : BEq Version := ⟨beq⟩

/-- the error for a text that is no version -/
def invalid (s : String) : RecipeError :=
  .invalidSetting "compiler.version" ("`" ++ s ++ "` is not a dotted numeric version")

/-- the components of a dotted text, when every one is an unsigned 64-bit number -/
def components? (raw : String) : Option (List Nat) :=
  (Text.splitAll raw '.').mapM Text.readU64?

/-- reads a version: surrounding blanks are dropped, then every dot-separated component must be
an unsigned 64-bit number -/
def parse (s : String) : Except RecipeError Version :=
  let raw := Text.trim s
  match components? raw with
  | some ns => .ok { raw, major := ns.getD 0 0, minor := ns.getD 1 0, patch := ns.getD 2 0 }
  | none => .error (invalid s)

/-- the version `major.minor`, written `major` alone when `minor` is zero -/
def ofParts (major minor : Nat) : Version :=
  { raw := if minor = 0 then toString major else toString major ++ "." ++ toString minor,
    major, minor, patch := 0 }

end Version

end BuildRecipe.Compiler

/-
Compiler families. Reading compares ASCII case-insensitively and accepts the usual driver names
(`cl`, `g++`, `clang++`); any other text is kept verbatim as an unrecognised family.
-/
import BuildRecipe.Text.Case

namespace BuildRecipe.Compiler

/-- a compiler family -/
inductive Family where
  | msvc
  | gcc
  | clang
  | appleClang
  | unrecognized (name : String)
deriving DecidableEq, Repr, Inhabited

namespace Family

/-- the recognised spellings, lower-case, with the family each names -/
def spellings : List (String × Family) :=
  [("msvc", .msvc), ("cl", .msvc), ("gcc", .gcc), ("g++", .gcc), ("clang", .clang),
    ("clang++", .clang), ("apple-clang", .appleClang)]

/-- reads a compiler family; unknown spellings are kept as they are -/
def parse (s : String) : Family := Text.readSpelling spellings .unrecognized s

/-- the display name -/
def name : Family → String
  | .msvc => "msvc"
  | .gcc => "gcc"
  | .clang => "clang"
  | .appleClang => "apple-clang"
  | .unrecognized s => s

end Family

end BuildRecipe.Compiler

/-
C++ language standards, ordered from C++98 to C++23. A standard is written as its bare number,
optionally after one `c++` or `gnu` prefix; a GNU dialect counts as its ISO standard.
-/
import BuildRecipe.Text.Basic

namespace BuildRecipe.Compiler

/-- a C++ language standard -/
inductive Standard where
  | cpp98
  | cpp11
  | cpp14
  | cpp17
  | cpp20
  | cpp23
deriving DecidableEq, Repr, Inhabited

namespace Standard

/-- all standards, oldest first -/
def all : List Standard := [.cpp98, .cpp11, .cpp14, .cpp17, .cpp20, .cpp23]

/-- the position of a standard in time, oldest first -/
def rank : Standard → Nat
  | .cpp98 => 0
  | .cpp11 => 1
  | .cpp14 => 2
  | .cpp17 => 3
  | .cpp20 => 4
  | .cpp23 => 5

instance : LT Standard := ⟨fun a b => a.rank < b.rank⟩
instance : LE Standard := ⟨fun a b => a.rank ≤ b.rank⟩
instance (a b : Standard) : Decidable (a < b) := inferInstanceAs (Decidable (a.rank < b.rank))
instance (a b : Standard) : Decidable (a ≤ b) := inferInstanceAs (Decidable (a.rank ≤ b.rank))
instance : Ord Standard := ⟨fun a b => compare a.rank b.rank⟩

/-- the bare number, as CMake's `CMAKE_CXX_STANDARD` expects it -/
def number : Standard → String
  | .cpp98 => "98"
  | .cpp11 => "11"
  | .cpp14 => "14"
  | .cpp17 => "17"
  | .cpp20 => "20"
  | .cpp23 => "23"

/-- the display name, such as `C++17` -/
def name (s : Standard) : String := "C++" ++ s.number

/-- the standard whose bare number is `n` -/
def ofNumber? (n : String) : Option Standard := all.find? (·.number == n)

/-- the text of a rejected spelling -/
def parseErrorText (s : String) : String :=
  "invalid C++ standard '" ++ s ++ "', valid values: 98, 11, 14, 17, 20, 23 (optionally gnu-prefixed)"

/-- reads a standard: one `c++` prefix, else one `gnu` prefix, is dropped before the number;
a rejected text is returned as it was given -/
def parse (s : String) : Except String Standard :=
  let bare := (Text.stripPrefix? s "c++").getD ((Text.stripPrefix? s "gnu").getD s)
  match ofNumber? bare with
  | some std => .ok std
  | none => .error s

/-- the spellings a data file may use: the bare number, `c++N` or `gnuN`, exactly -/
def ofSpelling? (s : String) : Option Standard :=
  all.find? fun std => s == std.number || s == "c++" ++ std.number || s == "gnu" ++ std.number

theorem parse_number (s : Standard) : parse s.number = .ok s := by
  cases s <;> rfl

end Standard

end BuildRecipe.Compiler

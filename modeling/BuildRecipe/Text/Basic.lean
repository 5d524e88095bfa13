/-
Plain text helpers used across the library: splitting at the first separator, finding a
character sequence inside another, replacing one character by a text, and padding measured in
characters (Unicode scalar values), never in bytes.
-/

namespace BuildRecipe.Text

/-- the text before and after the first `sep`, or nothing when `sep` does not occur -/
def splitOnce (s : String) (sep : Char) : Option (String × String) :=
  match s.toList.span (· ≠ sep) with
  | (_, []) => none
  | (before, _ :: after) => some (String.ofList before, String.ofList after)

/-- the parts of `s` between occurrences of `sep`; always at least one part -/
def splitAll (s : String) (sep : Char) : List String :=
  (s.toList.splitOn sep).map String.ofList

/-- the position of the first occurrence of `pat` in `cs`, counted in characters -/
def findInfix? (pat : List Char) : List Char → Option Nat
  | [] => if pat.isEmpty then some 0 else none
  | c :: cs =>
    if pat.isPrefixOf (c :: cs) then some 0 else (findInfix? pat cs).map (· + 1)

/-- whether `pat` occurs somewhere in `s` -/
def hasInfix (s pat : String) : Bool := (findInfix? pat.toList s.toList).isSome

/-- `s` followed by spaces up to `width` characters; a longer text is kept whole -/
def padRight (s : String) (width : Nat) : String :=
  s ++ String.ofList (List.replicate (width - s.length) ' ')

/-- every `c` in `s` replaced by the text `piece` -/
def replaceChar (s : String) (c : Char) (piece : String) : String :=
  String.join (s.toList.map fun d => if d = c then piece else d.toString)

/-- the text with its prefix `pre` removed, when it starts with it -/
def stripPrefix? (s pre : String) : Option String :=
  if pre.toList.isPrefixOf s.toList then some (String.ofList (s.toList.drop pre.length))
  else none

theorem padRight_length (s : String) (width : Nat) :
    (padRight s width).length = max width s.length := by
  simp [padRight, String.length_append]
  omega

end BuildRecipe.Text

/-
Reading unsigned decimal numbers the way a 64-bit unsigned reader does: an optional `+`, then
one or more ASCII digits, and a value below 2^64. A `-`, an empty text, a lone `+`, an
underscore or any other character makes the text no number.
-/

namespace BuildRecipe.Text

/-- the value of a list of ASCII digits, most significant first -/
def digitsValue (ds : List Char) : Nat :=
  ds.foldl (fun acc d => acc * 10 + (d.toNat - '0'.toNat)) 0

/-- the natural number that the digits `cs` denote, when all are ASCII digits and there is one -/
def readDigits? (cs : List Char) : Option Nat :=
  if !cs.isEmpty && cs.all Char.isDigit then some (digitsValue cs) else none

/-- an unsigned number below `bound`, written with an optional leading `+` -/
def readUnsigned? (bound : Nat) (s : String) : Option Nat :=
  let cs := match s.toList with
    | '+' :: rest => rest
    | cs => cs
  match readDigits? cs with
  | some n => if n < bound then some n else none
  | none => none

/-- an unsigned 64-bit number, written with an optional leading `+` -/
def readU64? (s : String) : Option Nat := readUnsigned? (Nat.pow 2 64) s

end BuildRecipe.Text

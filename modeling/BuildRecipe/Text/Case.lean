/-
Case folding that touches the ASCII letters only: `A`-`Z` and `a`-`z` change, every other
character (accented letters, full-width forms, dotted capitals) stays as it is. Names of platforms
and compilers are read with it, through a table of their spellings.
-/

namespace BuildRecipe.Text

/-- the text with its ASCII capitals lower-cased -/
def lowerAscii (s : String) : String := String.ofList (s.toList.map Char.toLower)

/-- the text with its ASCII small letters upper-cased -/
def upperAscii (s : String) : String := String.ofList (s.toList.map Char.toUpper)

/-- whether two texts agree once ASCII capitals are lower-cased -/
def eqIgnoreAsciiCase (a b : String) : Bool := lowerAscii a == lowerAscii b

/-- reads a text by a table of lower-case spellings, compared with the text's ASCII capitals
lower-cased, the first spelling that matches winning; a text the table does not know becomes
`other` of the text, kept as it is -/
def readSpelling {α : Type} (spellings : List (String × α)) (other : String → α) (s : String) : α :=
  (spellings.lookup (lowerAscii s)).getD (other s)

theorem lowerAscii_length (s : String) : (lowerAscii s).length = s.length := by
  simp [lowerAscii, String.length_ofList, String.length_toList]

end BuildRecipe.Text

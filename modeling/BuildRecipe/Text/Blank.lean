/-
Blank characters: the Unicode `White_Space` property (tab to carriage return, space, next line,
no-break space, ogham space, the spaces from en quad to hair space, line and paragraph
separators, narrow no-break space, medium mathematical space and ideographic space). Trimming,
splitting into words and splitting into lines are all stated with it.
-/

namespace BuildRecipe.Text

/-- whether `c` has the Unicode `White_Space` property -/
def isBlank (c : Char) : Bool :=
  let n := c.toNat
  (9 ≤ n && n ≤ 13) || n == 32 || n == 0x85 || n == 0xA0 || n == 0x1680 ||
    (0x2000 ≤ n && n ≤ 0x200A) || n == 0x2028 || n == 0x2029 || n == 0x202F ||
    n == 0x205F || n == 0x3000

/-- the characters with leading and trailing blanks removed -/
def trimChars (cs : List Char) : List Char :=
  ((cs.dropWhile isBlank).reverse.dropWhile isBlank).reverse

/-- the text with leading and trailing blanks removed -/
def trim (s : String) : String := String.ofList (trimChars s.toList)

/-- whether the text holds nothing but blanks -/
def isBlankText (s : String) : Bool := s.toList.all isBlank

/-- the maximal runs of non-blank characters, in order -/
def wordsOf (cs : List Char) : List (List Char) :=
  (cs.splitBy fun a b => isBlank a == isBlank b).filter fun w => !w.any isBlank

/-- the words of a text: maximal runs of non-blank characters -/
def words (s : String) : List String := (wordsOf s.toList).map String.ofList

/-- a line without its final carriage return, if it has one -/
def dropCarriageReturn (cs : List Char) : List Char :=
  if cs.getLast? = some '\r' then cs.dropLast else cs

/-- the lines of a text: split after each line feed; a line that a line feed ends loses it and a
carriage return just before it; an empty rest after the last line feed is no line -/
def lines (s : String) : List String :=
  let parts := s.toList.splitOn '\n'
  let ended := parts.dropLast.map dropCarriageReturn
  let last := parts.getLast?.getD []
  (if last.isEmpty then ended else ended ++ [last]).map String.ofList

end BuildRecipe.Text

/-
The rules a domain label must meet after mapping. The zero width joiner must follow a virama;
the zero width non-joiner must follow a virama too, or stand between a letter that joins to the
left (or both ways) and one that joins to the right (or both ways), with only transparent
characters in between. In a domain name that holds right-to-left characters (of class R, AL or
AN) every label must satisfy the bidirectional rule: a left-to-right label starts with an L
character and holds only L, EN, ES, CS, ET, ON, BN and NSM characters, ending (before any
trailing NSM) with L or EN; a right-to-left label starts with an R or AL character, holds only
R, AL, AN, EN, ES, CS, ET, ON, BN and NSM characters, never both EN and AN, and ends (before any
trailing NSM) with R, AL, EN or AN.
-/
import BuildRecipe.Unicode.Bidi
import BuildRecipe.Unicode.Joining
import BuildRecipe.Unicode.CombiningClass

namespace BuildRecipe.Domain

open Unicode

/-- the zero width non-joiner -/
def nonJoiner : Char := '\u200C'

/-- the zero width joiner -/
def joiner : Char := '\u200D'

/-- whether a character is a virama -/
def isVirama (c : Char) : Bool := combiningClass c.toNat == viramaClass

/-- the joining type of the first character that is not transparent, if any -/
def firstJoining (cs : List Char) : Option JoiningType :=
  ((cs.map joiningType).dropWhile (· == .transparent)).head?

/-- whether a non-joiner between `before` (nearest first) and `after` may stand there -/
def nonJoinerFits (before after : List Char) : Bool :=
  (match before.head? with
    | some b => isVirama b
    | none => false) ||
  ((match firstJoining before with
    | some .leftJoining | some .dualJoining => true
    | _ => false) &&
   (match firstJoining after with
    | some .rightJoining | some .dualJoining => true
    | _ => false))

/-- whether every joiner and non-joiner of a label stands where it may, checked from the label's
front with `before` holding what was passed (nearest first) -/
def joinersFit : List Char → List Char → Bool
  | _, [] => true
  | before, c :: rest =>
    (if c == nonJoiner then nonJoinerFits before rest
     else if c == joiner then
       match before.head? with
       | some b => isVirama b
       | none => false
     else true) && joinersFit (c :: before) rest

/-- whether a class marks a right-to-left domain name -/
def isRightToLeft : BidiClass → Bool
  | .rightToLeft | .arabicLetter | .arabicNumber => true
  | _ => false

/-- the classes a left-to-right label may hold -/
def leftToRightAllowed : BidiClass → Bool
  | .leftToRight | .europeanNumber | .europeanSeparator | .commonSeparator
  | .europeanTerminator | .otherNeutral | .boundaryNeutral | .nonspacingMark => true
  | _ => false

/-- the classes a right-to-left label may hold -/
def rightToLeftAllowed : BidiClass → Bool
  | .rightToLeft | .arabicLetter | .arabicNumber | .europeanNumber | .europeanSeparator
  | .commonSeparator | .europeanTerminator | .otherNeutral | .boundaryNeutral
  | .nonspacingMark => true
  | _ => false

/-- whether a label meets the bidirectional rule; an empty label does -/
def bidiFits (label : List Char) : Bool :=
  let classes := label.map bidiClass
  let last := (classes.reverse.dropWhile (· == .nonspacingMark)).head?
  match classes with
  | [] => true
  | .leftToRight :: rest =>
    rest.all leftToRightAllowed &&
      (match last with
        | some .leftToRight | some .europeanNumber => true
        | _ => false)
  | first :: rest =>
    (first == .rightToLeft || first == .arabicLetter) && rest.all rightToLeftAllowed &&
      (match last with
        | some .rightToLeft | some .arabicLetter | some .europeanNumber
        | some .arabicNumber => true
        | _ => false) &&
      !(classes.contains .europeanNumber && classes.contains .arabicNumber)

end BuildRecipe.Domain

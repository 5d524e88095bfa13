/-
Domain names in ASCII, as the host of a URL needs them: processing by the domain name mapping
table, nontransitional, with hyphens allowed anywhere and no limits on lengths. Every character
is mapped (a disallowed one refuses the name), the result is put in Normalization Form C and
split into labels at full stops. A label that starts with `xn--` must be ASCII and decode from
Punycode to a label with some character beyond ASCII. Every label must then be in Normalization
Form C, must not start with a mark (a decoded label may start with `xn--`), must hold only valid
characters (deviations count as valid), must place its joiners where they may stand and, when
the name holds right-to-left characters, must meet the bidirectional rule. A character that no host may hold
(an ASCII control, the space, delete or one of `%#/:<>?@[\]^|`) refuses the name too. Labels
beyond ASCII are written as `xn--` followed by their Punycode; the others stay as they are. Only
up to 2000 characters after `xn--` are decoded, and only labels of up to 1000 characters are
encoded or kept once decoded.
-/
import BuildRecipe.Domain.Mapping
import BuildRecipe.Domain.Punycode
import BuildRecipe.Domain.Label
import BuildRecipe.Unicode.Normalization
import BuildRecipe.Unicode.Category

namespace BuildRecipe.Domain

open Unicode

/-- why a domain name has no ASCII form -/
inductive Refusal where
  /-- a character the mapping table disallows -/
  | disallowed (c : Char)
  /-- a character no host may hold -/
  | forbidden (c : Char)
  /-- a label after `xn--` that is no Punycode of a label beyond ASCII -/
  | badPunycode (label : String)
  /-- a label not in Normalization Form C -/
  | notNormalized (label : String)
  /-- a label that starts with a mark -/
  | leadingMark (label : String)
  /-- a character that is neither valid nor a deviation -/
  | invalidCharacter (c : Char)
  /-- a joiner or non-joiner where it may not stand -/
  | misplacedJoiner (label : String)
  /-- a label that breaks the bidirectional rule -/
  | bidiRule (label : String)
  /-- a label too long to be put in Punycode -/
  | tooLong (label : String)
deriving DecidableEq, Repr

/-- whether no host may hold a character: the ASCII controls, the space, delete and
`%#/:<>?@[\]^|` -/
def isForbidden (c : Char) : Bool :=
  c.toNat ≤ 0x20 || c.toNat == 0x7F || "%#/:<>?@[\\]^|".toList.contains c

/-- the characters mapped by the table -/
def mapChars : List Char → Except Refusal (List Char)
  | [] => .ok []
  | c :: rest =>
    match mapCode c.toNat with
    | none => .error (.disallowed c)
    | some m => (m.map Char.ofNat ++ ·) <$> mapChars rest

/-- whether a character is valid or a deviation -/
def isValidChar (c : Char) : Bool :=
  match status c.toNat with
  | .valid | .deviation => true
  | _ => false

/-- the prefix of a label in Punycode -/
def acePrefix : List Char := ['x', 'n', '-', '-']

/-- the most characters after `xn--` that are decoded -/
def maxDecodedInput : Nat := 2000

/-- the most characters of a label beyond ASCII that are put in Punycode -/
def maxEncodedLabel : Nat := 1000

/-- the form of a label that the rules check: after `xn--` it is decoded from Punycode, and must
be ASCII of at most `maxDecodedInput` characters before and hold some character beyond ASCII
after, in at most `maxEncodedLabel` characters, so that it could be put back in Punycode -/
def unicodeLabel (label : List Char) : Except Refusal (List Char) :=
  if label.take 4 == acePrefix then
    let rest := label.drop 4
    if rest.any (·.toNat ≥ 128) || rest.length > maxDecodedInput then
      .error (.badPunycode (String.ofList label))
    else match Punycode.decode? rest with
      | none => .error (.badPunycode (String.ofList label))
      | some u =>
        if u.all (·.toNat < 128) then .error (.badPunycode (String.ofList label))
        else if u.length > maxEncodedLabel then .error (.tooLong (String.ofList label))
        else .ok u
  else .ok label

/-- checks a label in the form the rules read -/
def checkLabel (label : List Char) : Except Refusal Unit := do
  let text := String.ofList label
  if !isNfc label then throw (.notNormalized text)
  if (label.head?.map isMark).getD false then throw (.leadingMark text)
  match label.find? (!isValidChar ·) with
  | some c => throw (.invalidCharacter c)
  | none => pure ()
  if !joinersFit [] label then throw (.misplacedJoiner text)

/-- the ASCII form of a label: as it is when ASCII, else `xn--` and its Punycode, which only a
label of at most `maxEncodedLabel` characters has -/
def asciiLabel (label : List Char) : Except Refusal String :=
  if label.all (·.toNat < 128) then .ok (String.ofList label)
  else if label.length > maxEncodedLabel then .error (.tooLong (String.ofList label))
  else .ok ("xn--" ++ Punycode.encode label)

/-- the ASCII form of a domain name -/
def toAscii (domain : String) : Except Refusal String := do
  let normal := nfc (← mapChars domain.toList)
  match normal.find? isForbidden with
  | some c => throw (.forbidden c)
  | none => pure ()
  let labels := normal.splitOn '.'
  let forms ← labels.mapM unicodeLabel
  forms.forM checkLabel
  if forms.any (·.any fun c => isRightToLeft (bidiClass c)) then
    match forms.find? (!bidiFits ·) with
    | some l => throw (.bidiRule (String.ofList l))
    | none => pure ()
  pure (".".intercalate (← labels.mapM asciiLabel))

end BuildRecipe.Domain

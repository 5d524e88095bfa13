/-
Percent-encoding of URL parts. A character outside the set a part allows is written as its
UTF-8 bytes, each `%` and two upper-case hexadecimal digits. The sets nest: control characters
and everything beyond ASCII are always encoded; fragments add space, `"`, `<`, `>` and the
backtick; queries encode `#` instead of the backtick, and the queries of web schemes also `'`;
paths add `?`, the backtick and braces to the query set; user names and passwords add the
delimiters of the authority. Decoding turns each `%` with two hexadecimal digits back into its
byte.
-/

namespace BuildRecipe.Url

/-- the UTF-8 bytes of a character -/
def utf8Bytes (c : Char) : List Nat := (String.singleton c).toUTF8.toList.map (·.toNat)

/-- an upper-case hexadecimal digit -/
def hexDigitUpper (d : Nat) : Char := if d < 10 then Char.ofNat (48 + d) else Char.ofNat (55 + d)

/-- a byte written as `%XX` -/
def percentByte (b : Nat) : String :=
  String.ofList ['%', hexDigitUpper (b / 16 % 16), hexDigitUpper (b % 16)]

/-- control characters, DEL and everything beyond ASCII -/
def inControlSet (c : Char) : Bool := c.toNat < 0x20 || c.toNat > 0x7E

/-- the characters a fragment encodes -/
def inFragmentSet (c : Char) : Bool :=
  inControlSet c || c == ' ' || c == '"' || c == '<' || c == '>' || c == '`'

/-- the characters a query encodes -/
def inQuerySet (c : Char) : Bool :=
  inControlSet c || c == ' ' || c == '"' || c == '#' || c == '<' || c == '>'

/-- the characters the query of a web scheme encodes -/
def inSpecialQuerySet (c : Char) : Bool := inQuerySet c || c == '\''

/-- the characters a path segment encodes -/
def inPathSet (c : Char) : Bool :=
  inQuerySet c || c == '?' || c == '`' || c == '{' || c == '}'

/-- the characters a user name or password encodes -/
def inUserinfoSet (c : Char) : Bool :=
  inPathSet c || c == '/' || c == ':' || c == ';' || c == '=' || c == '@' || c == '[' ||
  c == '\\' || c == ']' || c == '^' || c == '|'

/-- a character, encoded when it is in `set` -/
def encodeChar (set : Char → Bool) (c : Char) : String :=
  if set c then String.join ((utf8Bytes c).map percentByte) else String.singleton c

/-- characters, each encoded when it is in `set` -/
def encode (set : Char → Bool) (cs : List Char) : String := String.join (cs.map (encodeChar set))

/-- the value of a hexadecimal digit -/
def hexValue? (c : Char) : Option Nat :=
  if c.isDigit then some (c.toNat - 48)
  else if 'a' ≤ c && c ≤ 'f' then some (c.toNat - 87)
  else if 'A' ≤ c && c ≤ 'F' then some (c.toNat - 55)
  else none

/-- the bytes of a percent-encoded text -/
def decodeBytes : List Nat → List Nat
  | 37 :: h :: l :: rest =>
    match hexValue? (Char.ofNat h), hexValue? (Char.ofNat l) with
    | some a, some b => (a * 16 + b) :: decodeBytes rest
    | _, _ => 37 :: decodeBytes (h :: l :: rest)
  | b :: rest => b :: decodeBytes rest
  | [] => []

/-- the text a percent-encoded text stands for, when its bytes are UTF-8 -/
def decode? (s : String) : Option String :=
  let bytes := decodeBytes (s.toUTF8.toList.map (·.toNat))
  String.fromUTF8? (ByteArray.mk (bytes.map UInt8.ofNat).toArray)

end BuildRecipe.Url

/-
JSON documents (RFC 8259), read strictly: one value with optional blanks (space, tab, line
feed, carriage return) around it and nothing else; numbers without leading zeros, `+` or a bare
dot; strings without raw control characters, with the escapes `\" \\ \/ \b \f \n \r \t \uXXXX`,
where a surrogate escape must be a high one followed by a low one; no trailing commas; at most
127 nested arrays and objects. Object members keep their order and their repeats, so that a
reader of records can refuse a field given twice. A reader of records takes the values of the
fields it knows and passes over the others, checking only their form: those may nest to any
depth, and their strings may hold any escape of four hexadecimal digits.
-/

namespace BuildRecipe.JsonData

/-- a JSON value; numbers keep their text -/
inductive Value where
  | null
  | bool (b : Bool)
  | number (text : String)
  | string (s : String)
  | array (items : List Value)
  | object (members : List (String × Value))
deriving Repr, Inhabited

/-- the deepest nesting of arrays and objects a document may have -/
def maxDepth : Nat := 127

/-- the input without leading blanks -/
def skipWs (cs : List Char) : List Char :=
  cs.dropWhile fun c => c == ' ' || c == '\t' || c == '\n' || c == '\r'

/-- the value of four hexadecimal digits -/
def hex4? (cs : List Char) : Option Nat :=
  if cs.length == 4 then
    cs.foldlM (fun acc c =>
      if c.isDigit then some (acc * 16 + (c.toNat - 48))
      else if 'a' ≤ c && c ≤ 'f' then some (acc * 16 + (c.toNat - 87))
      else if 'A' ≤ c && c ≤ 'F' then some (acc * 16 + (c.toNat - 55))
      else none) 0
  else none

/-- how much of a value a reader takes in -/
inductive Shape where
  /-- all of it, by the strict rules -/
  | whole
  /-- only its form, at any depth and with any four hexadecimal digits after `\u`; the value
  itself is passed over -/
  | passedOver
  /-- an array whose items have one shape -/
  | listOf (item : Shape)
  /-- a record: the values of its known fields are taken whole and the other members passed
  over; given as an array, its items are taken whole -/
  | record (fields : List String)
deriving Repr, Inhabited

namespace Shape

/-- whether a value of this shape is passed over -/
def isPassedOver : Shape → Bool
  | .passedOver => true
  | _ => false

/-- the shape of the items of an array of this shape -/
def item : Shape → Shape
  | .listOf s => s
  | .passedOver => .passedOver
  | _ => .whole

/-- the shape of the value under a key in an object of this shape -/
def member (s : Shape) (key : String) : Shape :=
  match s with
  | .record fields => if key ∈ fields then .whole else .passedOver
  | .passedOver => .passedOver
  | _ => .whole

end Shape

/-- the body of a string after its opening quote, through its closing quote; a lenient reading
takes any escape of four hexadecimal digits, a lone surrogate standing for the replacement
character -/
def stringBody (lenient : Bool) : Nat → List Char → Option (List Char × List Char)
  | 0, _ => none
  | _ + 1, [] => none
  | fuel + 1, c :: rest =>
    if c == '"' then some ([], rest)
    else if c == '\\' then
      match rest with
      | e :: more =>
        let simple : Option Char := match e with
          | '"' => some '"'
          | '\\' => some '\\'
          | '/' => some '/'
          | 'b' => some '\x08'
          | 'f' => some '\x0c'
          | 'n' => some '\n'
          | 'r' => some '\r'
          | 't' => some '\t'
          | _ => none
        match simple with
        | some ch => (stringBody lenient fuel more).map fun (s, r) => (ch :: s, r)
        | none =>
          if e != 'u' then none
          else do
            let v ← hex4? (more.take 4)
            let more := more.drop 4
            if 0xD800 ≤ v && v ≤ 0xDFFF && lenient then
              (stringBody lenient fuel more).map fun (s, r) => ('\uFFFD' :: s, r)
            else if 0xDC00 ≤ v && v ≤ 0xDFFF then none
            else if 0xD800 ≤ v && v ≤ 0xDBFF then
              match more with
              | '\\' :: 'u' :: low =>
                let w ← hex4? (low.take 4)
                if 0xDC00 ≤ w && w ≤ 0xDFFF then
                  let ch := Char.ofNat (0x10000 + (v - 0xD800) * 0x400 + (w - 0xDC00))
                  (stringBody lenient fuel (low.drop 4)).map fun (s, r) => (ch :: s, r)
                else none
              | _ => none
            else (stringBody lenient fuel more).map fun (s, r) => (Char.ofNat v :: s, r)
      | [] => none
    else if c.toNat < 0x20 then none
    else (stringBody lenient fuel rest).map fun (s, r) => (c :: s, r)

/-- the text of a number at the front of the input -/
def number? (cs : List Char) : Option (String × List Char) := do
  let (sign, cs1) := match cs with
    | '-' :: r => (['-'], r)
    | _ => ([], cs)
  let intPart ← match cs1 with
    | '0' :: _ => some ['0']
    | c :: _ => if c.isDigit then some (cs1.takeWhile Char.isDigit) else none
    | [] => none
  let cs2 := cs1.drop intPart.length
  let (frac, cs3) ← match cs2 with
    | '.' :: r =>
      let ds := r.takeWhile Char.isDigit
      if ds.isEmpty then none else some ('.' :: ds, r.drop ds.length)
    | _ => some ([], cs2)
  let (expo, cs4) ← match cs3 with
    | e :: r =>
      if e == 'e' || e == 'E' then
        let (s, r') := match r with
          | '+' :: r' => (['+'], r')
          | '-' :: r' => (['-'], r')
          | _ => ([], r)
        let ds := r'.takeWhile Char.isDigit
        if ds.isEmpty then none else some (e :: s ++ ds, r'.drop ds.length)
      else some ([], cs3)
    | [] => some ([], cs3)
  pure (String.ofList (sign ++ intPart ++ frac ++ expo), cs4)

mutual
/-- a value of a shape at the front of the input, nested at most `depth` more levels unless it
is passed over; a value passed over reads as null -/
def value : Nat → Nat → Shape → List Char → Option (Value × List Char)
  | 0, _, _, _ => none
  | fuel + 1, depth, shape, cs =>
    let canOpen := depth != 0 || shape.isPassedOver
    let inner := if shape.isPassedOver then depth else depth - 1
    let read : Option (Value × List Char) := match skipWs cs with
      | 'n' :: 'u' :: 'l' :: 'l' :: r => some (.null, r)
      | 't' :: 'r' :: 'u' :: 'e' :: r => some (.bool true, r)
      | 'f' :: 'a' :: 'l' :: 's' :: 'e' :: r => some (.bool false, r)
      | '"' :: r =>
        (stringBody shape.isPassedOver (r.length + 1) r).map fun (s, r') => (.string (String.ofList s), r')
      | '[' :: r =>
        if !canOpen then none
        else match skipWs r with
          | ']' :: r' => some (.array [], r')
          | _ => (items fuel inner shape.item r).map fun (vs, r') => (.array vs, r')
      | '{' :: r =>
        if !canOpen then none
        else match skipWs r with
          | '}' :: r' => some (.object [], r')
          | _ => (members fuel inner shape r).map fun (ms, r') => (.object ms, r')
      | cs' => (number? cs').map fun (t, r) => (.number t, r)
    if shape.isPassedOver then read.map fun (_, r) => (.null, r) else read

/-- the items of an array after its opening bracket, through its closing bracket -/
def items : Nat → Nat → Shape → List Char → Option (List Value × List Char)
  | 0, _, _, _ => none
  | fuel + 1, depth, shape, cs => do
    let (v, r) ← value fuel depth shape cs
    match skipWs r with
    | ',' :: r' => (items fuel depth shape r').map fun (vs, r'') => (v :: vs, r'')
    | ']' :: r' => some ([v], r')
    | _ => none

/-- the members of an object of a shape after its opening brace, through its closing brace;
members passed over are left out -/
def members : Nat → Nat → Shape → List Char → Option (List (String × Value) × List Char)
  | 0, _, _, _ => none
  | fuel + 1, depth, shape, cs => do
    let (k, r) ← match skipWs cs with
      | '"' :: r => stringBody shape.isPassedOver (r.length + 1) r
      | _ => none
    let key := String.ofList k
    let r ← match skipWs r with
      | ':' :: r' => some r'
      | _ => none
    let vshape := shape.member key
    let (v, r) ← value fuel depth vshape r
    let kept := if vshape.isPassedOver then [] else [(key, v)]
    match skipWs r with
    | ',' :: r' => (members fuel depth shape r').map fun (ms, r'') => (kept ++ ms, r'')
    | '}' :: r' => some (kept, r')
    | _ => none
end

/-- reads a whole document as a value of a shape -/
def parseAs? (shape : Shape) (text : String) : Option Value := do
  let cs := text.toList
  let (v, rest) ← value (2 * cs.length + 2) maxDepth shape cs
  if (skipWs rest).isEmpty then some v else none

/-- reads a whole document -/
def parse? (text : String) : Option Value := parseAs? .whole text

/-- a lower-case hexadecimal digit -/
def hexDigitLower (d : Nat) : Char := if d < 10 then Char.ofNat (48 + d) else Char.ofNat (87 + d)

/-- a character as it stands inside a written string: the quote, the backslash and control
characters escaped, the short escapes where there is one, else `\u00XX` -/
def escapeChar (c : Char) : String :=
  match c with
  | '"' => "\\\""
  | '\\' => "\\\\"
  | '\n' => "\\n"
  | '\r' => "\\r"
  | '\t' => "\\t"
  | '\x08' => "\\b"
  | '\x0c' => "\\f"
  | c =>
    if c.toNat < 0x20 then
      String.ofList ['\\', 'u', '0', '0', hexDigitLower (c.toNat / 16), hexDigitLower (c.toNat % 16)]
    else String.singleton c

/-- a text written as a JSON string, quotes included -/
def quote (s : String) : String := "\"" ++ String.join (s.toList.map escapeChar) ++ "\""

namespace Value

/-- the text of a string -/
def asString? : Value → Option String
  | .string s => some s
  | _ => none

/-- the items of an array -/
def asArray? : Value → Option (List Value)
  | .array vs => some vs
  | _ => none

/-- the members of an object -/
def asObject? : Value → Option (List (String × Value))
  | .object ms => some ms
  | _ => none

/-- the name of a choice without content: a string, or an object whose one member is `null` -/
def variantName? : Value → Option String
  | .string s => some s
  | .object [(k, .null)] => some k
  | _ => none

end Value

end BuildRecipe.JsonData

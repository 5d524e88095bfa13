/-
The lexical layer of TOML 1.0: blanks, comments and line ends; bare and quoted keys; basic and
literal strings, single- and multi-line, with their escapes; integers (decimal with sign and
underscores, hexadecimal, octal, binary, all within 64-bit signed range); floats, where a decimal
float without a minus sign that rounds to infinity as a double is refused; and RFC 3339 date-times
with calendar checks. Each reader consumes a prefix of the input or refuses it.
-/
import BuildRecipe.Text.Number
import BuildRecipe.Toml.Value

namespace BuildRecipe.Toml

/-- a reader of characters: it consumes a prefix of the input, or refuses -/
abbrev Scan := StateT (List Char) Option

/-- the next character, not consumed -/
def peek? : Scan (Option Char) := do return (← get).head?

/-- consumes the next character -/
def next : Scan Char := do
  match ← get with
  | c :: rest => set rest; pure c
  | [] => failure

/-- consumes the character `c`, or refuses -/
def expect (c : Char) : Scan Unit := do
  if (← next) = c then pure () else failure

/-- whether a character is a blank inside a line: space or tab -/
def isWs (c : Char) : Bool := c == ' ' || c == '\t'

/-- skips spaces and tabs -/
def skipWs : Scan Unit := modify (·.dropWhile isWs)

/-- consumes a line end (LF or CR LF) when one is next, and tells whether it did -/
def newline? : Scan Bool := do
  match ← get with
  | '\n' :: rest => set rest; pure true
  | '\r' :: '\n' :: rest => set rest; pure true
  | _ => pure false

/-- whether a character may stand in a comment: tab, or anything but a control character -/
def isCommentChar (c : Char) : Bool := c == '\t' || (c.toNat ≥ 0x20 && c.toNat != 0x7F)

/-- consumes a comment (`#` up to the line end) when one is next -/
def comment? : Scan Bool := do
  match ← get with
  | '#' :: rest => set (rest.dropWhile isCommentChar); pure true
  | _ => pure false

/-- dropping a prefix never lengthens a list -/
theorem length_dropWhile_le (p : Char → Bool) : ∀ l : List Char, (l.dropWhile p).length ≤ l.length
  | [] => by simp
  | c :: r => by
    simp only [List.dropWhile]
    split
    · have := length_dropWhile_le p r
      simp only [List.length_cons]
      omega
    · simp

/-- the input without leading blanks, comments and line ends -/
def dropBlank (cs : List Char) : List Char :=
  match cs with
  | ' ' :: r | '\t' :: r | '\n' :: r => dropBlank r
  | '\r' :: '\n' :: r => dropBlank r
  | '#' :: r => dropBlank (r.dropWhile isCommentChar)
  | cs => cs
termination_by cs.length
decreasing_by
  all_goals simp_wf
  all_goals first
    | omega
    | have := length_dropWhile_le isCommentChar r; omega

/-- whether a character may stand in a bare key -/
def isBareKeyChar (c : Char) : Bool := c.isAlphanum || c == '-' || c == '_'

/-- whether a character may stand unescaped in a basic string -/
def isBasicChar (c : Char) : Bool :=
  c == '\t' || (c.toNat ≥ 0x20 && c != '"' && c != '\\' && c.toNat != 0x7F)

/-- whether a character may stand in a literal string -/
def isLiteralChar (c : Char) : Bool := c == '\t' || (c.toNat ≥ 0x20 && c != '\'' && c.toNat != 0x7F)

/-- whether a character is a hexadecimal digit -/
def isHex (c : Char) : Bool := c.isDigit || ('a' ≤ c && c ≤ 'f') || ('A' ≤ c && c ≤ 'F')

/-- the value of a hexadecimal digit -/
def hexDigit (c : Char) : Nat :=
  if c.isDigit then c.toNat - '0'.toNat
  else if 'a' ≤ c && c ≤ 'f' then c.toNat - 'a'.toNat + 10
  else c.toNat - 'A'.toNat + 10

/-- the value of digits in base `base`, most significant first -/
def radixValue (base : Nat) (ds : List Char) : Nat := ds.foldl (fun acc d => acc * base + hexDigit d) 0

/-- the character of a `\u` or `\U` escape with `n` hexadecimal digits; surrogates refused -/
def unicodeEscape (n : Nat) : Scan Char := do
  let cs := (← get).take n
  if cs.length = n && cs.all isHex then
    let v := radixValue 16 cs
    if v < 0xD800 || (0xE000 ≤ v && v ≤ 0x10FFFF) then
      modify (·.drop n)
      pure (Char.ofNat v)
    else failure
  else failure

/-- the character an escape stands for, after its backslash -/
def escape : Scan Char := do
  match ← next with
  | 'b' => pure '\x08'
  | 't' => pure '\t'
  | 'n' => pure '\n'
  | 'f' => pure '\x0c'
  | 'r' => pure '\r'
  | '"' => pure '"'
  | '\\' => pure '\\'
  | 'u' => unicodeEscape 4
  | 'U' => unicodeEscape 8
  | _ => failure

/-- the body of a basic string after its opening quote, through its closing quote -/
def basicBody : Nat → Scan (List Char)
  | 0 => failure
  | fuel + 1 => do
    match ← next with
    | '"' => pure []
    | '\\' => do
      let c ← escape
      pure (c :: (← basicBody fuel))
    | c => if isBasicChar c then pure (c :: (← basicBody fuel)) else failure

/-- the input without blanks and line ends, after a line-ending backslash -/
def dropBlankLines : List Char → List Char
  | ' ' :: r | '\t' :: r | '\n' :: r => dropBlankLines r
  | '\r' :: '\n' :: r => dropBlankLines r
  | cs => cs

/-- the closing of a multi-line string: a run of three to five quotes `q`, of which all but
three belong to the text; consumes at most five -/
def closingQuotes (q : Char) (cs : List Char) : Nat := min (cs.takeWhile (· == q)).length 5

/-- the body of a multi-line basic string after its opening quotes, through its closing ones -/
def mlBasicBody : Nat → Scan (List Char)
  | 0 => failure
  | fuel + 1 => do
    let cs ← get
    match cs with
    | '"' :: '"' :: '"' :: _ =>
      let k := closingQuotes '"' cs
      set (cs.drop k)
      pure (List.replicate (k - 3) '"')
    | '\\' :: rest =>
      match rest.dropWhile isWs with
      | '\n' :: r => set (dropBlankLines r); mlBasicBody fuel
      | '\r' :: '\n' :: r => set (dropBlankLines r); mlBasicBody fuel
      | _ => do
        set rest
        let c ← escape
        pure (c :: (← mlBasicBody fuel))
    | '\n' :: rest => set rest; pure ('\n' :: (← mlBasicBody fuel))
    | '\r' :: '\n' :: rest => set rest; pure ('\n' :: (← mlBasicBody fuel))
    | c :: rest =>
      if isBasicChar c || c == '"' then do set rest; pure (c :: (← mlBasicBody fuel))
      else failure
    | [] => failure

/-- the body of a literal string after its opening quote, through its closing quote -/
def literalBody : Scan (List Char) := do
  let cs ← get
  let body := cs.takeWhile isLiteralChar
  set (cs.drop body.length)
  expect '\''
  pure body

/-- the body of a multi-line literal string after its opening quotes, through its closing ones -/
def mlLiteralBody : Nat → Scan (List Char)
  | 0 => failure
  | fuel + 1 => do
    let cs ← get
    match cs with
    | '\'' :: '\'' :: '\'' :: _ =>
      let k := closingQuotes '\'' cs
      set (cs.drop k)
      pure (List.replicate (k - 3) '\'')
    | '\n' :: rest => set rest; pure ('\n' :: (← mlLiteralBody fuel))
    | '\r' :: '\n' :: rest => set rest; pure ('\n' :: (← mlLiteralBody fuel))
    | c :: rest =>
      if isLiteralChar c || c == '\'' then do set rest; pure (c :: (← mlLiteralBody fuel))
      else failure
    | [] => failure

/-- one key: bare, or a basic or literal string on one line -/
def simpleKey (fuel : Nat) : Scan String := do
  match ← get with
  | '"' :: rest => set rest; pure (String.ofList (← basicBody fuel))
  | '\'' :: rest => set rest; pure (String.ofList (← literalBody))
  | cs =>
    let k := cs.takeWhile isBareKeyChar
    if k.isEmpty then failure
    else
      set (cs.drop k.length)
      pure (String.ofList k)

/-- a dotted key: simple keys joined by dots, with blanks around the dots -/
def dottedKey : Nat → Scan (List String)
  | 0 => failure
  | fuel + 1 => do
    let k ← simpleKey fuel
    let cs ← get
    match cs.dropWhile isWs with
    | '.' :: rest =>
      set (rest.dropWhile isWs)
      pure (k :: (← dottedKey fuel))
    | _ => pure [k]

/-- exactly `n` decimal digits and their value -/
def digitsN (n : Nat) (cs : List Char) : Option (Nat × List Char) :=
  let d := cs.take n
  if d.length = n && d.all Char.isDigit then some (Text.digitsValue d, cs.drop n) else none

/-- whether `y` is a leap year -/
def isLeap (y : Nat) : Bool := (y % 4 == 0 && y % 100 != 0) || y % 400 == 0

/-- the number of days of month `m` of year `y` -/
def daysIn (y m : Nat) : Nat :=
  match m with
  | 2 => if isLeap y then 29 else 28
  | 4 | 6 | 9 | 11 => 30
  | _ => 31

/-- a calendar date `YYYY-MM-DD` that exists -/
def fullDate (cs : List Char) : Option (List Char) := do
  let (y, r) ← digitsN 4 cs
  let r ← match r with
    | '-' :: r => some r
    | _ => none
  let (m, r) ← digitsN 2 r
  let r ← match r with
    | '-' :: r => some r
    | _ => none
  let (d, r) ← digitsN 2 r
  if 1 ≤ m && m ≤ 12 && 1 ≤ d && d ≤ daysIn y m then some r else none

/-- a time of day `HH:MM:SS` with optional fraction of a second -/
def partialTime (cs : List Char) : Option (List Char) := do
  let (h, r) ← digitsN 2 cs
  let r ← match r with
    | ':' :: r => some r
    | _ => none
  let (mi, r) ← digitsN 2 r
  let r ← match r with
    | ':' :: r => some r
    | _ => none
  let (s, r) ← digitsN 2 r
  if h ≤ 23 && mi ≤ 59 && s ≤ 60 then
    match r with
    | '.' :: r' =>
      let ds := r'.takeWhile Char.isDigit
      if ds.isEmpty then none else some (r'.drop ds.length)
    | _ => some r
  else none

/-- a time offset: `Z` or a signed `HH:MM` -/
def timeOffset (cs : List Char) : Option (List Char) :=
  match cs with
  | 'Z' :: r | 'z' :: r => some r
  | s :: r =>
    if s == '+' || s == '-' then do
      let (h, r) ← digitsN 2 r
      let r ← match r with
        | ':' :: r => some r
        | _ => none
      let (m, r) ← digitsN 2 r
      if h ≤ 23 && m ≤ 59 then some r else none
    else none
  | [] => none

/-- a date-time, a date or a time of day, and the rest -/
def dateTime? (cs : List Char) : Option (Value × List Char) :=
  match fullDate cs with
  | some r =>
    let time := match r with
      | c :: r' => if c == 'T' || c == 't' || c == ' ' then partialTime r' else none
      | [] => none
    match time with
    | some r'' =>
      let r3 := (timeOffset r'').getD r''
      some (.datetime (String.ofList (cs.take (cs.length - r3.length))), r3)
    | none => some (.datetime (String.ofList (cs.take (cs.length - r.length))), r)
  | none =>
    match partialTime cs with
    | some r => some (.datetime (String.ofList (cs.take (cs.length - r.length))), r)
    | none => none

/-- further digits, each optionally after one underscore: the digits and the rest -/
def moreDigits (isDigit : Char → Bool) : List Char → List Char × List Char
  | d :: r =>
    if isDigit d then
      let (ds, r') := moreDigits isDigit r
      (d :: ds, r')
    else if d == '_' then
      match r with
      | e :: r2 =>
        if isDigit e then
          let (ds, r') := moreDigits isDigit r2
          (e :: ds, r')
        else ([], d :: r)
      | [] => ([], [d])
    else ([], d :: r)
  | [] => ([], [])

/-- digits with single underscores between them, the first a digit -/
def digitRun (isDigit : Char → Bool) (cs : List Char) : Option (List Char × List Char) :=
  match cs with
  | d :: r => if isDigit d then let (ds, r') := moreDigits isDigit r; some (d :: ds, r') else none
  | [] => none

/-- the digits of an unsigned decimal integer: `0`, or a non-zero digit and more -/
def decimalDigits (cs : List Char) : Option (List Char × List Char) :=
  match cs with
  | '0' :: r => some (['0'], r)
  | d :: r =>
    if d.isDigit then let (ds, r') := moreDigits Char.isDigit r; some (d :: ds, r') else none
  | [] => none

/-- the largest 64-bit signed integer -/
def maxInt : Nat := Nat.pow 2 63 - 1

/-- an integer of a base with prefix (`0x`, `0o`, `0b`) after that prefix -/
def radixInt (base : Nat) (isDigit : Char → Bool) (cs : List Char) : Option (Value × List Char) := do
  let (ds, r) ← digitRun isDigit cs
  let v := radixValue base ds
  if v ≤ maxInt then some (.integer v, r) else none

/-- whether a character is an octal digit -/
def isOctal (c : Char) : Bool := '0' ≤ c && c ≤ '7'

/-- whether a character is a binary digit -/
def isBinary (c : Char) : Bool := c == '0' || c == '1'

/-- the least magnitude that rounds to infinity as a double: halfway between the largest finite
double and the next power of two -/
def infinityThreshold : Nat := Nat.pow 2 1024 - Nat.pow 2 970

/-- whether the decimal `digits × 10 ^ exp` rounds to infinity as a double; only a value with
309 digits before its point needs the exact comparison -/
def roundsToInfinity (digits : List Char) (exp : Int) : Bool :=
  let m := Text.digitsValue digits
  if m == 0 then false
  else
    let mag : Int := ((toString m).length - 1 : Nat) + exp
    if mag ≥ 309 then true
    else if mag ≤ 307 then false
    else if exp ≥ 0 then m * Nat.pow 10 exp.toNat ≥ infinityThreshold
    else m ≥ infinityThreshold * Nat.pow 10 (-exp).toNat

/-- an integer or a float, and the rest -/
def number? (cs : List Char) : Option (Value × List Char) :=
  let (sign, r) := match cs with
    | '+' :: r => (some '+', r)
    | '-' :: r => (some '-', r)
    | _ => (none, cs)
  let text := fun (rest : List Char) => String.ofList (cs.take (cs.length - rest.length))
  match r with
  | 'i' :: 'n' :: 'f' :: r' => some (.float (text r'), r')
  | 'n' :: 'a' :: 'n' :: r' => some (.float (text r'), r')
  | '0' :: 'x' :: r' => if sign.isNone then radixInt 16 isHex r' else none
  | '0' :: 'o' :: r' => if sign.isNone then radixInt 8 isOctal r' else none
  | '0' :: 'b' :: r' => if sign.isNone then radixInt 2 isBinary r' else none
  | _ => do
    let (ds, r1) ← decimalDigits r
    let (frac, r2) := match r1 with
      | '.' :: r' => match digitRun Char.isDigit r' with
        | some (fs, r'') => (some fs, r'')
        | none => (none, r1)
      | _ => (none, r1)
    let (exp, r3) := match r2 with
      | e :: r' =>
        if e == 'e' || e == 'E' then
          let (negative, r'') := match r' with
            | '+' :: x => (false, x)
            | '-' :: x => (true, x)
            | x => (false, x)
          match digitRun Char.isDigit r'' with
          | some (es, r4) =>
            let v : Int := Text.digitsValue es
            (some (if negative then -v else v), r4)
          | none => (none, r2)
        else (none, r2)
      | [] => (none, r2)
    if frac.isSome || exp.isSome then
      let fs := frac.getD []
      if sign != some '-' && roundsToInfinity (ds ++ fs) (exp.getD 0 - fs.length) then none
      else some (.float (text r3), r3)
    else
      let v := Text.digitsValue ds
      if sign == some '-' then
        (if v ≤ maxInt + 1 then some (.integer (-(v : Int)), r1) else none)
      else if v ≤ maxInt then some (.integer v, r1) else none

end BuildRecipe.Toml

/-
Semantic versions and version requirements. A version is `major.minor.patch`, each a number below
2^64 without leading zeros, then an optional pre-release (`-rc.1`) and build metadata
(`+build.5`), both dot-separated runs of ASCII letters, digits and hyphens. A requirement is a
comma-separated list of comparators (`>=3.18.0`, `<4`, `^3.18`, `~1.2`, `=1.2.3`, `1.*`), an
operator followed by a version that may stop after its major or minor number. A text that breaks
these rules is refused with a message naming the part where it broke.
-/
import BuildRecipe.Unicode.Category
import BuildRecipe.Unicode.GraphemeExtend

namespace BuildRecipe.SemVer

/-- the part of a version where reading stopped -/
inductive Position where
  | major | minor | patch | pre | build
deriving DecidableEq, Repr, Inhabited

/-- how a part is named in messages -/
def Position.name : Position → String
  | .major => "major version number"
  | .minor => "minor version number"
  | .patch => "patch version number"
  | .pre => "pre-release identifier"
  | .build => "build metadata"

/-- a character as messages quote it: in single quotes, with the null character, tab, carriage
return, line feed, backslash and quote escaped by a backslash, and characters that extend a
grapheme or do not show as themselves written as `\u` and their hexadecimal code in braces -/
def quoteChar (c : Char) : String :=
  let body := match c with
    | '\x00' => "\\0"
    | '\t' => "\\t"
    | '\r' => "\\r"
    | '\n' => "\\n"
    | '\\' => "\\\\"
    | '\'' => "\\'"
    | c =>
      if Unicode.isGraphemeExtend c || !Unicode.isPrintable c then
        "\\u" ++ "\x7b" ++ String.ofList (Nat.toDigits 16 c.toNat) ++ "\x7d"
      else String.singleton c
  "'" ++ body ++ "'"

/-- why a text is no version or requirement -/
inductive Error where
  | empty
  | unexpectedEnd (pos : Position)
  | leadingZero (pos : Position)
  | overflow (pos : Position)
  | emptySegment (pos : Position)
  | wildcardNotAlone (c : Char)
  | unexpectedAfterWildcard
  | excessiveComparators
  | unexpectedChar (pos : Position) (c : Char)
  | unexpectedCharAfter (pos : Position) (c : Char)
  | expectedComma (pos : Position) (c : Char)
deriving DecidableEq, Repr, Inhabited

/-- the message of an error -/
def Error.message : Error → String
  | .empty => "empty string, expected a semver version"
  | .unexpectedEnd p => "unexpected end of input while parsing " ++ p.name
  | .leadingZero p => "invalid leading zero in " ++ p.name
  | .overflow p => "value of " ++ p.name ++ " exceeds u64::MAX"
  | .emptySegment p => "empty identifier segment in " ++ p.name
  | .wildcardNotAlone c =>
    "wildcard req (" ++ String.singleton c ++ ") must be the only comparator in the version req"
  | .unexpectedAfterWildcard => "unexpected character after wildcard in version req"
  | .excessiveComparators => "excessive number of version comparators"
  | .unexpectedChar p c => "unexpected character " ++ quoteChar c ++ " while parsing " ++ p.name
  | .unexpectedCharAfter p c => "unexpected character " ++ quoteChar c ++ " after " ++ p.name
  | .expectedComma p c => "expected comma after " ++ p.name ++ ", found " ++ quoteChar c

/-- a reading step: the value read and the rest, or the error -/
abbrev Read (α : Type) := Except Error (α × List Char)

/-- a number without leading zeros below 2^64 at the front of the input -/
def numeric (pos : Position) (cs : List Char) : Read Nat :=
  let ds := cs.takeWhile Char.isDigit
  let rest := cs.drop ds.length
  if ds.isEmpty then
    match cs with
    | c :: _ => .error (.unexpectedChar pos c)
    | [] => .error (.unexpectedEnd pos)
  else if ds.length > 1 && ds.head? == some '0' then .error (.leadingZero pos)
  else
    let v := ds.foldl (fun acc d => acc * 10 + (d.toNat - '0'.toNat)) 0
    if v ≥ Nat.pow 2 64 then .error (.overflow pos) else .ok (v, rest)

/-- whether a character may stand in a pre-release or build identifier -/
def isIdentChar (c : Char) : Bool := c.isAlpha || c.isDigit || c == '-'

/-- dot-separated identifiers at the front of the input: empty when the input does not start with
one; a pre-release number segment must not have a leading zero -/
def identifier (pos : Position) (cs : List Char) : Read String :=
  go cs.length [] cs
where
  go : Nat → List Char → List Char → Read String
    | 0, acc, rest => .ok (String.ofList acc, rest)
    | fuel + 1, acc, rest =>
      let seg := rest.takeWhile isIdentChar
      let after := rest.drop seg.length
      if seg.isEmpty then
        if acc.isEmpty && after.head? != some '.' then .ok ("", rest)
        else .error (.emptySegment pos)
      else if pos == .pre && seg.length > 1 && seg.all Char.isDigit && seg.head? == some '0' then
        .error (.leadingZero pos)
      else
        match after with
        | '.' :: more => go fuel (acc ++ seg ++ ['.']) more
        | _ => .ok (String.ofList (acc ++ seg), after)

/-- a semantic version -/
structure Version where
  major : Nat
  minor : Nat
  patch : Nat
  pre : String := ""
  build : String := ""
deriving DecidableEq, Repr, Inhabited

namespace Version

/-- the text of a version -/
def display (v : Version) : String :=
  toString v.major ++ "." ++ toString v.minor ++ "." ++ toString v.patch ++
  (if v.pre.isEmpty then "" else "-" ++ v.pre) ++
  (if v.build.isEmpty then "" else "+" ++ v.build)

/-- the rest after a dot that must follow the part at `pos` -/
def dot (pos : Position) : List Char → Except Error (List Char)
  | '.' :: rest => .ok rest
  | c :: _ => .error (.unexpectedCharAfter pos c)
  | [] => .error (.unexpectedEnd pos)

/-- reads a version; all of the text must be used -/
def parse (text : String) : Except Error Version := do
  let cs := text.toList
  if cs.isEmpty then throw .empty
  let (major, cs) ← numeric .major cs
  let cs ← dot .major cs
  let (minor, cs) ← numeric .minor cs
  let cs ← dot .minor cs
  let (patch, cs) ← numeric .patch cs
  let (pre, cs, pos) ← match cs with
    | '-' :: rest => do
      let (pre, rest) ← identifier .pre rest
      if pre.isEmpty then throw (.emptySegment .pre)
      pure (pre, rest, Position.pre)
    | _ => pure ("", cs, Position.patch)
  let (build, cs, pos) ← match cs with
    | '+' :: rest => do
      let (build, rest) ← identifier .build rest
      if build.isEmpty then throw (.emptySegment .build)
      pure (build, rest, Position.build)
    | _ => pure ("", cs, pos)
  match cs with
  | c :: _ => throw (.unexpectedCharAfter pos c)
  | [] => pure { major, minor, patch, pre, build }

end Version

/-- the operator of a comparator -/
inductive Op where
  | exact | greater | greaterEq | less | lessEq | tilde | caret | wildcard
deriving DecidableEq, Repr, Inhabited

/-- the text of an operator; a wildcard has none -/
def Op.text : Op → String
  | .exact => "="
  | .greater => ">"
  | .greaterEq => ">="
  | .less => "<"
  | .lessEq => "<="
  | .tilde => "~"
  | .caret => "^"
  | .wildcard => ""

/-- one comparator of a requirement -/
structure Comparator where
  op : Op
  major : Nat
  minor : Option Nat
  patch : Option Nat
  pre : String
deriving DecidableEq, Repr, Inhabited

/-- the text of a comparator -/
def Comparator.display (c : Comparator) : String :=
  c.op.text ++ toString c.major ++
  match c.minor with
  | some m =>
    "." ++ toString m ++
    match c.patch with
    | some p => "." ++ toString p ++ (if c.pre.isEmpty then "" else "-" ++ c.pre)
    | none => if c.op == .wildcard then ".*" else ""
  | none => if c.op == .wildcard then ".*" else ""

/-- the operator at the front of the input; none written means caret -/
def readOp : List Char → Op × List Char
  | '=' :: rest => (.exact, rest)
  | '>' :: '=' :: rest => (.greaterEq, rest)
  | '>' :: rest => (.greater, rest)
  | '<' :: '=' :: rest => (.lessEq, rest)
  | '<' :: rest => (.less, rest)
  | '~' :: rest => (.tilde, rest)
  | '^' :: rest => (.caret, rest)
  | cs => (.caret, cs)

/-- a wildcard character at the front of the input -/
def wildcard? : List Char → Option (Char × List Char)
  | '*' :: rest => some ('*', rest)
  | 'x' :: rest => some ('x', rest)
  | 'X' :: rest => some ('X', rest)
  | _ => none

/-- the input without leading spaces -/
def dropSpaces (cs : List Char) : List Char := cs.dropWhile (· == ' ')

/-- one comparator at the front of the input, the part read last, and the rest after spaces -/
def comparator (input : List Char) : Except Error (Comparator × Position × List Char) := do
  let (op0, cs) := readOp input
  let defaultOp := cs.length == input.length
  let cs := dropSpaces cs
  let (major, cs) ← numeric .major cs
  let (minor, cs, pos, op1, starred) ← match cs with
    | '.' :: rest =>
      match wildcard? rest with
      | some (_, rest') => pure (none, rest', Position.minor, (if defaultOp then Op.wildcard else op0), true)
      | none => do
        let (m, rest') ← numeric .minor rest
        pure (some m, rest', Position.minor, op0, false)
    | _ => pure (none, cs, Position.major, op0, false)
  let (patch, cs, pos, op2) ← match cs with
    | '.' :: rest =>
      match wildcard? rest with
      | some (_, rest') => pure (none, rest', Position.patch, if defaultOp then Op.wildcard else op1)
      | none =>
        if starred then throw .unexpectedAfterWildcard
        else do
          let (p, rest') ← numeric .patch rest
          pure (some p, rest', Position.patch, op1)
    | _ => pure (none, cs, pos, op1)
  let (pre, cs, pos) ← match patch, cs with
    | some _, '-' :: rest => do
      let (pre, rest') ← identifier .pre rest
      if pre.isEmpty then throw (.emptySegment .pre)
      pure (pre, rest', Position.pre)
    | _, _ => pure ("", cs, pos)
  let (cs, pos) ← match patch, cs with
    | some _, '+' :: rest => do
      let (build, rest') ← identifier .build rest
      if build.isEmpty then throw (.emptySegment .build)
      pure (rest', Position.build)
    | _, _ => pure (cs, pos)
  pure ({ op := op2, major, minor, patch, pre }, pos, dropSpaces cs)

/-- the most comparators a requirement may hold -/
def maxComparators : Nat := 32

/-- a requirement: the comparators that a matching version satisfies all of -/
structure Requirement where
  comparators : List Comparator
deriving DecidableEq, Repr, Inhabited

namespace Requirement

/-- the text of a requirement: its comparators joined by `, `, or `*` when there are none -/
def display (r : Requirement) : String :=
  if r.comparators.isEmpty then "*" else ", ".intercalate (r.comparators.map Comparator.display)

/-- the comparators of the rest of a requirement, the `depth`-th onwards -/
def readComparators (fuel depth : Nat) (input : List Char) : Except Error (List Comparator) :=
  match fuel with
  | 0 => .error .excessiveComparators
  | fuel + 1 =>
    match comparator input with
    | .error e =>
      match wildcard? input with
      | some (c, rest) =>
        let rest := dropSpaces rest
        if rest.isEmpty || rest.head? == some ',' then .error (.wildcardNotAlone c) else .error e
      | none => .error e
    | .ok (c, pos, rest) =>
      match rest with
      | [] => .ok [c]
      | ',' :: more =>
        if depth + 1 == maxComparators then .error .excessiveComparators
        else (c :: ·) <$> readComparators fuel (depth + 1) (dropSpaces more)
      | ch :: _ => .error (.expectedComma pos ch)

/-- reads a requirement -/
def parse (text : String) : Except Error Requirement :=
  let cs := dropSpaces text.toList
  match wildcard? cs with
  | some (c, rest) =>
    let rest := dropSpaces rest
    if rest.isEmpty then .ok ⟨[]⟩
    else if rest.head? == some ',' then .error (.wildcardNotAlone c)
    else .error .unexpectedAfterWildcard
  | none => Requirement.mk <$> readComparators (cs.length + 1) 0 cs

end Requirement

end BuildRecipe.SemVer

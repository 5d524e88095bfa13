/-
Reading the path of a URL. The path is written as text that starts with a slash, one segment
after another, each character percent-encoded with the path set; reading stops at `?` or `#`.
When a segment ends, a `.` (or `%2e`) segment is dropped, and a `..` segment (in any mix of `.`
and `%2e`) removes itself and the segment before it. The root stays, and so does a drive letter
(`C:` or `C|`) just before the `..`; in a file URL a lone drive letter `C:` stays as well. In a
file URL, a drive letter (`C:` or `C|`) that is the path's first segment is written `C:` and
drops the host. At the end a file URL's path keeps only one of its leading slashes.

Tabs and line breaks in a path are passed over, but they still count in one place. Characters
are written out in runs, a run ending at a tab or line break and at the end of a segment. In a
file URL, when the path written out so far is exactly a drive letter `C:` and another
character of the segment comes, a slash is put before that character. The segment then counts
from one place further on, so `C:` followed by a tab and `x` reads as `C:/x`, and `C:` followed
by a tab and `..` keeps the `..`.
-/
import BuildRecipe.Url.Percent
import BuildRecipe.Text.Case

namespace BuildRecipe.Url

/-- which rules a path follows: those of web schemes (a backslash separates segments too), and
those of file URLs -/
structure PathRules where
  special : Bool
  file : Bool
deriving Repr, Inhabited

/-- the path as written so far, where its last segment starts, how much of it has been written
out, and whether the URL still has its host -/
structure PathState where
  text : List Char
  segmentStart : Nat
  written : Nat := text.length
  hasHost : Bool
deriving Repr, Inhabited

/-- whether a character is a tab or a line break, which a URL reader passes over -/
def isTabOrNewline (c : Char) : Bool := c == '\t' || c == '\n' || c == '\r'

/-- whether a segment, percent-encoded, means `.` -/
def isSingleDot (seg : String) : Bool := seg == "." || Text.lowerAscii seg == "%2e"

/-- whether a segment, percent-encoded, means `..` -/
def isDoubleDot (seg : String) : Bool :=
  match Text.lowerAscii seg with
  | ".." | ".%2e" | "%2e." | "%2e%2e" => true
  | _ => false

/-- whether two characters are a drive letter such as `C:` or `C|` -/
def isDriveLetter : List Char → Bool
  | [a, b] => a.isAlpha && (b == ':' || b == '|')
  | _ => false

/-- whether two characters are a drive letter written with a colon -/
def isNormalDriveLetter : List Char → Bool
  | [a, b] => a.isAlpha && b == ':'
  | _ => false

/-- whether a character ends a drive letter's segment -/
def endsSegment (c : Char) : Bool := c == '/' || c == '\\' || c == '?' || c == '#'

/-- whether a text starts with a drive letter that fills its segment -/
def startsWithDriveLetter : List Char → Bool
  | a :: b :: rest =>
    a.isAlpha && (b == ':' || b == '|') &&
      (match rest with
        | [] => true
        | c :: _ => endsSegment c)
  | _ => false

/-- whether a text is a separator and then a drive letter that fills its segment -/
def slashThenDriveLetter : List Char → Bool
  | c :: rest => endsSegment c && startsWithDriveLetter rest
  | [] => false

/-- the position of the last slash of a text -/
def lastSlash? (cs : List Char) : Option Nat :=
  (cs.reverse.findIdx? (· == '/')).map fun k => cs.length - 1 - k

/-- whether the slash that ends a path text may go: it is not the root and does not follow a
drive letter -/
def lastSlashRemovable (text : List Char) : Bool :=
  match lastSlash? text.dropLast with
  | some j => !slashThenDriveLetter (text.drop j)
  | none => false

/-- the path text without its last segment, unless that is a drive letter of a file URL -/
def shorten (file : Bool) (text : List Char) : List Char :=
  if text.isEmpty || (file && isNormalDriveLetter text) then text
  else match lastSlash? text with
    | some j => if file && isNormalDriveLetter (text.drop (j + 1)) then text else text.take (j + 1)
    | none => text

/-- the state once the last segment has ended, after a slash or not -/
def endSegment (rules : PathRules) (st : PathState) (slash : Bool) : PathState :=
  let seg := if slash then (st.text.drop st.segmentStart).dropLast else st.text.drop st.segmentStart
  let before := st.text.take st.segmentStart
  if isDoubleDot (String.ofList seg) then
    let t := if before.getLast? == some '/' && lastSlashRemovable before then before.dropLast
      else before
    let t := shorten rules.file t
    { st with text := if slash && t.getLast? != some '/' then t ++ ['/'] else t }
  else if isSingleDot (String.ofList seg) then
    { st with text := if before.getLast? == some '/' then before else before ++ ['/'] }
  else if rules.file && st.segmentStart == 1 && isDriveLetter seg then
    match seg with
    | a :: _ => { st with text := before ++ [a, ':'] ++ (if slash then ['/'] else []), hasHost := false }
    | [] => st
  else st

/-- whether a file URL's path written out so far is exactly a drive letter after the root, so
that the next character of the segment is put after a slash -/
def afterDriveLetter (rules : PathRules) (st : PathState) : Bool :=
  rules.file && isNormalDriveLetter ((st.text.take st.written).drop 1)

/-- the state once a character of a segment is added -/
def pushChar (rules : PathRules) (st : PathState) (c : Char) : PathState :=
  let st := if afterDriveLetter rules st then
      { st with text := st.text ++ ['/'], segmentStart := st.segmentStart + 1,
                written := st.text.length + 1 }
    else st
  { st with text := st.text ++ (encodeChar inPathSet c).toList }

/-- reads path characters until `?`, `#` or the end, giving the state and the rest -/
def readSegments (rules : PathRules) : List Char → PathState → PathState × List Char
  | [], st => (endSegment rules st false, [])
  | c :: rest, st =>
    if c == '/' || (rules.special && c == '\\') then
      let st := endSegment rules { st with text := st.text ++ ['/'] } true
      readSegments rules rest { st with segmentStart := st.text.length, written := st.text.length }
    else if c == '?' || c == '#' then (endSegment rules st false, c :: rest)
    else if isTabOrNewline c then readSegments rules rest { st with written := st.text.length }
    else readSegments rules rest (pushChar rules st c)

/-- reads a path from a state, a file URL's path keeping one leading slash -/
def readPath (rules : PathRules) (st : PathState) (input : List Char) : PathState × List Char :=
  let (st, rest) := readSegments rules input st
  if rules.file then ({ st with text := '/' :: st.text.dropWhile (· == '/') }, rest)
  else (st, rest)

/-- the segments of a path text -/
def segmentsOf (text : List Char) : List String :=
  match text with
  | [] => []
  | _ :: rest => (rest.splitOn '/').map String.ofList

end BuildRecipe.Url

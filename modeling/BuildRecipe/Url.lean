/-
Absolute URLs, read and written by the WHATWG URL rules. Reading drops surrounding blanks and
control characters and passes over any tab or line break inside, lowers the scheme, and then, for the web
schemes (`http`, `https`, `ws`, `wss`, `ftp`) and `file`, reads an authority whatever the number
of slashes before it, drops the scheme's default port, resolves `.` and `..` segments (also in
their percent-encoded spellings) and gives an empty path as `/`; other schemes keep an authority
only after `//` and a path without a leading slash as written. Each part is percent-encoded with
its own set. A text without a scheme is no URL.
-/
import BuildRecipe.Url.Host
import BuildRecipe.Url.Path
import BuildRecipe.Text.Case

namespace BuildRecipe.Url

/-- the path of a URL: segments, or one text for a URL that is no base for others -/
inductive PathPart where
  | segments (parts : List String)
  | single (text : String)
deriving DecidableEq, Repr, Inhabited

end BuildRecipe.Url

namespace BuildRecipe

/-- an absolute URL -/
structure Url where
  scheme : String
  username : String := ""
  password : String := ""
  host : Option Url.Host := none
  port : Option Nat := none
  path : Url.PathPart := .segments []
  query : Option String := none
  fragment : Option String := none
deriving DecidableEq, Repr, Inhabited

namespace Url

/-- the default port of a web scheme -/
def defaultPort : String → Option Nat
  | "http" | "ws" => some 80
  | "https" | "wss" => some 443
  | "ftp" => some 21
  | _ => none

/-- whether a scheme is a web scheme or `file` -/
def isSpecial (scheme : String) : Bool :=
  scheme ∈ ["ftp", "file", "http", "https", "ws", "wss"]

/-- the input without surrounding blanks and control characters -/
def trim (s : String) : List Char :=
  ((s.toList.dropWhile (·.toNat ≤ 0x20)).reverse.dropWhile (·.toNat ≤ 0x20)).reverse

/-- text without its tabs and line breaks -/
def dropTabs (cs : List Char) : List Char := cs.filter fun c => !isTabOrNewline c

/-- the first character that is no tab or line break, and what follows it -/
def nextChar? (cs : List Char) : Option (Char × List Char) :=
  match cs.dropWhile isTabOrNewline with
  | c :: rest => some (c, rest)
  | [] => none

/-- the lowered scheme, tabs and line breaks in it passed over, and the rest after its colon -/
def schemeOf? : List Char → Option (String × List Char)
  | c :: rest =>
    if c.isAlpha then
      let body := rest.takeWhile fun d =>
        d.isAlphanum || d == '+' || d == '-' || d == '.' || isTabOrNewline d
      match rest.drop body.length with
      | ':' :: after => some (Text.lowerAscii (String.ofList (c :: dropTabs body)), after)
      | _ => none
    else none
  | [] => none

/-- the query and fragment after a path: the query from `?` up to `#`, the fragment after `#` -/
def tail (special : Bool) (cs : List Char) : Option String × Option String :=
  let (q, rest) := match cs with
    | '?' :: more =>
      let body := more.takeWhile (· != '#')
      (some (encode (if special then inSpecialQuerySet else inQuerySet) body), more.drop body.length)
    | _ => (none, cs)
  let f := match rest with
    | '#' :: more => some (encode inFragmentSet more)
    | _ => none
  (q, f)

/-- the user name and password of an authority's user information -/
def userinfo (cs : List Char) : String × String :=
  let name := cs.takeWhile (· != ':')
  match cs.drop name.length with
  | ':' :: pw => (encode inUserinfoSet name, encode inUserinfoSet pw)
  | _ => (encode inUserinfoSet name, "")

/-- the host text and the port text of an authority without user information -/
def splitHostPort (cs : List Char) : List Char × Option (List Char) :=
  go false [] cs
where
  go : Bool → List Char → List Char → List Char × Option (List Char)
    | _, acc, [] => (acc.reverse, none)
    | inside, acc, c :: rest =>
      if c == ':' && !inside then (acc.reverse, some rest)
      else go (if c == '[' then true else if c == ']' then false else inside) (c :: acc) rest

/-- a port: decimal digits below 65536; none written, or the scheme's default, is no port -/
def portValue? (scheme : String) (ds : List Char) : Option (Option Nat) :=
  if ds.isEmpty then some none
  else
    let v := ds.foldl (fun acc d => acc * 10 + (d.toNat - 48)) 0
    if v > 65535 then none
    else if defaultPort scheme == some v then some none
    else some (some v)

/-- what an authority gives: user name, password, host, port, and the text after the port that
begins the path (a backslash and what follows it, for a scheme where the backslash is no
separator) -/
structure Authority where
  username : String
  password : String
  host : Host
  port : Option Nat
  pathStart : List Char

/-- reads an authority, `followed` telling whether a separator comes after it. User information
ends at the last `@`; an empty one is dropped, but not when the separator follows it at once. An
empty host is refused for the web schemes, before a port and after a user name or password. A
port is decimal digits and ends the authority or comes before a backslash. -/
def authority? (scheme : String) (special : Bool) (cs : List Char) (followed : Bool) :
    Option Authority := do
  let (user, hostPort) := match (cs.reverse.takeWhile (· != '@')).length, cs.contains '@' with
    | k, true => (some (cs.take (cs.length - k - 1)), cs.drop (cs.length - k))
    | _, false => (none, cs)
  if user == some [] && hostPort.isEmpty && followed then none
  let (hostText, portText) := splitHostPort hostPort
  let (username, password) := match user with
    | some u => userinfo u
    | none => ("", "")
  let host ← if hostText.isEmpty then
      (if special || portText.isSome || !username.isEmpty || !password.isEmpty then none
       else some Host.empty)
    else if special then parseSpecialHost? (String.ofList hostText)
    else parseOtherHost? (String.ofList hostText)
  let digits := (portText.getD []).takeWhile Char.isDigit
  let pathStart := (portText.getD []).drop digits.length
  if !pathStart.isEmpty && pathStart.head? != some '\\' then none
  let port ← portValue? scheme digits
  pure { username, password, host, port, pathStart }

/-- the path text, query and fragment of what follows an authority -/
def pathEnd (cs : List Char) : List Char × List Char :=
  let body := cs.takeWhile fun c => c != '?' && c != '#'
  (body, cs.drop body.length)

/-- reads a URL of a web scheme after its colon -/
def readSpecial (scheme : String) (rest : List Char) : Option Url := do
  let rest := rest.dropWhile fun c => c == '/' || c == '\\'
  let auth := rest.takeWhile fun c => c != '/' && c != '\\' && c != '?' && c != '#'
  let after := rest.drop auth.length
  let a ← authority? scheme true auth !after.isEmpty
  let input := match after with
    | c :: r => if c == '/' || c == '\\' then r else c :: r
    | [] => []
  let (st, more) := readPath { special := true, file := false }
    { text := ['/'], segmentStart := 1, hasHost := true } input
  let (query, fragment) := tail true more
  pure { scheme, username := a.username, password := a.password, host := some a.host, port := a.port,
         path := .segments (segmentsOf st.text), query, fragment }

/-- reads a `file` URL after its colon, tabs and line breaks still in it: after two slashes comes
a host, which is dropped when it is empty or `localhost`; a host that is a drive letter belongs to
the path -/
def readFile (rest : List Char) : Option Url := do
  let isSlash := fun c => c == '/' || c == '\\'
  let rules : PathRules := { special := true, file := true }
  let fromRoot : PathState := { text := ['/'], segmentStart := 1, hasHost := false }
  let (host, st, more) ← match nextChar? rest with
    | some (a, afterFirst) =>
      if isSlash a then
        match nextChar? afterFirst with
        | some (b, more) =>
          if isSlash b then
            let hostRaw := more.takeWhile fun c => !isSlash c && c != '?' && c != '#'
            let hostText := dropTabs hostRaw
            let after := more.drop hostRaw.length
            if isDriveLetter hostText then some (Host.empty, readPath rules fromRoot more)
            else if hostText.isEmpty then some (Host.empty, readPath rules fromRoot after)
            else do
              let h ← parseSpecialHost? (String.ofList hostText)
              if h == .domain "localhost" then some (Host.empty, readPath rules fromRoot after)
              else
                let input := match nextChar? after with
                  | some (c, r) => if isSlash c then r else after
                  | none => after
                some (h, readPath rules { fromRoot with hasHost := true } input)
          else some (Host.empty, readPath rules fromRoot afterFirst)
        | none => some (Host.empty, readPath rules fromRoot afterFirst)
      else some (Host.empty, readPath rules fromRoot rest)
    | none => some (Host.empty, readPath rules fromRoot [])
  let (query, fragment) := tail true (dropTabs more)
  pure { scheme := "file", host := some (if st.hasHost then host else Host.empty),
         path := .segments (segmentsOf st.text), query, fragment }

/-- reads a URL of another scheme after its colon -/
def readOther (scheme : String) (rest : List Char) : Option Url := do
  let rules : PathRules := { special := false, file := false }
  match rest with
  | '/' :: '/' :: more =>
    let auth := more.takeWhile fun c => c != '/' && c != '?' && c != '#'
    let after := more.drop auth.length
    let a ← authority? scheme false auth !after.isEmpty
    let start : PathState :=
      if a.pathStart.isEmpty then { text := [], segmentStart := 0, hasHost := true }
      else { text := ['/'], segmentStart := 1, hasHost := true }
    let (st, tailText) := readPath rules start (a.pathStart ++ after)
    let (query, fragment) := tail false tailText
    pure { scheme, username := a.username, password := a.password, host := some a.host,
           port := a.port, path := .segments (segmentsOf st.text), query, fragment }
  | '/' :: more =>
    let (st, tailText) := readPath rules { text := ['/'], segmentStart := 1, hasHost := false } more
    let (query, fragment) := tail false tailText
    pure { scheme, path := .segments (segmentsOf st.text), query, fragment }
  | _ =>
    let (body, tailText) := pathEnd rest
    let (query, fragment) := tail false tailText
    pure { scheme, path := .single (encode inControlSet body), query, fragment }

/-- reads an absolute URL -/
def parse? (text : String) : Option Url := do
  let (scheme, rest) ← schemeOf? (trim text)
  if scheme == "file" then readFile rest
  else if isSpecial scheme then readSpecial scheme (dropTabs rest)
  else readOther scheme (dropTabs rest)

/-- the text of a URL -/
def serialize (u : Url) : String :=
  let auth := match u.host with
    | some h =>
      let cred :=
        if u.username.isEmpty && u.password.isEmpty then ""
        else u.username ++ (if u.password.isEmpty then "" else ":" ++ u.password) ++ "@"
      "//" ++ cred ++ h.text ++ (match u.port with
        | some p => ":" ++ toString p
        | none => "")
    | none => ""
  let pathText := match u.path with
    | .single t => t
    | .segments segs =>
      let lead := if u.host.isNone && segs.length > 1 && segs.head? == some "" then "/." else ""
      lead ++ String.join (segs.map ("/" ++ ·))
  u.scheme ++ ":" ++ auth ++ pathText ++
  (match u.query with
    | some q => "?" ++ q
    | none => "") ++
  (match u.fragment with
    | some f => "#" ++ f
    | none => "")

end Url

end BuildRecipe

/-
Glob patterns over a file tree. A pattern is split at its separators into one pattern per path
component. Within a component `?` matches one character, `*` any run of characters, `[...]` one
character among those listed (`a-z` giving a range) and `[!...]` one character not among them;
any other character matches itself. A component that is exactly `**` stands for any number of
directories. A pattern with `***`, with `**` beside other characters of its component, or with a
bracket that does not close is refused, with the position of the fault.

A search starts at the root for an absolute pattern, else at the current directory, and follows
the components in turn. A component without wildcards is joined as written and kept when there
is an entry at the path (for `.` and `..`, when the path so far is a directory); a component
with wildcards is matched against the names in the directory so far. A `**` enters every
directory below the path so far, and the component after it is matched against each entry met,
so that it matches at any depth below; at the end of a pattern it gives every directory met.
-/
import BuildRecipe.FileTree

namespace BuildRecipe.Glob

/-- one place of a bracket: a character or a range of characters -/
inductive CharSpec where
  | single (c : Char)
  | range (lo hi : Char)
deriving DecidableEq, Repr, Inhabited

/-- whether a character is among those of a bracket -/
def CharSpec.admits (c : Char) : CharSpec → Bool
  | .single d => c == d
  | .range lo hi => lo ≤ c && c ≤ hi

/-- one token of a component pattern -/
inductive Token where
  /-- the character itself -/
  | char (c : Char)
  /-- `?`: any one character -/
  | anyChar
  /-- `*`: any run of characters -/
  | anySequence
  /-- `**`: any number of directories -/
  | anyRecursive
  /-- `[...]`: one character among these -/
  | within (specs : List CharSpec)
  /-- `[!...]`: one character not among these -/
  | except (specs : List CharSpec)
deriving DecidableEq, Repr, Inhabited

/-- why a pattern cannot be read: where, and what is wrong -/
structure PatternError where
  pos : Nat
  msg : String
deriving DecidableEq, Repr

/-- the text of a pattern error -/
def PatternError.message (e : PatternError) : String :=
  "Pattern syntax error near position " ++ toString e.pos ++ ": " ++ e.msg

/-- the fault of three or more stars in a row -/
def wildcardsMessage : String := "wildcards are either regular `*` or recursive `**`"

/-- the fault of `**` beside other characters of its component -/
def recursiveMessage : String := "recursive wildcards must form a single path component"

/-- the fault of a bracket that does not close -/
def rangeMessage : String := "invalid range pattern"

/-- the places of a bracket's body: `a-z` is a range, anything else one character -/
def charSpecs : List Char → List CharSpec
  | a :: '-' :: b :: rest => .range a b :: charSpecs rest
  | a :: rest => .single a :: charSpecs rest
  | [] => []

/-- the position of the first `]` in a text -/
def closeIndex? (cs : List Char) : Option Nat := cs.findIdx? (· == ']')

/-- whether `**` may stand after this character: at the start, or after a separator -/
def startsComponent (prev : Option Char) : Bool := prev.isNone || prev == some '/'

/-- the tokens of a pattern read from position `pos`, `prev` being the character before it; a
bracket takes its body up to the first `]` after at least one character (two, after `!`) -/
def tokenize (prev : Option Char) (pos : Nat) : List Char → Except PatternError (List Token)
  | [] => .ok []
  | '?' :: rest => (Token.anyChar :: ·) <$> tokenize (some '?') (pos + 1) rest
  | '*' :: '*' :: '*' :: _ => .error ⟨pos + 2, wildcardsMessage⟩
  | ['*', '*'] =>
    if startsComponent prev then .ok [.anyRecursive] else .error ⟨pos - 1, recursiveMessage⟩
  | '*' :: '*' :: '/' :: rest =>
    if startsComponent prev then (Token.anyRecursive :: ·) <$> tokenize (some '/') (pos + 3) rest
    else .error ⟨pos - 1, recursiveMessage⟩
  | '*' :: '*' :: _ :: _ =>
    if startsComponent prev then .error ⟨pos + 2, recursiveMessage⟩
    else .error ⟨pos - 1, recursiveMessage⟩
  | '*' :: rest => (Token.anySequence :: ·) <$> tokenize (some '*') (pos + 1) rest
  | '[' :: '!' :: b :: more =>
    match closeIndex? more with
    | some j =>
      (Token.except (charSpecs (b :: more.take j)) :: ·) <$>
        tokenize (some ']') (pos + j + 4) (more.drop (j + 1))
    | none => .error ⟨pos, rangeMessage⟩
  | '[' :: b :: more =>
    if b == '!' then .error ⟨pos, rangeMessage⟩
    else match closeIndex? more with
      | some j =>
        (Token.within (charSpecs (b :: more.take j)) :: ·) <$>
          tokenize (some ']') (pos + j + 3) (more.drop (j + 1))
      | none => .error ⟨pos, rangeMessage⟩
  | ['['] => .error ⟨pos, rangeMessage⟩
  | c :: rest => (Token.char c :: ·) <$> tokenize (some c) (pos + 1) rest
termination_by cs => cs.length
decreasing_by all_goals simp only [List.length_cons, List.length_drop]; omega

/-- whether one token that is no star admits a character -/
def Token.admits (c : Char) : Token → Bool
  | .char d => c == d
  | .anyChar => true
  | .within specs => specs.any (·.admits c)
  | .except specs => !specs.any (·.admits c)
  | .anySequence | .anyRecursive => false

/-- whether tokens match a whole name: `*` takes any run of characters, and `**` inside a name
only the empty one -/
def matchTokens : List Token → List Char → Bool
  | [], cs => cs.isEmpty
  | .anySequence :: rest, cs =>
    matchTokens rest cs ||
      (match cs with
        | _ :: cs' => matchTokens (.anySequence :: rest) cs'
        | [] => false)
  | .anyRecursive :: rest, cs => matchTokens rest cs
  | t :: rest, c :: cs => t.admits c && matchTokens rest cs
  | _ :: _, [] => false
termination_by ts cs => ts.length + cs.length

/-- one component of a pattern: its tokens, and whether it is `**` -/
structure Component where
  tokens : List Token
  recursive : Bool
deriving DecidableEq, Repr, Inhabited

/-- the text of a component without wildcards -/
def Component.literal? (c : Component) : Option String :=
  (c.tokens.mapM fun (t : Token) =>
    match t with
    | .char ch => some ch
    | _ => none).map String.ofList

/-- whether a component matches a name -/
def Component.matches (c : Component) (name : String) : Bool := matchTokens c.tokens name.toList

/-- a component read from its text -/
def Component.parse (text : String) : Except PatternError Component := do
  let tokens ← tokenize none 0 text.toList
  pure { tokens, recursive := tokens.contains .anyRecursive }

/-- a pattern ready for a search: its components, whether it is absolute, and whether it ends in
a separator, which keeps only directories -/
structure Pattern where
  components : Array Component
  absolute : Bool
  requireDir : Bool
deriving Repr, Inhabited

/-- the parts of a text between separators, a last empty part dropped -/
def componentTexts (s : String) : List String :=
  let parts := Text.splitAll s '/'
  if parts.getLast? == some "" then parts.dropLast else parts

/-- reads a pattern: the whole text must read, and then each component after the root -/
def Pattern.parse (text : String) : Except PatternError Pattern := do
  let _ ← tokenize none 0 text.toList
  let absolute := text.startsWith "/"
  let body := if absolute then String.ofList (text.toList.drop 1) else text
  let comps ← (componentTexts body).mapM Component.parse
  let comps := if absolute && body.isEmpty then comps ++ [{ tokens := [], recursive := false }]
    else if body.isEmpty then [{ tokens := [], recursive := false }]
    else comps
  pure { components := comps.toArray, absolute, requireDir := text.endsWith "/" }

/-- the path of an entry named `name` in the directory at `dir`; in the current directory, the
name alone -/
def childPath (dir : Path) (name : String) : Path :=
  if dir.text == "." then Path.ofString name else dir.join name

/-- the index of the last `**` of the run that starts at `i` -/
def lastRecursive (pat : Pattern) : Nat → Nat → Nat
  | 0, i => i
  | fuel + 1, i =>
    match pat.components[i + 1]? with
    | some c => if c.recursive then lastRecursive pat fuel (i + 1) else i
    | none => i

mutual
/-- the matches found by continuing at component `idx` from the directory at `dir` -/
def fill (t : FileTree) (pat : Pattern) : Nat → Nat → Path → List Path
  | 0, _, _ => []
  | fuel + 1, idx, dir =>
    match pat.components[idx]? with
    | none => []
    | some c =>
      match c.literal? with
      | some s =>
        let special := s == "." || s == ".."
        let next := childPath dir s
        if (special && t.isDir dir) || (!special && t.exists? next) then accept t pat fuel idx next
        else []
      | none =>
        if t.isDir dir then
          let names : List String := match t.locate dir with
            | .ok loc => (t.children loc).map fun (n, _) => n
            | .error _ => []
          let found := names.flatMap fun n => visit t pat fuel idx (childPath dir n)
          let dots : List Path := if c.tokens.head? == some (.char '.') then
              ([".", ".."].filter c.matches).flatMap fun (d : String) =>
                accept t pat fuel idx (dir.join (Path.ofString d))
            else []
          found ++ dots
        else []

/-- the matches given by a path that component `idx` has taken: the path itself after the last
component, else what continues from it -/
def accept (t : FileTree) (pat : Pattern) : Nat → Nat → Path → List Path
  | 0, _, _ => []
  | fuel + 1, idx, p =>
    if idx + 1 == pat.components.size then
      if !pat.requireDir || t.isDir p then [p] else []
    else fill t pat fuel (idx + 1) p

/-- the matches given by an entry met in a directory while component `idx` is sought: a `**`
enters it when it is a directory, and then (or else) the component after the `**` is tried on
it; a `**` that ends the pattern gives the directory itself -/
def visit (t : FileTree) (pat : Pattern) : Nat → Nat → Path → List Path
  | 0, _, _ => []
  | fuel + 1, idx, p =>
    match pat.components[idx]? with
    | none => []
    | some c =>
      let isDir := t.isDir p
      let last := pat.components.size - 1
      if c.recursive then
        let next := lastRecursive pat pat.components.size idx
        let below := if isDir then fill t pat fuel next p else []
        if next == last then (if isDir then below ++ [p] else [])
        else below ++ matchAt t pat fuel (next + 1) p
      else matchAt t pat fuel idx p

/-- the matches given by an entry when its name is tried on component `i` -/
def matchAt (t : FileTree) (pat : Pattern) : Nat → Nat → Path → List Path
  | 0, _, _ => []
  | fuel + 1, i, p =>
    match pat.components[i]?, p.fileName? with
    | some c, some name =>
      if c.matches name then
        if i + 1 == pat.components.size then
          if !pat.requireDir || t.isDir p then [p] else []
        else fill t pat fuel (i + 1) p
      else []
    | _, _ => []
end

/-- the paths a pattern matches in a tree, in the order they are met, or why the pattern cannot
be read. Every step of a search takes the next component or goes one directory deeper, and a
`**` goes at most as deep as the tree has entries, so the steps of one chain stay below twice
the number of components times the number of entries (each increased by two) -/
def search (t : FileTree) (text : String) : Except PatternError (List Path) := do
  let pat ← Pattern.parse text
  let fuel := 2 * (pat.components.size + 2) * (t.entries.entries.length + 2)
  pure (fill t pat fuel 0 (if pat.absolute then Path.ofString "/" else Path.ofString "."))

end BuildRecipe.Glob

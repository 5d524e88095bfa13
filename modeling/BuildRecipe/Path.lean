/-
File paths as texts with `/` as separator. A path's meaning is its list of components: a root,
a leading `.`, `..` and names; repeated separators, trailing separators and inner `.` carry
none, so paths that differ only in them are equal and compare alike. Joining puts a separator
between two paths unless the first already ends in one, and an absolute second path replaces the
first. The difference of two paths is the relative path that leads from one to the other.
-/
import BuildRecipe.Text.Basic

namespace BuildRecipe

/-- one component of a path -/
inductive Component where
  /-- the root `/` of an absolute path -/
  | root
  /-- a leading `.` -/
  | current
  /-- a `..` -/
  | parent
  /-- a name -/
  | normal (name : String)
deriving DecidableEq, Repr, Inhabited

namespace Component

/-- the rank of a component's kind, for ordering -/
def rank : Component → Nat
  | .root => 0
  | .current => 1
  | .parent => 2
  | .normal _ => 3

/-- components ordered by kind (root, `.`, `..`, names) and names by their text -/
def compare (a b : Component) : Ordering :=
  match a, b with
  | .normal x, .normal y => Ord.compare x y
  | _, _ => Ord.compare a.rank b.rank

/-- the text of a component -/
def text : Component → String
  | .root => "/"
  | .current => "."
  | .parent => ".."
  | .normal n => n

end Component

/-- a path, kept as the text it was written with -/
structure Path where
  text : String
deriving DecidableEq, Repr, Inhabited

namespace Path

/-- the path written as `s` -/
def ofString (s : String) : Path := ⟨s⟩

instance : Coe String Path := ⟨ofString⟩

/-- the text a path is shown with -/
def display (p : Path) : String := p.text

/-- whether the path starts at the root -/
def isAbsolute (p : Path) : Bool := p.text.startsWith "/"

/-- the component one separated part stands for: empty parts and `.` stand for none -/
def partComponent (part : String) : Option Component :=
  if part.isEmpty || part == "." then none
  else if part == ".." then some .parent
  else some (.normal part)

/-- the components of a path: the root when it is absolute, a `.` when it starts with one, then
`..` and names -/
def components (p : Path) : List Component :=
  let parts := Text.splitAll p.text '/'
  let lead : List Component :=
    if p.isAbsolute then [.root]
    else match parts with
      | "." :: _ => [.current]
      | _ => []
  lead ++ parts.filterMap partComponent

/-- whether two paths have the same components -/
def sameAs (a b : Path) : Bool := a.components == b.components

/-- paths ordered by their components -/
def compare (a b : Path) : Ordering :=
  go a.components b.components
where
  go : List Component → List Component → Ordering
    | [], [] => .eq
    | [], _ :: _ => .lt
    | _ :: _, [] => .gt
    | x :: xs, y :: ys =>
      match Component.compare x y with
      | .eq => go xs ys
      | o => o

/-- `b` placed after `a`: `b` itself when it is absolute, else `a`, a separator when `a` is not
empty and does not end in one, and `b` -/
def join (a b : Path) : Path :=
  if b.isAbsolute then b
  else if a.text.isEmpty || a.text.endsWith "/" then ⟨a.text ++ b.text⟩
  else ⟨a.text ++ "/" ++ b.text⟩

instance : Div Path := ⟨join⟩

/-- the path built from components by joining their texts in turn -/
def ofComponents (cs : List Component) : Path :=
  cs.foldl (fun p c => p.join ⟨c.text⟩) ⟨""⟩

/-- reversed parts with leading empty and `.` parts dropped, the last part always kept -/
def dropEmptyFront : List String → List String
  | [] => []
  | [p] => [p]
  | p :: rest => if p.isEmpty || p == "." then dropEmptyFront rest else p :: rest

/-- the parts of a path's text with trailing empty and `.` parts dropped; the root's leading empty
part stays -/
def trimTrailing (parts : List String) : List String := (dropEmptyFront parts.reverse).reverse

/-- the path without its last component, when that is a name, `.` or `..` -/
def parent? (p : Path) : Option Path :=
  match p.components.getLast? with
  | none | some .root => none
  | some _ =>
    let parts := trimTrailing (Text.splitAll p.text '/')
    let rest := trimTrailing parts.dropLast
    match rest with
    | [""] => some ⟨"/"⟩
    | _ => some ⟨"/".intercalate rest⟩

/-- the last component, when it is a name -/
def fileName? (p : Path) : Option String :=
  match p.components.getLast? with
  | some (.normal n) => some n
  | _ => none

/-- the text after the last dot of the file name, unless that dot starts the name -/
def extension? (p : Path) : Option String := do
  let name ← p.fileName?
  let cs := name.toList
  let before := (cs.reverse.dropWhile (· != '.')).reverse
  match before with
  | [] | ['.'] => none
  | _ => some (String.ofList (cs.drop before.length))

/-- whether the components of `base` begin the components of `p` -/
def startsWith (p base : Path) : Bool := base.components.isPrefixOf p.components

/-- the relative path that leads from `base` to `p`: `p` itself when `p` is absolute and `base`
is not; nothing when `base` is absolute and `p` is not, or when `base` climbs with `..` where the
two differ -/
def diff? (p base : Path) : Option Path :=
  if p.isAbsolute != base.isAbsolute then
    if p.isAbsolute then some p else none
  else (go p.components base.components []).map ofComponents
where
  go : List Component → List Component → List Component → Option (List Component)
    | [], [], acc => some acc
    | a :: as, [], acc => some (acc ++ a :: as)
    | [], _ :: bs, acc => go [] bs (acc ++ [.parent])
    | a :: as, b :: bs, acc =>
      if acc.isEmpty && a == b then go as bs acc
      else if b == .current then go as bs (acc ++ [a])
      else if b == .parent then none
      else some (acc ++ List.replicate (bs.length + 1) .parent ++ a :: as)

/-- the path relative to `base`, or the path itself when there is none -/
def relativeTo (p base : Path) : Path := (p.diff? base).getD p

/-- the text of a path with forward slashes only, as CMake reads paths -/
def cmakeText (p : Path) : String := Text.replaceChar p.text '\\' "/"

end Path

end BuildRecipe

/-
Reading a TOML document into its root table. Values are read by the lexical layer; arrays may
span lines and hold comments; inline tables stay on one line and are closed once written. The
document is a sequence of lines, each a blank line, a `[table]` or `[[array]]` header, or a
`key = value` pair, optionally followed by a comment.

Tables are put together under the TOML 1.0 rules: a key is defined once; a table named by a
header is defined once, though a header may first imply it by naming a table below it; a table
made by dotted keys takes no header of its own and is extended only by dotted keys; dotted keys
do not enter a table that a header defined; inline tables and arrays written as values take
nothing more; a `[[array]]` header appends a table, and
a header below it extends the last one.
-/
import BuildRecipe.Toml.Lexical

namespace BuildRecipe.Toml

/-- a table while a document is read: values, tables (with whether a header only implied it
and whether dotted keys made it) and arrays of tables -/
inductive Node where
  | value (v : Value)
  | table (implicit dotted : Bool) (entries : List (String × Node))
  | tables (items : List (List (String × Node)))
deriving Inhabited

mutual
/-- the value a finished node stands for -/
def Node.toValue : Node → Value
  | .value v => v
  | .table _ _ es => .table (entriesToValues es)
  | .tables items => .array (tablesToValues items)

/-- the values of finished entries -/
def entriesToValues : List (String × Node) → List (String × Value)
  | [] => []
  | (k, n) :: rest => (k, n.toValue) :: entriesToValues rest

/-- the values of finished tables of an array -/
def tablesToValues : List (List (String × Node)) → List Value
  | [] => []
  | es :: rest => .table (entriesToValues es) :: tablesToValues rest
end

/-- a table being filled: implied only, made by dotted keys, and its entries -/
structure Slot where
  implicit : Bool := false
  dotted : Bool := false
  entries : List (String × Node) := []
deriving Inhabited

/-- the entries with the one of key `k` replaced by `n` -/
def replaceEntry (es : List (String × Node)) (k : String) (n : Node) : List (String × Node) :=
  es.map fun (k', n') => if k' = k then (k', n) else (k', n')

/-- applies `f` to the table reached from `t` along `path`, making missing tables on the way
(implied, and made by dotted keys when `dotted`); an array of tables is entered at its last
table; dotted keys enter only tables that are implied, and no table written as a value -/
def atPath {α : Type} (dotted : Bool) (f : Slot → Option (Slot × α)) :
    List String → Slot → Option (Slot × α)
  | [], t => f t
  | k :: ks, t =>
    match t.entries.lookup k with
    | none => do
      let (t', a) ← atPath dotted f ks { implicit := true, dotted }
      pure ({ t with entries := t.entries ++ [(k, .table t'.implicit t'.dotted t'.entries)] }, a)
    | some (.table i d sub) =>
      if dotted && !i then none
      else do
        let (t', a) ← atPath dotted f ks { implicit := i, dotted := d, entries := sub }
        pure ({ t with entries := replaceEntry t.entries k (.table t'.implicit t'.dotted t'.entries) }, a)
    | some (.tables items) => do
      let last ← items.getLast?
      let (t', a) ← atPath dotted f ks { entries := last }
      pure ({ t with entries := replaceEntry t.entries k (.tables (items.dropLast ++ [t'.entries])) }, a)
    | some (.value _) => none

/-- puts `key = v` into the table at `path` below `t`: the target must be made by dotted keys
exactly when the key is dotted, and must not hold `key` yet -/
def defineKey (path : List String) (key : String) (v : Value) (t : Slot) : Option Slot :=
  (atPath true (fun s =>
    if s.dotted == path.isEmpty then none
    else if (s.entries.lookup key).isSome then none
    else some ({ s with entries := s.entries ++ [(key, .value v)] }, ())) path t).map (·.1)

/-- the inline table written by `key = value` pairs -/
def inlineTable (pairs : List (List String × Value)) : Option Value := do
  let root ← pairs.foldlM (fun t (path, v) => do
    let key ← path.getLast?
    defineKey path.dropLast key v t) ({} : Slot)
  pure (.table (entriesToValues root.entries))

mutual
/-- a value -/
def value : Nat → Scan Value
  | 0 => failure
  | fuel + 1 => do
    match ← get with
    | '"' :: '"' :: '"' :: rest =>
      set rest
      let _ ← newline?
      pure (.string (String.ofList (← mlBasicBody fuel)))
    | '"' :: rest => set rest; pure (.string (String.ofList (← basicBody fuel)))
    | '\'' :: '\'' :: '\'' :: rest =>
      set rest
      let _ ← newline?
      pure (.string (String.ofList (← mlLiteralBody fuel)))
    | '\'' :: rest => set rest; pure (.string (String.ofList (← literalBody)))
    | 't' :: 'r' :: 'u' :: 'e' :: rest => set rest; pure (.boolean true)
    | 'f' :: 'a' :: 'l' :: 's' :: 'e' :: rest => set rest; pure (.boolean false)
    | '[' :: rest => set rest; pure (.array (← arrayItems fuel))
    | '{' :: rest =>
      set (rest.dropWhile isWs)
      match ← get with
      | '}' :: rest' => set rest'; pure (.table [])
      | _ =>
        let pairs ← inlinePairs fuel
        match inlineTable pairs with
        | some v => pure v
        | none => failure
    | cs =>
      match dateTime? cs with
      | some (v, r) => set r; pure v
      | none =>
        match number? cs with
        | some (v, r) => set r; pure v
        | none => failure

/-- the items of an array after its opening bracket, through its closing bracket -/
def arrayItems : Nat → Scan (List Value)
  | 0 => failure
  | fuel + 1 => do
    modify dropBlank
    match ← get with
    | ']' :: rest => set rest; pure []
    | _ =>
      let v ← value fuel
      modify dropBlank
      match ← next with
      | ',' => pure (v :: (← arrayItems fuel))
      | ']' => pure [v]
      | _ => failure

/-- the pairs of an inline table after its opening brace, through its closing brace -/
def inlinePairs : Nat → Scan (List (List String × Value))
  | 0 => failure
  | fuel + 1 => do
    skipWs
    let k ← dottedKey fuel
    skipWs
    expect '='
    skipWs
    let v ← value fuel
    skipWs
    match ← next with
    | ',' => pure ((k, v) :: (← inlinePairs fuel))
    | '}' => pure [(k, v)]
    | _ => failure
end

/-- one line of a document -/
inductive Line where
  | blank
  | header (path : List String)
  | arrayHeader (path : List String)
  | pair (path : List String) (v : Value)
deriving Inhabited

/-- one line, through its line end -/
def line (fuel : Nat) : Scan Line := do
  skipWs
  let l ← match ← get with
    | '[' :: '[' :: rest => do
      set (rest.dropWhile isWs)
      let k ← dottedKey fuel
      skipWs
      expect ']'
      expect ']'
      pure (Line.arrayHeader k)
    | '[' :: rest => do
      set (rest.dropWhile isWs)
      let k ← dottedKey fuel
      skipWs
      expect ']'
      pure (Line.header k)
    | '#' :: _ | '\n' :: _ | '\r' :: _ | [] => pure Line.blank
    | _ => do
      let k ← dottedKey fuel
      skipWs
      expect '='
      skipWs
      let v ← value fuel
      pure (Line.pair k v)
  skipWs
  let _ ← comment?
  match ← get with
  | [] => pure l
  | _ => if ← newline? then pure l else failure

/-- all lines of the rest of a document -/
def lines : Nat → Scan (List Line)
  | 0 => failure
  | fuel + 1 => do
    if (← get).isEmpty then pure []
    else
      let l ← line fuel
      pure (l :: (← lines fuel))

/-- a document while it is assembled: the finished tables, and the section being read with its
path and whether it is an element of an array of tables -/
structure Assembly where
  root : Slot := {}
  current : Slot := {}
  path : List String := []
  isArray : Bool := false
deriving Inhabited

namespace Assembly

/-- puts the section being read into the document -/
def finish (a : Assembly) : Option Assembly := do
  match a.path.getLast? with
  | none => pure { a with root := { a.root with entries := a.current.entries }, current := {} }
  | some key =>
    let parent := a.path.dropLast
    let cur := a.current
    let (root', _) ← atPath false (fun s =>
      match s.entries.lookup key with
      | none =>
        if a.isArray then some ({ s with entries := s.entries ++ [(key, .tables [cur.entries])] }, ())
        else some ({ s with entries := s.entries ++ [(key, .table false false cur.entries)] }, ())
      | some (.tables items) =>
        if a.isArray then some ({ s with entries := replaceEntry s.entries key (.tables (items ++ [cur.entries])) }, ())
        else none
      | some (.table true _ _) =>
        if a.isArray then none
        else some ({ s with entries := replaceEntry s.entries key (.table false false cur.entries) }, ())
      | some _ => none) parent a.root
    pure { a with root := root', current := {}, path := [] }

/-- starts the section of a `[table]` header; a table only implied so far is taken over -/
def startTable (a : Assembly) (path : List String) : Option Assembly := do
  let a ← a.finish
  let key ← path.getLast?
  let (root', taken) ← atPath false (fun s =>
    match s.entries.lookup key with
    | none => some (s, [])
    | some (.table true false sub) =>
      some ({ s with entries := s.entries.filter (·.1 != key) }, sub)
    | some _ => none) path.dropLast a.root
  pure { root := root', current := { entries := taken }, path, isArray := false }

/-- starts the section of an `[[array]]` header -/
def startArray (a : Assembly) (path : List String) : Option Assembly := do
  let a ← a.finish
  let key ← path.getLast?
  let (root', _) ← atPath false (fun s =>
    match s.entries.lookup key with
    | none => some ({ s with entries := s.entries ++ [(key, .tables [])] }, ())
    | some (.tables _) => some (s, ())
    | some _ => none) path.dropLast a.root
  pure { root := root', current := {}, path, isArray := true }

/-- takes one line -/
def step (a : Assembly) : Line → Option Assembly
  | .blank => some a
  | .header path => a.startTable path
  | .arrayHeader path => a.startArray path
  | .pair path v => do
    let key ← path.getLast?
    let cur ← defineKey path.dropLast key v a.current
    pure { a with current := cur }

end Assembly

/-- the root table of a TOML document, or nothing when the text is no valid document -/
def parse (text : String) : Option (List (String × Value)) := do
  let cs := match text.toList with
    | c :: rest => if c.toNat = 0xFEFF then rest else c :: rest
    | [] => []
  let (ls, _) ← (lines (cs.length + 1)).run cs
  let a ← ls.foldlM Assembly.step {}
  let a ← a.finish
  pure (entriesToValues a.root.entries)

end BuildRecipe.Toml

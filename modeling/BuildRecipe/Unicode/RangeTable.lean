/-
Tables of Unicode character properties. A range table gives every code point a value: it lists
the first code point of each range in ascending order with the value of the range, and a code
point takes the value of the last range that starts at or before it. A keyed table gives a value
to some keys only. Both are written as text (entries separated by commas, a hexadecimal start or
key, then a colon and the value) and read once into arrays that a binary search looks up.
-/

namespace BuildRecipe.Unicode

/-- the value of a hexadecimal digit, lower or upper case -/
def hexDigit? (c : Char) : Option Nat :=
  if '0' ≤ c && c ≤ '9' then some (c.toNat - 48)
  else if 'a' ≤ c && c ≤ 'f' then some (c.toNat - 87)
  else if 'A' ≤ c && c ≤ 'F' then some (c.toNat - 55)
  else none

/-- the value of hexadecimal digits; other characters count as zero -/
def hexValue (cs : List Char) : Nat :=
  cs.foldl (fun acc c => acc * 16 + (hexDigit? c).getD 0) 0

/-- the value of decimal digits; other characters count as zero -/
def decValue (cs : List Char) : Nat :=
  cs.foldl (fun acc c => acc * 10 + (c.toNat - 48) % 10) 0

/-- the entries of a table text: the runs between commas, each split at its first colon -/
def entries (text : String) : List (List Char × List Char) :=
  (text.toList.splitOn ',').filterMap fun e =>
    if e.isEmpty then none
    else
      let key := e.takeWhile (· != ':')
      some (key, e.drop (key.length + 1))

/-- the index of the last of `keys` at or before `k`, searching between `lo` and `hi`, when the
key at `lo` is at or before `k` and the one at `hi` after it -/
def lastAtOrBefore (keys : Array Nat) (k : Nat) (lo hi : Nat) : Nat :=
  if lo + 1 < hi then
    let mid := (lo + hi) / 2
    if keys.getD mid 0 ≤ k then lastAtOrBefore keys k mid hi else lastAtOrBefore keys k lo mid
  else lo
termination_by hi - lo

/-- a table of values by ranges of code points -/
structure RangeTable where
  starts : Array Nat
  values : Array Nat
deriving Inhabited

namespace RangeTable

/-- reads a range table from entries `start:value`, the value in decimal -/
def ofText (text : String) : RangeTable :=
  let es := entries text
  { starts := (es.map fun (s, _) => hexValue s).toArray,
    values := (es.map fun (_, v) => decValue v).toArray }

/-- the value of the range a code point falls in; zero before the first range -/
def lookup (t : RangeTable) (c : Nat) : Nat :=
  if t.starts.getD 0 0 ≤ c then t.values.getD (lastAtOrBefore t.starts c 0 t.starts.size) 0 else 0

end RangeTable

/-- a table of values under some keys, sorted by key -/
structure KeyedTable (α : Type) where
  keys : Array Nat
  values : Array α
deriving Inhabited

namespace KeyedTable

/-- reads a keyed table from entries `key:value`, the key read with `key` and the value with
`value` -/
def ofText {α : Type} (key : List Char → Nat) (value : List Char → α) (text : String) :
    KeyedTable α :=
  let es := entries text
  { keys := (es.map fun (k, _) => key k).toArray, values := (es.map fun (_, v) => value v).toArray }

/-- the value under a key, if the key is in the table -/
def find? {α : Type} (t : KeyedTable α) (k : Nat) : Option α :=
  if t.keys.size == 0 then none
  else
    let i := lastAtOrBefore t.keys k 0 t.keys.size
    if t.keys.getD i 0 == k then t.values[i]? else none

end KeyedTable

/-- hexadecimal numbers separated by dots, such as a sequence of code points -/
def hexList (cs : List Char) : List Nat :=
  (cs.splitOn '.').filterMap fun p => if p.isEmpty then none else some (hexValue p)

end BuildRecipe.Unicode

/-
URL hosts. The host of a web scheme is read as an IPv6 address in brackets, or else
percent-decoded and put in the ASCII form of its domain name, which is then read as an IPv4
address when its last label is a number (decimal, octal with a leading `0`, or hexadecimal with
`0x`, the address possibly written with fewer than four parts). Other schemes keep their host as
written, percent-encoding what is not ASCII. IPv6 addresses are written with the first longest
run of two or more zero pieces shortened to `::`.
-/
import BuildRecipe.Url.Percent
import BuildRecipe.Domain.Ascii
import BuildRecipe.Text.Basic

namespace BuildRecipe.Url

/-- the host of a URL -/
inductive Host where
  /-- a domain name, in ASCII -/
  | domain (name : String)
  /-- an IPv4 address as a 32-bit number -/
  | ipv4 (address : Nat)
  /-- an IPv6 address as its eight 16-bit pieces -/
  | ipv6 (pieces : List Nat)
  /-- the host of another scheme, kept as written -/
  | verbatim (text : String)
  /-- no host name at all -/
  | empty
deriving DecidableEq, Repr, Inhabited

/-! ## IPv4 -/

/-- the value of digits in base `radix`, when every one is a digit of that base -/
def radixValue? (radix : Nat) (cs : List Char) : Option Nat :=
  cs.foldlM (fun acc c => do
    let d ← hexValue? c
    if d < radix then some (acc * radix + d) else none) 0

/-- a part of an IPv4 address: hexadecimal after `0x`, octal after a leading `0`, else
decimal; `0x` alone is zero -/
def ipv4Number? (cs : List Char) : Option Nat :=
  match cs with
  | [] => none
  | '0' :: x :: rest =>
    if x == 'x' || x == 'X' then (if rest.isEmpty then some 0 else radixValue? 16 rest)
    else radixValue? 8 (x :: rest)
  | _ => radixValue? 10 cs

/-- the labels of a host with one trailing empty label dropped -/
def labelsOf (host : String) : List String :=
  let parts := Text.splitAll host '.'
  if parts.length > 1 && parts.getLast? == some "" then parts.dropLast else parts

/-- whether a host ends in a number, so that it must be an IPv4 address -/
def endsInNumber (host : String) : Bool :=
  match (labelsOf host).getLast? with
  | some last =>
    (!last.isEmpty && last.toList.all Char.isDigit) || (ipv4Number? last.toList).isSome
  | none => false

/-- an IPv4 address: at most four parts, all but the last below 256, the last filling the
bytes that remain -/
def parseIpv4? (host : String) : Option Nat := do
  let parts := labelsOf host
  if parts.length > 4 then none
  let numbers ← parts.mapM fun p => ipv4Number? p.toList
  let last ← numbers.getLast?
  let front := numbers.dropLast
  if front.any (· > 255) then none
  if last ≥ Nat.pow 256 (5 - numbers.length) then none
  pure (front.zipIdx.foldl (fun acc (v, i) => acc + v * Nat.pow 256 (3 - i)) last)

/-- an IPv4 address in dotted decimal -/
def ipv4Text (a : Nat) : String :=
  ".".intercalate ([a / Nat.pow 2 24 % 256, a / Nat.pow 2 16 % 256, a / Nat.pow 2 8 % 256, a % 256].map toString)

/-! ## IPv6 -/

/-- the two pieces an IPv4 address at the end of an IPv6 address stands for -/
def ipv4Pieces? (cs : List Char) : Option (Nat × Nat) := do
  let parts := (Text.splitAll (String.ofList cs) '.').map String.toList
  if parts.length != 4 then none
  let ns ← parts.mapM fun p =>
    if p.isEmpty || !p.all Char.isDigit || (p.length > 1 && p.head? == some '0') then none
    else
      let v := p.foldl (fun acc d => acc * 10 + (d.toNat - 48)) 0
      if v > 255 then none else some v
  match ns with
  | [a, b, c, d] => some (a * 256 + b, c * 256 + d)
  | _ => none

/-- reads the pieces of an IPv6 address from `index` on, remembering where `::` stood -/
def ipv6Loop : Nat → List Char → List Nat → Nat → Option Nat → Option (List Nat × Nat × Option Nat)
  | 0, _, _, _, _ => none
  | _, [], addr, i, comp => some (addr, i, comp)
  | fuel + 1, c :: rest, addr, i, comp =>
    if i == 8 then none
    else if c == ':' then
      if comp.isSome then none else ipv6Loop fuel rest addr (i + 1) (some (i + 1))
    else
      let digits := ((c :: rest).takeWhile fun d => (hexValue? d).isSome).take 4
      let after := (c :: rest).drop digits.length
      let value := (radixValue? 16 digits).getD 0
      match after with
      | '.' :: _ =>
        if digits.isEmpty || i > 6 then none
        else do
          let (p, q) ← ipv4Pieces? (c :: rest)
          some (((addr.set i p).set (i + 1) q), i + 2, comp)
      | ':' :: more =>
        if digits.isEmpty || more.isEmpty then none
        else ipv6Loop fuel more (addr.set i value) (i + 1) comp
      | [] => if digits.isEmpty then none else some (addr.set i value, i + 1, comp)
      | _ => none

/-- an IPv6 address: eight pieces, or fewer with one `::` standing for the zeros between -/
def parseIpv6? (text : String) : Option (List Nat) := do
  let cs := text.toList
  let zeros := List.replicate 8 0
  let (addr, i, comp) ← match cs with
    | ':' :: ':' :: rest => ipv6Loop (cs.length + 1) rest zeros 1 (some 1)
    | ':' :: _ => none
    | _ => ipv6Loop (cs.length + 1) cs zeros 0 none
  match comp with
  | some k => some (addr.take k ++ List.replicate (8 - i) 0 ++ (addr.drop k).take (i - k))
  | none => if i == 8 then some addr else none

/-- the start and length of the first longest run of two or more zero pieces -/
def longestZeroRun (pieces : List Nat) : Option (Nat × Nat) :=
  let step := fun (acc : Option (Nat × Nat) × Nat × Nat) (pi : Nat × Nat) =>
    let (best, start, len) := acc
    let (p, i) := pi
    if p == 0 then
      let start := if len == 0 then i else start
      let len := len + 1
      let best := match best with
        | some (_, bl) => if len > bl && len ≥ 2 then some (start, len) else best
        | none => if len ≥ 2 then some (start, len) else none
      (best, start, len)
    else (best, start, 0)
  (pieces.zipIdx.foldl step (none, 0, 0)).1

/-- a piece in lower-case hexadecimal without leading zeros -/
def pieceText (p : Nat) : String := String.ofList (Nat.toDigits 16 p)

/-- an IPv6 address, its first longest run of zero pieces written `::` -/
def ipv6Text (pieces : List Nat) : String :=
  match longestZeroRun pieces with
  | none => ":".intercalate (pieces.map pieceText)
  | some (start, len) =>
    ":".intercalate ((pieces.take start).map pieceText) ++ "::" ++
    ":".intercalate ((pieces.drop (start + len)).map pieceText)

/-! ## Domains -/

/-- characters no host may hold -/
def isForbiddenHostChar (c : Char) : Bool :=
  c == '\x00' || c == '\t' || c == '\n' || c == '\r' || c == ' ' || c == '#' || c == '/' ||
  c == ':' || c == '<' || c == '>' || c == '?' || c == '@' || c == '[' || c == '\\' ||
  c == ']' || c == '^' || c == '|'

/-- the host of a web scheme -/
def parseSpecialHost? (text : String) : Option Host := do
  if text.startsWith "[" then
    if text.endsWith "]" && text.length ≥ 2 then
      Host.ipv6 <$> parseIpv6? (String.ofList ((text.toList.drop 1).dropLast))
    else none
  else
    let decoded ← decode? text
    let ascii ← (Domain.toAscii decoded).toOption
    if ascii.isEmpty then none
    else if endsInNumber ascii then Host.ipv4 <$> parseIpv4? ascii
    else some (.domain ascii)

/-- the host of another scheme: an IPv6 address in brackets, or the text with forbidden
characters refused and characters beyond ASCII percent-encoded -/
def parseOtherHost? (text : String) : Option Host :=
  if text.startsWith "[" then
    if text.endsWith "]" && text.length ≥ 2 then
      Host.ipv6 <$> parseIpv6? (String.ofList ((text.toList.drop 1).dropLast))
    else none
  else if text.toList.any isForbiddenHostChar then none
  else some (.verbatim (encode inControlSet text.toList))

/-- the text of a host -/
def Host.text : Host → String
  | .domain name => name
  | .ipv4 a => ipv4Text a
  | .ipv6 pieces => "[" ++ ipv6Text pieces ++ "]"
  | .verbatim t => t
  | .empty => ""

end BuildRecipe.Url

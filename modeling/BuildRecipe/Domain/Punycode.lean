/-
Punycode (RFC 3492), the encoding of a domain label's characters in ASCII letters, digits and
hyphens. Encoding writes the label's ASCII characters, a hyphen if there were any, then each
other code point, in ascending order, as a variable-length number of base-36 digits that says
how far to move and where to insert it. Decoding reverses that. It splits the input at its last
hyphen, except that a hyphen in first place keeps its place in the digits. Arithmetic is bounded
by 32 bits, and a number that would overflow them is refused.
-/

namespace BuildRecipe.Domain.Punycode

/-- the digit of value `d`: `a` to `z`, then `0` to `9` -/
def digit (d : Nat) : Char := if d < 26 then Char.ofNat (97 + d) else Char.ofNat (22 + d)

/-- the value of a digit, letters of either case first, then decimal digits -/
def digitValue? (c : Char) : Option Nat :=
  if 'a' ≤ c && c ≤ 'z' then some (c.toNat - 97)
  else if 'A' ≤ c && c ≤ 'Z' then some (c.toNat - 65)
  else if '0' ≤ c && c ≤ '9' then some (c.toNat - 22)
  else none

/-- the threshold of the digit at position `k` under a bias -/
def threshold (k bias : Nat) : Nat :=
  if k ≤ bias then 1 else if bias + 26 ≤ k then 26 else k - bias

theorem threshold_pos (k bias : Nat) : 1 ≤ threshold k bias := by
  unfold threshold
  split
  · omega
  · split <;> omega

theorem threshold_le (k bias : Nat) : threshold k bias ≤ 26 := by
  unfold threshold
  split
  · omega
  · split <;> omega

/-- divides a delta by 35 until it is at most 455, counting the steps in `k` -/
def shrink (delta k : Nat) : Nat × Nat :=
  if 455 < delta then shrink (delta / 35) (k + 36) else (delta, k)
termination_by delta
decreasing_by exact Nat.div_lt_self (by omega) (by omega)

/-- the next bias after a delta -/
def adapt (delta points : Nat) (first : Bool) : Nat :=
  let d := if first then delta / 700 else delta / 2
  let d := d + d / points
  let (d, k) := shrink d 0
  k + 36 * d / (d + 38)

/-- a delta written as a variable-length number -/
def number (bias k q : Nat) : List Char :=
  let t := threshold k bias
  if q < t then [digit q]
  else digit (t + (q - t) % (36 - t)) :: number bias (k + 36) ((q - t) / (36 - t))
termination_by q
decreasing_by
  have := threshold_pos k bias
  have := threshold_le k bias
  calc (q - threshold k bias) / (36 - threshold k bias)
      ≤ q - threshold k bias := Nat.div_le_self _ _
    _ < q := by omega

/-- the state of the encoder: output, delta, bias and characters handled -/
structure Encoder where
  out : List Char
  delta : Nat
  bias : Nat
  handled : Nat

/-- the code points of a label beyond ASCII, ascending and without repeats -/
def codePoints (cs : List Char) : List Nat :=
  ((cs.map Char.toNat).filter (· ≥ 128)).mergeSort (· ≤ ·) |>.eraseDups

/-- the Punycode form of a label -/
def encode (cs : List Char) : String :=
  let basic := cs.filter (·.toNat < 128)
  let b := basic.length
  let init : Encoder :=
    { out := basic ++ (if b > 0 then ['-'] else []), delta := 0, bias := 72, handled := b }
  let (st, _) := (codePoints cs).foldl (fun (st, n) m =>
    let st := { st with delta := st.delta + (m - n) * (st.handled + 1) }
    let st := cs.foldl (fun st c =>
      if c.toNat < m then { st with delta := st.delta + 1 }
      else if c.toNat == m then
        { out := st.out ++ number st.bias 36 st.delta, delta := 0,
          bias := adapt st.delta (st.handled + 1) (st.handled == b),
          handled := st.handled + 1 }
      else st) st
    ({ st with delta := st.delta + 1 }, m + 1)) (init, 128)
  String.ofList st.out

/-- the largest value of 32 bits -/
def maxWord : Nat := Nat.pow 2 32 - 1

/-- reads a variable-length number at the front of the input, adding it to `i`: the new `i` and
the rest of the input; none on a bad digit, an early end or an overflow of 32 bits -/
def readNumber (bias : Nat) : List Char → Nat → Nat → Nat → Option (Nat × List Char)
  | [], _, _, _ => none
  | c :: rest, k, w, i =>
    match digitValue? c with
    | none => none
    | some d =>
      if w == 0 || d > (maxWord - i) / w then none
      else
        let t := threshold k bias
        if d < t then some (i + d * w, rest)
        else if w > maxWord / (36 - t) then none
        else readNumber bias rest (k + 36) (w * (36 - t)) (i + d * w)

theorem readNumber_length (bias : Nat) : ∀ (cs : List Char) (k w i : Nat) (r : Nat × List Char),
    readNumber bias cs k w i = some r → r.2.length < cs.length
  | [], _, _, _, _, h => by simp [readNumber] at h
  | c :: rest, k, w, i, r, h => by
    unfold readNumber at h
    split at h
    · simp at h
    · split at h
      · simp at h
      · dsimp only at h
        split at h
        · simp only [Option.some.injEq] at h
          subst h
          simp
        · split at h
          · simp at h
          · have := readNumber_length bias rest _ _ _ r h
            simp only [List.length_cons]
            omega

/-- the code points decoded so far and the state of the decoder -/
structure Decoder where
  out : List Char
  code : Nat
  bias : Nat
  i : Nat

/-- decodes the numbers of the input one by one, inserting a code point for each -/
def decodeLoop (st : Decoder) : List Char → Option (List Char)
  | [] => some st.out
  | c :: rest =>
    match h : readNumber st.bias (c :: rest) 36 1 st.i with
    | none => none
    | some (i, more) =>
      let points := st.out.length + 1
      let code := st.code + i / points
      let pos := i % points
      if code > 0x10FFFF || (0xD800 ≤ code && code ≤ 0xDFFF) then none
      else
        decodeLoop { out := st.out.insertIdx pos (Char.ofNat code), code,
                     bias := adapt (i - st.i) points (st.i == 0), i := pos + 1 } more
termination_by cs => cs.length
decreasing_by exact readNumber_length st.bias (c :: rest) 36 1 st.i (i, more) h

/-- the basic characters and the digits of an encoded label: split at the last hyphen, except
that a hyphen in first place leaves everything to the digits -/
def splitBasic (cs : List Char) : List Char × List Char :=
  let k := (cs.reverse.takeWhile (· != '-')).length
  if k + 1 ≥ cs.length then ([], cs)
  else (cs.take (cs.length - k - 1), cs.drop (cs.length - k))

/-- the label an encoded label stands for, when it decodes -/
def decode? (cs : List Char) : Option (List Char) :=
  let (basic, digits) := splitBasic cs
  if basic.any (·.toNat ≥ 128) then none
  else decodeLoop { out := basic, code := 128, bias := 72, i := 0 } digits

end BuildRecipe.Domain.Punycode

/-
Normalization Form C. Every character is replaced by its full canonical decomposition; each run
of combining marks is put in canonical order, a stable sort by combining class that leaves the
starters in place; then canonical composition joins each starter with every later character
that is not blocked from it and forms a primary composite with it. A character is blocked from
the starter when a character between them is a starter or has a class at least its own. Hangul
syllables decompose into their jamo and compose back by arithmetic.
-/
import BuildRecipe.Unicode.CombiningClass
import BuildRecipe.Unicode.Decomposition

namespace BuildRecipe.Unicode

/-- the first Hangul syllable -/
def syllableBase : Nat := 0xAC00

/-- the first leading consonant jamo -/
def leadBase : Nat := 0x1100

/-- the first vowel jamo -/
def vowelBase : Nat := 0x1161

/-- the code point before the first trailing consonant jamo, standing for no trailing
consonant -/
def trailBase : Nat := 0x11A7

/-- the number of leading consonants -/
def leadCount : Nat := 19

/-- the number of vowels -/
def vowelCount : Nat := 21

/-- the number of trailing consonants, with none counted -/
def trailCount : Nat := 28

/-- the number of Hangul syllables -/
def syllableCount : Nat := 11172

/-- whether a code point is a Hangul syllable -/
def isSyllable (c : Nat) : Bool := syllableBase ≤ c && c < syllableBase + syllableCount

/-- the jamo of a Hangul syllable -/
def syllableJamo (c : Nat) : List Nat :=
  let i := c - syllableBase
  let lead := leadBase + i / (vowelCount * trailCount)
  let vowel := vowelBase + i % (vowelCount * trailCount) / trailCount
  if i % trailCount == 0 then [lead, vowel] else [lead, vowel, trailBase + i % trailCount]

/-- the full canonical decomposition of a code point, itself when it has none -/
def decompose (c : Nat) : List Nat :=
  if isSyllable c then syllableJamo c else (decomposition? c).getD [c]

/-- the composite of two code points, Hangul jamo included -/
def compose? (a b : Nat) : Option Nat :=
  if leadBase ≤ a && a < leadBase + leadCount && vowelBase ≤ b && b < vowelBase + vowelCount then
    some (syllableBase + ((a - leadBase) * vowelCount + (b - vowelBase)) * trailCount)
  else if isSyllable a && (a - syllableBase) % trailCount == 0 && trailBase < b &&
      b < trailBase + trailCount then
    some (a + (b - trailBase))
  else composition? a b

/-- a run of combining marks in canonical order -/
def sortMarks (run : List Nat) : List Nat :=
  run.mergeSort fun a b => combiningClass a ≤ combiningClass b

/-- the code points with each run of combining marks in canonical order -/
def reorder (cs : List Nat) : List Nat :=
  let (done, run) := cs.foldl (fun (acc : Array Nat × List Nat) c =>
    if combiningClass c == 0 then (acc.1 ++ (sortMarks acc.2.reverse).toArray |>.push c, [])
    else (acc.1, c :: acc.2)) (#[], [])
  (done ++ (sortMarks run.reverse).toArray).toList

/-- the state of canonical composition: the output so far, where its last starter stands, and
the combining class of the last character kept after that starter (zero when none) -/
structure Composition where
  out : Array Nat
  starter : Option Nat
  lastClass : Nat

/-- composition takes one more character: it joins the last starter when it is not blocked and
the two compose, and is kept otherwise -/
def Composition.step (st : Composition) (c : Nat) : Composition :=
  let cls := combiningClass c
  let keep : Composition :=
    { out := st.out.push c, starter := if cls == 0 then some st.out.size else st.starter,
      lastClass := cls }
  match st.starter with
  | some i =>
    match compose? (st.out.getD i 0) c with
    | some p =>
      if st.lastClass < cls || st.lastClass == 0 then { st with out := st.out.setIfInBounds i p }
      else keep
    | none => keep
  | none => keep

/-- canonical composition of code points in canonical order -/
def composeAll (cs : List Nat) : List Nat :=
  (cs.foldl Composition.step { out := #[], starter := none, lastClass := 0 }).out.toList

/-- the Normalization Form C of a text -/
def nfc (cs : List Char) : List Char :=
  (composeAll (reorder (cs.flatMap fun c => decompose c.toNat))).map Char.ofNat

/-- whether a text is in Normalization Form C -/
def isNfc (cs : List Char) : Bool := nfc cs == cs

end BuildRecipe.Unicode

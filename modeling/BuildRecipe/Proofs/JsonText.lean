/-
The JSON reader reads back what the writer writes. A string written by `quote` is read back as
that string, whatever its characters: each escape the writer makes, the short ones and the
`\u00XX` of a control character, is read back as the character it stands for
(`stringBody_escapeChar`), so the whole body is read up to its closing quote
(`stringBody_escaped`, `value_quote`). The spacing between tokens, spaces and line feeds, is passed
over (`skipWs_spacing`), and the reader's steps after a value, on a comma or on a closing bracket,
are stated once for arrays (`items_next`, `items_last`) and for objects (`members_next`,
`members_last`, `value_object`, `value_array`); a written document is read by composing them.
-/
import BuildRecipe.JsonData

namespace BuildRecipe.JsonData

/-! ## Strings -/

/-- the four hexadecimal digits of a control character's escape are read back as its code -/
theorem hex4?_control : ∀ n < 32,
    hex4? ['0', '0', hexDigitLower (n / 16), hexDigitLower (n % 16)] = some n := by
  decide

/-- one character's escape is read back as the character, with one step of fuel -/
theorem stringBody_escapeChar (lenient : Bool) (fuel : Nat) (c : Char) (rest : List Char) :
    stringBody lenient (fuel + 1) ((escapeChar c).toList ++ rest) =
      (stringBody lenient fuel rest).map (Prod.map (c :: ·) id) := by
  unfold escapeChar
  split
  any_goals (simp [stringBody]; rfl)
  rename_i hquote hbackslash _ _ _ _ _
  split
  · -- a control character without a short escape: `\u00XX`, never a surrogate
    rename_i hsmall
    have hsurrogate : ¬ 0xD800 ≤ c.toNat := by omega
    have hlow : ¬ 0xDC00 ≤ c.toNat := by omega
    simp [stringBody, hex4?_control c.toNat hsmall, hsurrogate, hlow]
    rfl
  · -- any other character stands for itself
    rename_i hlarge
    simp only [String.toList_singleton, List.cons_append, List.nil_append, stringBody, beq_iff_eq]
    rw [if_neg hquote, if_neg hbackslash, if_neg (by simpa using hlarge)]
    rfl

theorem escapeChar_toList_ne_nil (c : Char) : (escapeChar c).toList ≠ [] := by
  unfold escapeChar
  split
  any_goals simp
  split <;> simp

/-- escaping never shortens a text -/
theorem length_le_escaped (cs : List Char) :
    cs.length ≤ ((cs.map escapeChar).flatMap String.toList).length := by
  induction cs with
  | nil => simp
  | cons c cs ih =>
    have := List.length_pos_iff.mpr (escapeChar_toList_ne_nil c)
    simp only [List.map_cons, List.flatMap_cons, List.length_append, List.length_cons]
    omega

/-- an escaped text is read back up to its closing quote, given a step of fuel per character -/
theorem stringBody_escaped (lenient : Bool) (cs rest : List Char) (fuel : Nat)
    (h : cs.length < fuel) :
    stringBody lenient fuel ((cs.map escapeChar).flatMap String.toList ++ '"' :: rest) =
      some (cs, rest) := by
  induction cs generalizing fuel with
  | nil =>
    obtain ⟨f, rfl⟩ : ∃ f, fuel = f + 1 := ⟨fuel - 1, by simp at h; omega⟩
    simp [stringBody]
  | cons c cs ih =>
    obtain ⟨f, rfl⟩ : ∃ f, fuel = f + 1 := ⟨fuel - 1, by simp at h; omega⟩
    rw [List.map_cons, List.flatMap_cons, List.append_assoc, stringBody_escapeChar,
      ih f (by simp at h; omega)]
    rfl

theorem toList_quote (s : String) :
    (quote s).toList = '"' :: ((s.toList.map escapeChar).flatMap String.toList ++ ['"']) := by
  simp [quote, String.toList_join]

theorem skipWs_quote (s : String) (rest : List Char) :
    skipWs ((quote s).toList ++ rest) = (quote s).toList ++ rest := by
  simp [toList_quote, skipWs]

/-- the escaped body of a written string is read back through its closing quote; the reader's
fuel for it is the length of the input, which the escaped body never falls short of -/
theorem stringBody_quote (lenient : Bool) (s : String) (rest : List Char) :
    stringBody lenient
        (((s.toList.map escapeChar).flatMap String.toList ++ '"' :: rest).length + 1)
        ((s.toList.map escapeChar).flatMap String.toList ++ '"' :: rest) =
      some (s.toList, rest) := by
  have hlen := length_le_escaped s.toList
  exact stringBody_escaped _ _ _ _ (by simp only [List.length_append, List.length_cons]; omega)

/-- a written string is read back as itself -/
theorem value_quote (fuel depth : Nat) (s : String) (rest : List Char) :
    value (fuel + 1) depth .whole ((quote s).toList ++ rest) = some (.string s, rest) := by
  rw [value, skipWs_quote, toList_quote]
  simp only [List.cons_append, List.append_assoc]
  rw [stringBody_quote]
  simp [Shape.isPassedOver]

/-- a document that is one written string reads as that string -/
theorem parse?_quote (s : String) : parse? (quote s) = some (.string s) := by
  have hread := value_quote (2 * (quote s).toList.length + 1) maxDepth s []
  rw [List.append_nil] at hread
  simp only [parse?, parseAs?, hread]
  rfl

/-! ## Spacing between tokens -/

/-- the spacing between the tokens of a written document: spaces and line feeds -/
def Spacing (ws : List Char) : Prop := ∀ c ∈ ws, c = ' ' ∨ c = '\n'

theorem skipWs_spacing {ws : List Char} (hws : Spacing ws) (cs : List Char) :
    skipWs (ws ++ cs) = skipWs cs := by
  induction ws with
  | nil => rfl
  | cons c ws ih =>
    have hrest : Spacing ws := fun d hd => hws d (.tail _ hd)
    -- a space or a line feed is dropped, then the rest of the spacing
    rcases hws c (.head _) with rfl | rfl <;> exact ih hrest

theorem value_spacing {ws : List Char} (hws : Spacing ws) (fuel depth : Nat) (shape : Shape)
    (cs : List Char) : value fuel depth shape (ws ++ cs) = value fuel depth shape cs := by
  cases fuel with
  | zero => rfl
  | succ fuel => simp only [value, skipWs_spacing hws]

theorem members_spacing {ws : List Char} (hws : Spacing ws) (fuel depth : Nat) (shape : Shape)
    (cs : List Char) : members fuel depth shape (ws ++ cs) = members fuel depth shape cs := by
  cases fuel with
  | zero => rfl
  | succ fuel => simp only [members, skipWs_spacing hws]

/-! ## Arrays and objects, one step after a value -/

section Steps

variable {fuel depth : Nat} {v : Value} {cs r r' r'' : List Char}

/-- after an item, a comma goes on to the next one -/
theorem items_next (hv : value fuel depth .whole cs = some (v, r)) (hsep : skipWs r = ',' :: r') :
    items (fuel + 1) depth .whole cs = (items fuel depth .whole r').map (Prod.map (v :: ·) id) := by
  simp only [items, hv, hsep, Option.bind_eq_bind, Option.bind_some]
  rfl

/-- after an item, a closing bracket ends the array -/
theorem items_last (hv : value fuel depth .whole cs = some (v, r)) (hend : skipWs r = ']' :: r') :
    items (fuel + 1) depth .whole cs = some ([v], r') := by
  simp only [items, hv, hend, Option.bind_eq_bind, Option.bind_some]

/-- after a written key, a colon and a value, a comma goes on to the next member -/
theorem members_next (k : String) (hv : value fuel depth .whole r = some (v, r'))
    (hsep : skipWs r' = ',' :: r'') :
    members (fuel + 1) depth .whole ((quote k).toList ++ ':' :: r) =
      (members fuel depth .whole r'').map (Prod.map ((k, v) :: ·) id) := by
  rw [members, skipWs_quote, toList_quote]
  simp only [List.cons_append, List.append_assoc]
  rw [stringBody_quote]
  simp only [skipWs] at hsep
  simp [skipWs, Shape.member, Shape.isPassedOver, hv, hsep]
  rfl

/-- after a written key, a colon and a value, a closing brace ends the object -/
theorem members_last (k : String) (hv : value fuel depth .whole r = some (v, r'))
    (hend : skipWs r' = '}' :: r'') :
    members (fuel + 1) depth .whole ((quote k).toList ++ ':' :: r) = some ([(k, v)], r'') := by
  rw [members, skipWs_quote, toList_quote]
  simp only [List.cons_append, List.append_assoc]
  rw [stringBody_quote]
  simp only [skipWs] at hend
  simp [skipWs, Shape.member, Shape.isPassedOver, hv, hend]

/-- an object whose first member begins with its key is read through its members, one level
deeper -/
theorem value_object {ms : List (String × Value)} (hkey : (skipWs r).head? = some '"')
    (hm : members fuel depth .whole r = some (ms, r')) :
    value (fuel + 1) (depth + 1) .whole ('{' :: r) = some (.object ms, r') := by
  obtain ⟨t, ht⟩ : ∃ t, skipWs r = '"' :: t := List.head?_eq_some_iff.mp hkey
  simp only [skipWs] at ht
  rw [value]
  simp [skipWs, Shape.isPassedOver, ht, hm]

/-- an array whose first item is an object is read through its items, one level deeper -/
theorem value_array {vs : List Value} (hitem : (skipWs r).head? = some '{')
    (hi : items fuel depth .whole r = some (vs, r')) :
    value (fuel + 1) (depth + 1) .whole ('[' :: r) = some (.array vs, r') := by
  obtain ⟨t, ht⟩ : ∃ t, skipWs r = '{' :: t := List.head?_eq_some_iff.mp hitem
  simp only [skipWs] at ht
  rw [value]
  simp [skipWs, Shape.isPassedOver, Shape.item, ht, hi]

end Steps

end BuildRecipe.JsonData

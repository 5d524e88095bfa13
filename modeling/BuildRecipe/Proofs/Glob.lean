/-
The files below a folder, found by a glob. For a folder written as a plain path whose names hold
no wildcard or bracket (`Literal`), the pattern `<folder>/**/*` reads as the folder's names taken
literally, then `**` and `*` (`parse_descendants`). A search for it in a well-formed tree, from a
folder that is a directory, finds exactly the paths of the entries below the folder
(`mem_search_descendants`): the literal names lead to the folder, and from there `**` enters every
directory while `*` takes every entry met.

The search runs on fuel. Each literal name takes two steps and each level below the folder two
more, and below a folder there are fewer levels than entries: the entries below a child are fewer
than those below its parent (`below_child_lt`), so the fuel the search is given is enough.
-/
import BuildRecipe.FileTree.Glob
import BuildRecipe.Proofs.FileTree

namespace BuildRecipe.Glob

open BuildRecipe.Path FileTree

/-- a name without the characters that make wildcards or brackets in a glob pattern -/
def Literal (s : String) : Prop := ∀ c ∈ s.toList, c ≠ '?' ∧ c ≠ '*' ∧ c ≠ '['

-- decided by the characters of the name: the instance over all characters would enumerate them
instance (s : String) : Decidable (Literal s) := List.decidableBAll _ s.toList

/-! ## Reading the pattern -/

/-- a character that is no wildcard and opens no bracket stands for itself -/
theorem tokenize_char (prev : Option Char) (pos : Nat) {c : Char} (rest : List Char)
    (hc : c ≠ '?' ∧ c ≠ '*' ∧ c ≠ '[') :
    tokenize prev pos (c :: rest) = (Token.char c :: ·) <$> tokenize (some c) (pos + 1) rest := by
  obtain ⟨h1, h2, h3⟩ := hc
  rw [tokenize] <;> simp_all

theorem tokenize_literal (cs : List Char) (h : ∀ c ∈ cs, c ≠ '?' ∧ c ≠ '*' ∧ c ≠ '[')
    (prev : Option Char) (pos : Nat) : tokenize prev pos cs = .ok (cs.map .char) := by
  induction cs generalizing prev pos with
  | nil => rw [tokenize]; rfl
  | cons c cs ih =>
    rw [tokenize_char prev pos cs (h c (by simp)), ih (fun c hc => h c (by simp [hc]))]
    rfl

/-- literal characters before the rest of a pattern are read one by one -/
theorem tokenize_literal_concat (cs : List Char) (c : Char) (rest : List Char)
    (h : ∀ x ∈ cs ++ [c], x ≠ '?' ∧ x ≠ '*' ∧ x ≠ '[') (prev : Option Char) (pos : Nat) :
    tokenize prev pos (cs ++ c :: rest) =
      (((cs ++ [c]).map .char) ++ ·) <$> tokenize (some c) (pos + cs.length + 1) rest := by
  induction cs generalizing prev pos with
  | nil =>
    rw [List.nil_append, tokenize_char prev pos rest (h c (by simp))]
    rfl
  | cons d cs ih =>
    rw [List.cons_append, tokenize_char prev pos _ (h d (by simp)),
      ih (fun x hx => h x (by simp_all)) (some d) (pos + 1), Functor.map_map,
      show pos + 1 + cs.length + 1 = pos + (d :: cs).length + 1 by simp; omega]
    rfl

/-- the tail `**/*` after a separator: any number of directories, then any name -/
theorem tokenize_descendants (pos : Nat) :
    tokenize (some '/') pos ['*', '*', '/', '*'] = .ok [.anyRecursive, .anySequence] := by
  simp [tokenize, startsComponent, Functor.map, Except.map]

/-- a component that matches one name, taken literally -/
def literalComponent (s : String) : Component := { tokens := s.toList.map .char, recursive := false }

/-- the component `**` -/
def recursiveComponent : Component := { tokens := [.anyRecursive], recursive := true }

/-- the component `*` -/
def anyComponent : Component := { tokens := [.anySequence], recursive := false }

/-- the pattern `<folder>/**/*` read for a folder of literal names -/
def descendants (S : List String) : Pattern where
  components := (S.map literalComponent ++ [recursiveComponent, anyComponent]).toArray
  absolute := true
  requireDir := false

theorem parse_literal {s : String} (h : Literal s) : Component.parse s = .ok (literalComponent s) := by
  simp only [Component.parse, tokenize_literal s.toList h]
  simp [bind, Except.bind, pure, Except.pure, literalComponent]

theorem mapM_parse_literal (l : List String) (h : ∀ m ∈ l, Literal m) :
    l.mapM Component.parse = .ok (l.map literalComponent) := by
  induction l with
  | nil => rfl
  | cons m l ih =>
    simp [List.mapM_cons, parse_literal (h m (by simp)), ih (fun m hm => h m (by simp [hm])),
      bind, Except.bind, pure, Except.pure]

theorem mapM_parse_descendants :
    ["**", "*"].mapM Component.parse = .ok [recursiveComponent, anyComponent] := by
  simp [Component.parse, tokenize, startsComponent, List.mapM_cons, bind, Except.bind, pure,
    Except.pure, recursiveComponent, anyComponent]

theorem mapM_char {g : Token → Option Char} (hg : ∀ c, g (.char c) = some c) (cs : List Char) :
    (cs.map Token.char).mapM g = some cs := by
  induction cs with
  | nil => rfl
  | cons c cs ih => simp [List.mapM_cons, hg, ih]

theorem literal?_literalComponent (s : String) : (literalComponent s).literal? = some s := by
  rw [Component.literal?, literalComponent, mapM_char (fun _ => rfl)]
  simp

theorem matchTokens_anySequence (cs : List Char) : matchTokens [.anySequence] cs = true := by
  induction cs with
  | nil => simp [matchTokens]
  | cons c cs ih =>
    rw [matchTokens]
    simp [ih]

/-- the text of the pattern: the folder's key, a separator, then `**/*` -/
theorem text_join_descendants {S : List String} (hS : ∀ m ∈ S, PlainName m) (hne : S ≠ []) :
    ((ofLocation S).join ⟨"**/*"⟩).text = locationKey S ++ "/" ++ "**/*" := by
  rw [join, if_neg (by rw [isAbsolute, startsWith_slash_iff]; decide), text_ofLocation_ne_empty,
    Bool.false_or, if_neg (by rw [text_ofLocation, endsWith_locationKey hS hne]; decide)]
  rfl

/-- the pattern `<folder>/**/*` for a plain folder whose text holds no wildcard reads as its names
taken literally, then `**` and `*` -/
theorem parse_descendants {S : List String} (hS : ∀ m ∈ S, PlainName m)
    (hlit : Literal (locationKey S)) (hne : S ≠ []) :
    Pattern.parse ((ofLocation S).join ⟨"**/*"⟩).text = .ok (descendants S) := by
  rw [text_join_descendants hS hne]
  -- the whole text reads: literal characters up to the last separator, then `**/*`
  have hkey : ∀ x ∈ (locationKey S).toList ++ ['/'], x ≠ '?' ∧ x ≠ '*' ∧ x ≠ '[' := by
    intro x hx
    rcases List.mem_append.mp hx with hx | hx
    · exact hlit x hx
    · rw [List.mem_singleton.mp hx]
      decide
  have hts : ∃ ts, tokenize none 0 (locationKey S ++ "/" ++ "**/*").toList = .ok ts := by
    rw [show (locationKey S ++ "/" ++ "**/*").toList =
        (locationKey S).toList ++ '/' :: ['*', '*', '/', '*'] by simp [String.toList_append],
      tokenize_literal_concat _ _ _ hkey, tokenize_descendants]
    exact ⟨_, rfl⟩
  obtain ⟨ts, hts⟩ := hts
  have habs : (locationKey S ++ "/" ++ "**/*").startsWith "/" = true := by
    rw [startsWith_slash_iff]
    simp [String.toList_append, toList_locationKey]
  have hdir : (locationKey S ++ "/" ++ "**/*").endsWith "/" = false := by
    rw [Bool.eq_false_iff, ne_eq, endsWith_slash_iff]
    simp [String.toList_append]
  -- after the root, the body is the names, `**` and `*` between separators
  have hbody : String.ofList ((locationKey S ++ "/" ++ "**/*").toList.drop 1) =
      "/".intercalate (S ++ ["**", "*"]) := by
    have hnames : String.ofList (['/'].intercalate (S.map String.toList)) = "/".intercalate S := by
      rw [← show "/".toList = ['/'] from rfl, ← String.toList_intercalate, String.ofList_toList]
    rw [String.intercalate_append_of_ne_nil hne (by simp), locationKey]
    simp [String.toList_append, hnames, String.append_assoc]
  have hnonempty : ("/".intercalate (S ++ ["**", "*"])).isEmpty = false := by
    rw [String.intercalate_append_of_ne_nil hne (by simp)]
    simp [← String.toList_eq_nil_iff, String.toList_append]
  have hparts : componentTexts ("/".intercalate (S ++ ["**", "*"])) = S ++ ["**", "*"] := by
    have hsplit : Text.splitAll ("/".intercalate (S ++ ["**", "*"])) '/' = S ++ ["**", "*"] := by
      rw [Text.splitAll, String.toList_intercalate, show "/".toList = ['/'] from rfl,
        List.splitOn_intercalate]
      · simp [Function.comp_def]
      · simpa [or_imp, forall_and] using fun m hm => (hS m hm).slash_not_mem
      · simp
    simp [componentTexts, hsplit]
  have hcomps : (S ++ ["**", "*"]).mapM Component.parse =
      .ok (S.map literalComponent ++ [recursiveComponent, anyComponent]) := by
    have hnames : ∀ m ∈ S, Literal m := fun m hm x hx =>
      hlit x (mem_toList_locationKey.mpr (.inr ⟨m, hm, hx⟩))
    rw [List.mapM_append, mapM_parse_literal S hnames, mapM_parse_descendants]
    rfl
  simp only [Pattern.parse, hts, habs, hdir, ↓reduceIte, hbody, hparts, hcomps, hnonempty,
    bind, Except.bind, pure, Except.pure, Bool.and_false, Bool.false_eq_true]
  rfl

/-! ## Searching -/

section Search

variable {t : FileTree} {S : List String}

@[simp] theorem size_descendants (S : List String) :
    (descendants S).components.size = S.length + 2 := by
  simp [descendants]

theorem getElem?_descendants_literal (done todo : List String) (s : String) :
    (descendants (done ++ s :: todo)).components[done.length]? = some (literalComponent s) := by
  simp [descendants]

@[simp] theorem getElem?_descendants_recursive (S : List String) :
    (descendants S).components[S.length]? = some recursiveComponent := by
  simp [descendants]

@[simp] theorem getElem?_descendants_any (S : List String) :
    (descendants S).components[S.length + 1]? = some anyComponent := by
  simp [descendants]

/-- the `**` of the pattern stands alone: the component after it is `*` -/
theorem lastRecursive_descendants (S : List String) :
    lastRecursive (descendants S) (descendants S).components.size S.length = S.length := by
  rw [size_descendants, show S.length + 2 = (S.length + 1) + 1 from rfl, lastRecursive,
    getElem?_descendants_any]
  rfl

/-- a name in a plain directory is reached by joining it -/
theorem childPath_ofLocation {D : List String} {n : String} (hD : ∀ m ∈ D, PlainName m)
    (hn : PlainName n) : childPath (ofLocation D) n = ofLocation (D ++ [n]) := by
  have hdot : ((ofLocation D).text == ".") = false := by
    rw [beq_eq_false_iff_ne, text_ofLocation, ne_eq, String.ext_iff, toList_locationKey]
    simp
  rw [childPath, hdot, if_neg Bool.false_ne_true, ofString_eq, join_ofLocation hD hn]

variable (hwf : t.WellFormed)
include hwf

/-- each literal name of the pattern leads one directory further down the folder, two steps of
fuel each -/
theorem fill_literal (done todo : List String) (hplain : ∀ m ∈ done ++ todo, PlainName m)
    (hdir : t.at? (done ++ todo) = some .directory) (f : Nat) :
    fill t (descendants (done ++ todo)) (f + 2 * todo.length) done.length (ofLocation done) =
      fill t (descendants (done ++ todo)) f (done ++ todo).length (ofLocation (done ++ todo)) := by
  induction todo generalizing done with
  | nil => simp
  | cons s todo ih =>
    have hdone : ∀ m ∈ done, PlainName m := fun m hm => hplain m (by simp [hm])
    have hs : PlainName s := hplain s (by simp)
    have hnext : t.at? (done ++ [s]) = some .directory := by
      by_cases htodo : todo = []
      · subst htodo
        simpa using hdir
      · exact hwf.dirAbove hplain (by simp [hdir]) _ (by simp [List.prefix_append_right_inj])
          (by simpa using htodo)
    have hexists : t.exists? (ofLocation (done ++ [s])) = true := by
      rw [exists?_ofLocation hwf (by simpa [or_imp, forall_and] using ⟨hdone, hs⟩), hnext]
      rfl
    have hspecial : (s == "." || s == "..") = false := by simp [hs.2.2.1, hs.2.2.2]
    have hsize : (done.length + 1 == (descendants (done ++ s :: todo)).components.size) = false := by
      simp only [size_descendants, List.length_append, List.length_cons, beq_eq_false_iff_ne]
      omega
    rw [show f + 2 * (s :: todo).length = (f + 2 * todo.length + 1) + 1 by simp; omega, fill,
      getElem?_descendants_literal]
    simp only [literal?_literalComponent, hspecial, childPath_ofLocation hdone hs, hexists,
      Bool.false_and, Bool.not_false, Bool.true_and, Bool.false_or, ↓reduceIte]
    rw [accept, hsize, if_neg Bool.false_ne_true]
    have := ih (done ++ [s]) (by simpa using hplain) (by simpa using hdir)
    simp only [List.append_assoc, List.singleton_append, List.length_append, List.length_singleton]
      at this
    rwa [List.length_append]

/-- the number of entries below a location -/
def below (t : FileTree) (D : List String) : Nat :=
  (t.entries.entries.filter fun e => (dirKey D).toList.isPrefixOf e.1.toList).length

omit hwf in
theorem below_le (D : List String) : below t D ≤ t.entries.entries.length :=
  List.length_filter_le _ _

/-- below a child there are fewer entries than below its parent: the child itself is one of
these -/
theorem below_child_lt {D : List String} {n : String} (hplain : ∀ m ∈ D ++ [n], PlainName m)
    (hsome : (t.at? (D ++ [n])).isSome) : below t (D ++ [n]) < below t D := by
  have hD : ∀ m ∈ D, PlainName m := fun m hm => hplain m (by simp [hm])
  have hkey : locationKey (D ++ [n]) = dirKey D ++ n := by
    simpa using (dirKey_append (by simp) : locationKey (D ++ [n]) = dirKey D ++ "/".intercalate [n])
  have hdirKey : dirKey (D ++ [n]) = locationKey (D ++ [n]) ++ "/" := by simp [dirKey]
  -- what lies below the child lies below the parent
  have hsub := List.monotone_filter_right t.entries.entries
    (p := fun e => (dirKey (D ++ [n])).toList.isPrefixOf e.1.toList)
    (q := fun e => (dirKey D).toList.isPrefixOf e.1.toList) (fun e he => by
      simp only [List.isPrefixOf_iff_prefix] at he ⊢
      refine List.IsPrefix.trans ?_ he
      rw [hdirKey, hkey, String.toList_append, String.toList_append, List.append_assoc]
      exact List.prefix_append _ _)
  obtain ⟨e, he⟩ := Option.isSome_iff_exists.mp hsome
  have hmem : (locationKey (D ++ [n]), e) ∈ t.entries.entries := by
    rw [SortedMap.mem_entries_iff, ← FileTree.at?_of_ne_nil (by simp)]
    exact he
  -- the child's own entry lies below the parent, not below itself
  have hin : (locationKey (D ++ [n]), e) ∈ t.entries.entries.filter
      fun e => (dirKey D).toList.isPrefixOf e.1.toList := by
    rw [List.mem_filter]
    refine ⟨hmem, List.isPrefixOf_iff_prefix.mpr ?_⟩
    rw [hkey, String.toList_append]
    exact List.prefix_append _ _
  have hout : (locationKey (D ++ [n]), e) ∉ t.entries.entries.filter
      fun e => (dirKey (D ++ [n])).toList.isPrefixOf e.1.toList := by
    rw [List.mem_filter, not_and]
    intro _ hpre
    have hlen := (List.isPrefixOf_iff_prefix.mp hpre).length_le
    rw [hdirKey, String.toList_append, List.length_append] at hlen
    simp at hlen
  refine Nat.lt_of_le_of_ne hsub.length_le fun hlen => hout ?_
  rw [hsub.eq_of_length hlen]
  exact hin

omit hwf in
/-- from an entry below the folder, `**` enters it when it is a directory, and `*` takes it -/
theorem visit_descendants {D : List String} {n : String} (hplain : ∀ m ∈ D ++ [n], PlainName m)
    (f : Nat) : visit t (descendants S) (f + 2) S.length (ofLocation (D ++ [n])) =
      (if t.isDir (ofLocation (D ++ [n])) then
        fill t (descendants S) (f + 1) S.length (ofLocation (D ++ [n])) else []) ++
      [ofLocation (D ++ [n])] := by
  have hD : ∀ m ∈ D, PlainName m := fun m hm => hplain m (by simp [hm])
  simp only [visit, getElem?_descendants_recursive, recursiveComponent, ↓reduceIte,
    lastRecursive_descendants]
  simp [matchAt, fileName?_ofLocation_concat hD (hplain n (by simp)), Component.matches,
    anyComponent, matchTokens_anySequence, descendants]

/-- from a directory, `**` tries every entry directly inside it -/
theorem mem_fill_recursive {D : List String} (hD : ∀ m ∈ D, PlainName m)
    (hdir : t.at? D = some .directory) (f : Nat) (x : Path) :
    x ∈ fill t (descendants S) (f + 1) S.length (ofLocation D) ↔
      ∃ n, PlainName n ∧ (t.at? (D ++ [n])).isSome ∧
        x ∈ visit t (descendants S) f S.length (ofLocation (D ++ [n])) := by
  have hisDir : t.isDir (ofLocation D) = true := (isDir_ofLocation hwf hD).mpr hdir
  simp only [fill, getElem?_descendants_recursive, hisDir, ↓reduceIte,
    locate_of_isSome hwf hD (by simp [hdir])]
  simp [recursiveComponent, Component.literal?, List.mem_flatMap, mem_children hwf hD,
    Option.isSome_iff_exists]
  constructor
  · rintro ⟨n, ⟨hn, e, he⟩, hx⟩
    exact ⟨n, hn, ⟨e, he⟩, by rwa [childPath_ofLocation hD hn] at hx⟩
  · rintro ⟨n, hn, ⟨e, he⟩, hx⟩
    exact ⟨n, ⟨hn, e, he⟩, by rwa [childPath_ofLocation hD hn]⟩

/-- with fuel for two steps per entry below a directory, `**/*` from it finds exactly the paths of
the entries below it. The induction is on the fuel: each child has fewer entries below it -/
theorem mem_fill_below {D : List String} (hD : ∀ m ∈ D, PlainName m)
    (hdir : t.at? D = some .directory) (f : Nat) (hf : 2 * below t D + 2 ≤ f) (x : Path) :
    x ∈ fill t (descendants S) f S.length (ofLocation D) ↔
      ∃ r, r ≠ [] ∧ (∀ m ∈ r, PlainName m) ∧ x = ofLocation (D ++ r) ∧ (t.at? (D ++ r)).isSome := by
  induction f using Nat.strong_induction_on generalizing D with
  | _ f ih =>
  obtain ⟨f', rfl⟩ : ∃ f', f = f' + 1 := ⟨f - 1, by omega⟩
  rw [mem_fill_recursive hwf hD hdir]
  constructor
  · rintro ⟨n, hn, hsome, hx⟩
    have hplain : ∀ m ∈ D ++ [n], PlainName m := by simpa [or_imp, forall_and] using ⟨hD, hn⟩
    have hlt := below_child_lt hwf hplain hsome
    obtain ⟨f'', rfl⟩ : ∃ f'', f' = f'' + 2 := ⟨f' - 2, by omega⟩
    rw [visit_descendants hplain, List.mem_append] at hx
    rcases hx with hx | hx
    · -- below a child that is a directory
      split at hx
      · rename_i hcdir
        obtain ⟨r, hr, hrp, rfl, hrs⟩ := (ih (f'' + 1) (by omega) hplain
          ((isDir_ofLocation hwf hplain).mp hcdir) (by omega)).mp hx
        refine ⟨n :: r, by simp, ?_, by simp, by simpa using hrs⟩
        simpa [or_imp, forall_and] using ⟨hn, hrp⟩
      · cases hx
    · -- the child itself
      rw [List.mem_singleton] at hx
      exact ⟨[n], by simp, by simpa using hn, hx, hsome⟩
  · rintro ⟨r, hr, hrp, rfl, hrs⟩
    obtain ⟨n, r', rfl⟩ := List.exists_cons_of_ne_nil hr
    have hn : PlainName n := hrp n (by simp)
    have hplain : ∀ m ∈ D ++ [n], PlainName m := by simpa [or_imp, forall_and] using ⟨hD, hn⟩
    have hall : ∀ m ∈ D ++ n :: r', PlainName m := List.forall_mem_append.mpr ⟨hD, hrp⟩
    -- the child on the way is an entry, and a directory unless it is the entry found
    have hcdir : r' ≠ [] → t.at? (D ++ [n]) = some .directory := fun hr' =>
      hwf.dirAbove hall hrs _ (by simp [List.prefix_append_right_inj]) (by simpa using hr')
    have hsome : (t.at? (D ++ [n])).isSome := by
      by_cases hr' : r' = []
      · subst hr'
        exact hrs
      · simp [hcdir hr']
    have hlt := below_child_lt hwf hplain hsome
    obtain ⟨f'', rfl⟩ : ∃ f'', f' = f'' + 2 := ⟨f' - 2, by omega⟩
    refine ⟨n, hn, hsome, ?_⟩
    rw [visit_descendants hplain, List.mem_append]
    by_cases hr' : r' = []
    · subst hr'
      exact .inr (List.mem_singleton.mpr rfl)
    · left
      rw [if_pos ((isDir_ofLocation hwf hplain).mpr (hcdir hr'))]
      refine (ih (f'' + 1) (by omega) hplain (hcdir hr') (by omega)).mpr
        ⟨r', hr', fun m hm => hrp m (by simp [hm]), by simp, by simpa using hrs⟩

/-- **The search for `<folder>/**/*` finds the entries below the folder.** For a directory of a
well-formed tree, written as a plain path without wildcards, the search reads the pattern and
finds exactly the paths of the entries below it -/
theorem mem_search_descendants (hS : ∀ m ∈ S, PlainName m) (hlit : Literal (locationKey S))
    (hne : S ≠ []) (hdir : t.at? S = some .directory) :
    ∃ found, search t ((ofLocation S).join ⟨"**/*"⟩).text = .ok found ∧
      ∀ x, x ∈ found ↔
        ∃ r, r ≠ [] ∧ (∀ m ∈ r, PlainName m) ∧ x = ofLocation (S ++ r) ∧ (t.at? (S ++ r)).isSome := by
  -- the fuel: two steps for each literal name, and two for each entry below the folder
  let fuel := 2 * ((descendants S).components.size + 2) * (t.entries.entries.length + 2)
  have hbelow := below_le (t := t) S
  have hfuel : 2 * below t S + 2 ≤ fuel - 2 * S.length := by
    have hE : t.entries.entries.length ≤ (S.length + 2 + 2) * t.entries.entries.length :=
      Nat.le_mul_of_pos_left _ (by omega)
    have hexp : fuel = 2 * ((S.length + 2 + 2) * t.entries.entries.length) + 4 * S.length + 16 := by
      simp only [fuel, size_descendants]
      rw [Nat.mul_assoc, Nat.mul_add]
      omega
    omega
  refine ⟨fill t (descendants S) fuel 0 (ofLocation []), ?_, fun x => ?_⟩
  · rw [search, parse_descendants hS hlit hne]
    rfl
  · have hlit := fill_literal hwf [] S (by simpa using hS) (by simpa using hdir) (fuel - 2 * S.length)
    simp only [List.nil_append, List.length_nil] at hlit
    rw [show fuel = fuel - 2 * S.length + 2 * S.length by omega, hlit]
    exact mem_fill_below hwf hS hdir _ hfuel x

end Search

end BuildRecipe.Glob

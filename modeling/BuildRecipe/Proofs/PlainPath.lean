/-
Plain paths: absolute paths written with one separator before each name, every name non-empty,
without a separator and neither `.` nor `..`. Such a path is the key of its location in a file
tree (`Path.ofLocation`), and on it every path operation is an operation on the list of names:
- walking it gives the names (`walkParts_ofLocation`), and its components are the root and the
  names (`components_ofLocation`), so distinct locations have distinct keys (`locationKey_inj`);
- joining relative names appends them (`join_ofLocation_names`, `join_ofLocation`), and so does
  joining the path made of their components (`join_ofComponents`);
- the parent drops the last name (`parent?_ofLocation_concat`), which is the file name;
- the path relative to a location above is made of the names that follow
  (`relativeTo_ofLocation`);
- the keys below a location are those that start with its key and a separator
  (`dirKey_prefix_locationKey_iff`).
-/
import Mathlib.Data.List.Basic
import BuildRecipe.FileTree

namespace BuildRecipe

/-- a name a path holds as one part: not empty, without a separator, neither `.` nor `..` -/
def PlainName (s : String) : Prop := s ≠ "" ∧ '/' ∉ s.toList ∧ s ≠ "." ∧ s ≠ ".."

instance (s : String) : Decidable (PlainName s) := inferInstanceAs (Decidable (_ ∧ _ ∧ _ ∧ _))

namespace PlainName

variable {s : String}

theorem toList_ne_nil (h : PlainName s) : s.toList ≠ [] := fun h' =>
  h.1 (String.toList_inj.mp (by simpa using h'))

theorem slash_not_mem (h : PlainName s) : '/' ∉ s.toList := h.2.1

/-- a plain name is a part that stands for a name: it is neither skipped nor `.` nor `..` -/
theorem partComponent_eq (h : PlainName s) : Path.partComponent s = some (.normal s) := by
  simp [Path.partComponent, h.1, h.2.2.1, h.2.2.2]

theorem not_skipped (h : PlainName s) : (s.isEmpty || s == ".") = false := by
  simp [h.1, h.2.2.1]

/-- a plain name neither starts nor ends with a separator -/
theorem head?_ne (h : PlainName s) : s.toList.head? ≠ some '/' := fun hh =>
  h.slash_not_mem (List.mem_of_mem_head? hh)

theorem getLast?_ne (h : PlainName s) : s.toList.getLast? ≠ some '/' := fun hh =>
  h.slash_not_mem (List.mem_of_getLast? hh)

end PlainName

/-! ## Texts of keys -/

theorem startsWith_slash_iff (s : String) : s.startsWith "/" = true ↔ s.toList.head? = some '/' := by
  rw [String.startsWith_string_iff]
  cases s.toList <;> simp [eq_comm]

theorem endsWith_slash_iff (s : String) : s.endsWith "/" = true ↔ s.toList.getLast? = some '/' := by
  rw [String.endsWith_eq_endsWith_toSlice, String.Slice.endsWith_string_iff, String.copy_toSlice]
  constructor
  · rintro ⟨pre, hpre⟩
    simp [← hpre]
  · intro hl
    obtain ⟨pre, hpre⟩ := List.getLast?_eq_some_iff.mp hl
    exact ⟨pre, hpre.symm⟩

theorem toList_locationKey (ns : List String) :
    (locationKey ns).toList = '/' :: ['/'].intercalate (ns.map String.toList) := by
  simp [locationKey, String.toList_intercalate]

@[simp] theorem locationKey_nil : locationKey [] = "/" := rfl

/-- the key of a location below another: the upper key, a separator, and the names below -/
theorem locationKey_append {ns rs : List String} (hns : ns ≠ []) (hrs : rs ≠ []) :
    locationKey (ns ++ rs) = locationKey ns ++ "/" ++ "/".intercalate rs := by
  simp only [locationKey, String.intercalate_append_of_ne_nil hns hrs, String.append_assoc]

/-- the key of a location is a separator and the first name, then the key of the rest -/
theorem locationKey_cons (a : String) {S : List String} (hS : S ≠ []) :
    locationKey (a :: S) = "/" ++ a ++ locationKey S := by
  simp only [locationKey, String.intercalate_cons_of_ne_nil hS, String.append_assoc]

/-- the characters of a key are separators and the characters of its names -/
theorem mem_toList_locationKey {S : List String} {x : Char} :
    x ∈ (locationKey S).toList ↔ x = '/' ∨ ∃ m ∈ S, x ∈ m.toList := by
  induction S with
  | nil => simp
  | cons a S ih =>
    by_cases hS : S = []
    · subst hS
      simp [locationKey]
    · rw [locationKey_cons a hS, String.toList_append, String.toList_append, List.mem_append,
        List.mem_append, ih]
      simp only [show "/".toList = ['/'] from rfl, List.mem_cons, List.not_mem_nil, or_false,
        exists_eq_or_imp]
      constructor
      · rintro ((h | h) | h | h)
        · exact .inl h
        · exact .inr (.inl h)
        · exact .inl h
        · exact .inr (.inr h)
      · rintro (h | h | h)
        · exact .inl (.inl h)
        · exact .inl (.inr h)
        · exact .inr (.inr h)

/-- names joined by separators start with the first name -/
theorem toList_intercalate_cons (r : String) (rest : List String) :
    ∃ tail, ("/".intercalate (r :: rest)).toList = r.toList ++ tail := by
  cases rest with
  | nil => exact ⟨[], by simp⟩
  | cons r' rest =>
    rw [String.intercalate_cons_of_ne_nil (by simp)]
    exact ⟨"/".toList ++ ("/".intercalate (r' :: rest)).toList, by simp [String.toList_append]⟩

/-- names joined by separators end with the last name -/
theorem toList_intercalate_concat (init : List String) (m : String) :
    ∃ front, ("/".intercalate (init ++ [m])).toList = front ++ m.toList := by
  cases init with
  | nil => exact ⟨[], by simp⟩
  | cons i init =>
    rw [String.intercalate_append_of_ne_nil (by simp) (by simp)]
    exact ⟨("/".intercalate (i :: init)).toList ++ "/".toList, by simp [String.toList_append]⟩

theorem intercalate_head? {rs : List String} (h : ∀ n ∈ rs, PlainName n) (hrs : rs ≠ []) :
    ("/".intercalate rs).toList.head? ≠ some '/' := by
  obtain ⟨r, rest, rfl⟩ := List.exists_cons_of_ne_nil hrs
  have hr : PlainName r := h r (by simp)
  obtain ⟨tail, ht⟩ := toList_intercalate_cons r rest
  rw [ht, List.head?_append_of_ne_nil _ hr.toList_ne_nil]
  exact hr.head?_ne

theorem intercalate_getLast? {rs : List String} (h : ∀ n ∈ rs, PlainName n) (hrs : rs ≠ []) :
    ("/".intercalate rs).toList.getLast? ≠ some '/' := by
  obtain ⟨init, m, rfl⟩ := (List.eq_nil_or_concat' rs).resolve_left hrs
  have hm : PlainName m := h m (by simp)
  obtain ⟨front, hf⟩ := toList_intercalate_concat init m
  rw [hf, List.getLast?_append_of_ne_nil _ hm.toList_ne_nil]
  exact hm.getLast?_ne

theorem locationKey_getLast? {ns : List String} (h : ∀ n ∈ ns, PlainName n) (hns : ns ≠ []) :
    (locationKey ns).toList.getLast? ≠ some '/' := by
  obtain ⟨init, m, rfl⟩ := (List.eq_nil_or_concat' ns).resolve_left hns
  have hm : PlainName m := h m (by simp)
  obtain ⟨front, hf⟩ := toList_intercalate_concat init m
  rw [locationKey, String.toList_append, hf, ← List.append_assoc,
    List.getLast?_append_of_ne_nil _ hm.toList_ne_nil]
  exact hm.getLast?_ne

/-- the parts of a key between its separators: an empty part before the root's separator, then
the names -/
theorem splitAll_locationKey {ns : List String} (h : ∀ n ∈ ns, '/' ∉ n.toList) (hns : ns ≠ []) :
    Text.splitAll (locationKey ns) '/' = "" :: ns := by
  have hsplit : ((locationKey ns).toList).splitOn '/' = [] :: ns.map String.toList := by
    rw [toList_locationKey, ← List.nil_append ('/' :: _), List.splitOn_append_cons_self,
      List.splitOn_intercalate _ (by simpa using h) (by simpa using hns)]
    rfl
  simp [Text.splitAll, hsplit, Function.comp_def]

/-! ## The path of a location -/

namespace Path

@[simp] theorem ofString_eq (s : String) : Path.ofString s = ⟨s⟩ := rfl

/-- the path whose text is the key of a location: the root, then each name after a separator -/
def ofLocation (names : List String) : Path := ⟨locationKey names⟩

variable {ns rs : List String} {n : String}

@[simp] theorem text_ofLocation : (ofLocation ns).text = locationKey ns := rfl

@[simp] theorem isAbsolute_ofLocation : (ofLocation ns).isAbsolute = true := by
  simp [isAbsolute, toList_locationKey]

theorem isAbsolute_names (h : ∀ n ∈ rs, PlainName n) (hrs : rs ≠ []) :
    (⟨"/".intercalate rs⟩ : Path).isAbsolute = false := by
  rw [isAbsolute, Bool.eq_false_iff, ne_eq, startsWith_slash_iff]
  exact intercalate_head? h hrs

theorem text_ofLocation_ne_empty : (ofLocation ns).text.isEmpty = false := by
  simp [← String.toList_eq_nil_iff, toList_locationKey]

theorem endsWith_locationKey (h : ∀ n ∈ ns, PlainName n) (hns : ns ≠ []) :
    (locationKey ns).endsWith "/" = false := by
  rw [Bool.eq_false_iff, ne_eq, endsWith_slash_iff]
  exact locationKey_getLast? h hns

/-- walking a plain path enters its names -/
theorem walkParts_ofLocation (h : ∀ n ∈ ns, PlainName n) : FileTree.walkParts (ofLocation ns) = ns := by
  by_cases hns : ns = []
  · subst hns
    decide
  · rw [FileTree.walkParts, text_ofLocation,
      splitAll_locationKey (fun n hn => (h n hn).slash_not_mem) hns]
    simpa [List.filter_eq_self] using fun n hn => (h n hn).1

/-- joining relative names to a plain path appends them -/
theorem join_ofLocation_names (h : ∀ n ∈ ns, PlainName n) (hr : ∀ n ∈ rs, PlainName n)
    (hrs : rs ≠ []) : (ofLocation ns).join ⟨"/".intercalate rs⟩ = ofLocation (ns ++ rs) := by
  rw [join, if_neg (by simp [isAbsolute_names hr hrs]), text_ofLocation_ne_empty, Bool.false_or]
  by_cases hns : ns = []
  · subst hns
    rw [if_pos (by rw [text_ofLocation, locationKey_nil, endsWith_slash_iff]; rfl)]
    simp [ofLocation, locationKey]
  · rw [if_neg (by rw [text_ofLocation, endsWith_locationKey h hns]; exact Bool.false_ne_true)]
    simp [ofLocation, locationKey_append hns hrs]

theorem join_ofLocation (h : ∀ n ∈ ns, PlainName n) (hn : PlainName n) :
    (ofLocation ns).join ⟨n⟩ = ofLocation (ns ++ [n]) := by
  simpa using join_ofLocation_names h (show ∀ m ∈ [n], PlainName m by simpa using hn) (by simp)

/-- the components of a plain path are the root and its names -/
theorem components_ofLocation (h : ∀ n ∈ ns, PlainName n) :
    (ofLocation ns).components = .root :: ns.map .normal := by
  rw [components, if_pos isAbsolute_ofLocation, text_ofLocation]
  by_cases hns : ns = []
  · subst hns
    rw [show Text.splitAll (locationKey []) '/' = ["", ""] by decide]
    decide
  · have hmap : ns.filterMap partComponent = ns.map .normal :=
      List.filterMap_eq_map_iff_forall_eq_some.mpr fun n hn => (h n hn).partComponent_eq
    rw [splitAll_locationKey (fun n hn => (h n hn).slash_not_mem) hns,
      List.filterMap_cons_none (by decide), hmap]
    rfl

/-- the last component of a plain path is its last name -/
theorem getLast?_components_ofLocation (h : ∀ m ∈ ns ++ [n], PlainName m) :
    (ofLocation (ns ++ [n])).components.getLast? = some (.normal n) := by
  rw [components_ofLocation h, List.map_append, List.map_singleton, ← List.cons_append,
    List.getLast?_concat]

/-- the path of `.root` and names, built by joining, is the plain path of the names -/
theorem ofComponents_root (h : ∀ n ∈ ns, PlainName n) :
    ofComponents (.root :: ns.map .normal) = ofLocation ns := by
  -- after the root, each join appends one name to the location reached
  have hfold : ∀ (acc : List String), (∀ n ∈ acc, PlainName n) → ∀ ms : List String,
      (∀ n ∈ ms, PlainName n) →
      (ms.map Component.normal).foldl (fun (p : Path) (c : Component) => p.join ⟨c.text⟩)
        (ofLocation acc) =
        ofLocation (acc ++ ms) := by
    intro acc hacc ms hms
    induction ms generalizing acc with
    | nil => simp
    | cons m ms ih =>
      rw [List.map_cons, List.foldl_cons, Component.text,
        join_ofLocation hacc (hms m (by simp)),
        ih _ (by simpa [or_imp, forall_and] using ⟨hacc, hms m (by simp)⟩)
          (fun n hn => hms n (by simp [hn]))]
      simp
  have hroot : (⟨""⟩ : Path).join ⟨Component.root.text⟩ = ofLocation [] := by
    rw [join, if_pos (by rw [isAbsolute, startsWith_slash_iff]; rfl)]
    rfl
  rw [ofComponents, List.foldl_cons, hroot, hfold [] (by simp) ns h, List.nil_append]

theorem isAbsolute_name (hn : PlainName n) : (⟨n⟩ : Path).isAbsolute = false := by
  rw [isAbsolute, Bool.eq_false_iff, ne_eq, startsWith_slash_iff]
  exact hn.head?_ne

/-- joining a name to names between separators adds a separator and the name -/
theorem join_names_name (h : ∀ n ∈ rs, PlainName n) (hrs : rs ≠ []) (hn : PlainName n) :
    (⟨"/".intercalate rs⟩ : Path).join ⟨n⟩ = ⟨"/".intercalate (rs ++ [n])⟩ := by
  have hlast := intercalate_getLast? h hrs
  have hempty : ("/".intercalate rs).isEmpty = false := by
    obtain ⟨r, rest, rfl⟩ := List.exists_cons_of_ne_nil hrs
    obtain ⟨tail, ht⟩ := toList_intercalate_cons r rest
    rw [Bool.eq_false_iff, ne_eq, String.isEmpty_iff, ← String.toList_inj, ht]
    exact fun he => (h r (by simp)).toList_ne_nil (List.append_eq_nil_iff.mp he).1
  rw [join, if_neg (by rw [isAbsolute_name hn]; exact Bool.false_ne_true), hempty, Bool.false_or,
    if_neg (by rw [endsWith_slash_iff]; exact hlast),
    String.intercalate_append_of_ne_nil hrs (by simp), String.intercalate_singleton]

/-- the path of names alone, built by joining, is the names between separators -/
theorem ofComponents_normal (h : ∀ n ∈ rs, PlainName n) (hrs : rs ≠ []) :
    ofComponents (rs.map .normal) = ⟨"/".intercalate rs⟩ := by
  obtain ⟨r, rest, rfl⟩ := List.exists_cons_of_ne_nil hrs
  -- the first join starts from the empty path and gives the name; each later one adds a
  -- separator and a name
  have hfold : ∀ (acc : List String), acc ≠ [] → (∀ n ∈ acc, PlainName n) →
      ∀ ms : List String, (∀ n ∈ ms, PlainName n) →
      (ms.map Component.normal).foldl (fun (p : Path) (c : Component) => p.join ⟨c.text⟩)
        ⟨"/".intercalate acc⟩ = ⟨"/".intercalate (acc ++ ms)⟩ := by
    intro acc hne hacc ms hms
    induction ms generalizing acc with
    | nil => simp
    | cons m ms ih =>
      have hm : PlainName m := hms m (by simp)
      rw [List.map_cons, List.foldl_cons, Component.text, join_names_name hacc hne hm,
        ih _ (by simp) (by simpa [or_imp, forall_and] using ⟨hacc, hm⟩)
          (fun n hn => hms n (by simp [hn]))]
      simp
  have hr : PlainName r := h r (by simp)
  have hfirst : (⟨""⟩ : Path).join ⟨(Component.normal r).text⟩ = ⟨"/".intercalate [r]⟩ := by
    rw [join, Component.text, if_neg (by rw [isAbsolute_name hr]; exact Bool.false_ne_true)]
    simp
  rw [ofComponents, List.map_cons, List.foldl_cons, hfirst,
    hfold [r] (by simp) (by simpa using hr) rest (fun n hn => h n (by simp [hn]))]
  rfl

/-- joining the path of relative names to a plain path appends them -/
theorem join_ofComponents (h : ∀ n ∈ ns, PlainName n) (hr : ∀ n ∈ rs, PlainName n)
    (hrs : rs ≠ []) : (ofLocation ns).join (ofComponents (rs.map .normal)) = ofLocation (ns ++ rs) := by
  rw [ofComponents_normal hr hrs, join_ofLocation_names h hr hrs]

theorem dropEmptyFront_cons {p : String} (hp : PlainName p) (rest : List String) :
    dropEmptyFront (p :: rest) = p :: rest := by
  cases rest with
  | nil => rfl
  | cons q rest => simp [dropEmptyFront, hp.not_skipped]

theorem trimTrailing_concat {p : String} (hp : PlainName p) (l : List String) :
    trimTrailing (l ++ [p]) = l ++ [p] := by
  simp [trimTrailing, dropEmptyFront_cons hp]

/-- the parent of a plain path drops its last name -/
theorem parent?_ofLocation_concat (h : ∀ m ∈ ns, PlainName m) (hn : PlainName n) :
    (ofLocation (ns ++ [n])).parent? = some (ofLocation ns) := by
  have hall : ∀ m ∈ ns ++ [n], PlainName m := by simpa [or_imp, forall_and] using ⟨h, hn⟩
  have hsplit : Text.splitAll (ofLocation (ns ++ [n])).text '/' = ("" :: ns) ++ [n] := by
    rw [text_ofLocation, splitAll_locationKey (fun m hm => (hall m hm).slash_not_mem) (by simp)]
    rfl
  rw [parent?, getLast?_components_ofLocation hall]
  simp only [hsplit, trimTrailing_concat hn, List.dropLast_concat]
  rcases List.eq_nil_or_concat' ns with rfl | ⟨init, m, rfl⟩
  · decide
  · have hm : PlainName m := h m (by simp)
    rw [← List.cons_append, trimTrailing_concat hm]
    split
    · rename_i heq
      simp at heq
    · simp [ofLocation, locationKey, String.intercalate_cons_of_ne_nil]

/-- the file name of a plain path is its last name -/
theorem fileName?_ofLocation_concat (h : ∀ m ∈ ns, PlainName m) (hn : PlainName n) :
    (ofLocation (ns ++ [n])).fileName? = some n := by
  have hall : ∀ m ∈ ns ++ [n], PlainName m := by simpa [or_imp, forall_and] using ⟨h, hn⟩
  rw [fileName?, getLast?_components_ofLocation hall]

/-- comparing from the start, a common beginning is passed over without a step up -/
theorem diff?_go_append (xs ys : List Component) :
    diff?.go (xs ++ ys) xs [] = diff?.go ys [] [] := by
  induction xs with
  | nil => rfl
  | cons x xs ih => simp [diff?.go, ih]

/-- the path of a location below a plain path, relative to it, is made of the names that
follow -/
theorem relativeTo_ofLocation (h : ∀ m ∈ ns, PlainName m) (hr : ∀ m ∈ rs, PlainName m)
    (hrs : rs ≠ []) : (ofLocation (ns ++ rs)).relativeTo (ofLocation ns) = ofComponents (rs.map .normal) := by
  have hall : ∀ m ∈ ns ++ rs, PlainName m := by simpa [or_imp, forall_and] using ⟨h, hr⟩
  obtain ⟨r, rest, rfl⟩ := List.exists_cons_of_ne_nil hrs
  rw [relativeTo, diff?, isAbsolute_ofLocation, isAbsolute_ofLocation, components_ofLocation hall,
    components_ofLocation h, List.map_append, ← List.cons_append, diff?_go_append]
  simp [diff?.go]

end Path

/-! ## Keys of plain locations -/

/-- plain locations are told apart by their keys -/
theorem locationKey_inj {a b : List String} (ha : ∀ n ∈ a, PlainName n) (hb : ∀ n ∈ b, PlainName n) :
    locationKey a = locationKey b ↔ a = b := by
  refine ⟨fun hk => ?_, fun h => h ▸ rfl⟩
  rw [← Path.walkParts_ofLocation ha, ← Path.walkParts_ofLocation hb]
  exact congrArg (fun k => FileTree.walkParts ⟨k⟩) hk

theorem Path.ofLocation_inj {a b : List String} (ha : ∀ n ∈ a, PlainName n)
    (hb : ∀ n ∈ b, PlainName n) : Path.ofLocation a = Path.ofLocation b ↔ a = b :=
  ⟨fun h => (locationKey_inj ha hb).mp (congrArg Path.text h), fun h => h ▸ rfl⟩

/-- the text every key below a location starts with -/
def dirKey (names : List String) : String := if names.isEmpty then "/" else locationKey names ++ "/"

/-- the keys below a location are the keys of longer locations that start with its names, and
what follows its text in them is the names below, joined -/
theorem dirKey_append {names more : List String} (hmore : more ≠ []) :
    locationKey (names ++ more) = dirKey names ++ "/".intercalate more := by
  by_cases hns : names = []
  · subst hns
    rfl
  · simp [dirKey, hns, locationKey_append hns hmore]

theorem dirKey_prefix_locationKey_iff {names L : List String} (h : ∀ n ∈ names, PlainName n)
    (hL : ∀ n ∈ L, PlainName n) (hLne : L ≠ []) :
    (dirKey names).toList <+: (locationKey L).toList ↔ ∃ more, more ≠ [] ∧ L = names ++ more := by
  constructor
  · rintro ⟨rest, hrest⟩
    -- split both sides at the separators: the names of `L` are those of `names`, then the parts of
    -- what follows
    have hslash : ∀ n ∈ L, '/' ∉ n.toList := fun n hn => (hL n hn).slash_not_mem
    have hL' : (locationKey L).toList.splitOn '/' = [] :: L.map String.toList := by
      have := splitAll_locationKey hslash hLne
      simp only [Text.splitAll, List.map_eq_cons_iff] at this
      obtain ⟨a, as, hsp, ha, has⟩ := this
      have ha' : a = [] := by simpa using congrArg String.toList ha
      have has' : as = L.map String.toList := by
        rw [← has, List.map_map]
        simp [Function.comp_def]
      rw [hsp, ha', has']
    by_cases hns : names = []
    · subst hns
      exact ⟨L, hLne, rfl⟩
    · have hsplit : (locationKey L).toList.splitOn '/' =
          ([] :: names.map String.toList) ++ rest.splitOn '/' := by
        rw [← hrest]
        simp only [dirKey, List.isEmpty_iff, hns, ↓reduceIte, String.toList_append]
        rw [show "/".toList = ['/'] from rfl, List.append_assoc, List.singleton_append,
          List.splitOn_append_cons_self]
        have := splitAll_locationKey (fun n hn => (h n hn).slash_not_mem) hns
        simp only [Text.splitAll, List.map_eq_cons_iff] at this
        obtain ⟨a, as, hsp, ha, has⟩ := this
        have ha' : a = [] := by simpa using congrArg String.toList ha
        have has' : as = names.map String.toList := by
          rw [← has, List.map_map]
          simp [Function.comp_def]
        rw [hsp, ha', has']
      rw [hL'] at hsplit
      simp only [List.cons_append, List.cons.injEq, true_and] at hsplit
      obtain ⟨l₁, l₂, hL, h₁, h₂⟩ := List.map_eq_append_iff.mp hsplit
      have hl₁ : l₁ = names := List.map_injective_iff.mpr (fun _ _ h => String.toList_inj.mp h) h₁
      refine ⟨l₂, fun hnil => ?_, hL.trans (by rw [hl₁])⟩
      rw [hnil] at h₂
      exact List.splitOn_ne_nil _ _ h₂.symm
  · rintro ⟨more, hmore, rfl⟩
    rw [dirKey_append hmore, String.toList_append]
    exact List.prefix_append _ _

end BuildRecipe

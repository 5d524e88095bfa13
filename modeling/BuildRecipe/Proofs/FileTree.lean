/-
File trees on plain locations. A tree as the system keeps one (`WellFormed`) has each key the key
of a location of plain names, and the parent of each entry is a directory. On such a
tree every operation on a plain path is read off the entries at locations:
- walking into a location succeeds exactly when it is a directory (`enter_of_dir`,
  `enter_of_not_dir`), and fails as missing when no file stands on the way;
- a path leads to what its location holds (`stat_ofLocation`), so `isFile`, `isDir`, `exists?`
  and `read` ask the entry at the location;
- writing a file into a directory puts it at its location (`write_ofLocation`), and making one
  directory puts it there when its parent exists and nothing is there yet
  (`mkdir_ofLocation_concat`);
- making a directory with every missing one above it, when no file stands on the way, makes
  exactly the directories along the location (`mkdirAll_root`, `createDirAll_ofLocation`);
- the entries directly inside a directory are the entries at its plain names (`mem_children`).
Each change keeps the tree well-formed.
-/
import Mathlib.Data.List.Induction
import BuildRecipe.Proofs.PlainPath
import BuildRecipe.Proofs.SortedMap

namespace BuildRecipe.FileTree

open BuildRecipe.Path

/-- a tree as the system keeps one: each key is the key of a location of plain names, and the
parent of every entry is a directory -/
structure WellFormed (t : FileTree) : Prop where
  plainKeys : ∀ k e, (k, e) ∈ t.entries.entries →
    ∃ L, L ≠ [] ∧ (∀ n ∈ L, PlainName n) ∧ k = locationKey L
  parentDir : ∀ L n, (∀ m ∈ L ++ [n], PlainName m) → (t.at? (L ++ [n])).isSome →
    t.at? L = some .directory

/-- no file stands at a location or at a location above it -/
def NoFileOn (t : FileTree) (L : List String) : Prop := ∀ P, P <+: L → ∀ c, t.at? P ≠ some (.file c)

variable {t : FileTree} {L M D : List String} {n : String}

@[simp] theorem at?_nil : t.at? [] = some .directory := rfl

theorem at?_of_ne_nil (h : L ≠ []) : t.at? L = t.entries.get? (locationKey L) := by
  simp [at?, h]

/-- putting an entry changes the entry at its location and no other -/
theorem at?_put (hM : ∀ m ∈ M, PlainName m) (hMne : M ≠ []) (hL : ∀ m ∈ L, PlainName m)
    (e : Entry) : (t.put M e).at? L = if L = M then some e else t.at? L := by
  by_cases hL0 : L = []
  · subst hL0
    simp [Ne.symm hMne]
  · simp [at?_of_ne_nil hL0, put, SortedMap.get?_insert, locationKey_inj hL hM]

theorem NoFileOn.anti (h : t.NoFileOn L) (hP : M <+: L) : t.NoFileOn M :=
  fun P hPM => h P (hPM.trans hP)

namespace WellFormed

variable (hwf : t.WellFormed)
include hwf

/-- every location above an entry is a directory -/
theorem dirAbove (hL : ∀ m ∈ L, PlainName m) (hsome : (t.at? L).isSome) :
    ∀ P, P <+: L → P ≠ L → t.at? P = some .directory := by
  induction L using List.reverseRecOn with
  | nil => exact fun P hP hne => absurd (List.prefix_nil.mp hP) hne
  | append_singleton L n ih =>
    have hparent := hwf.parentDir L n hL hsome
    intro P hP hne
    rcases List.prefix_concat_iff.mp hP with rfl | hP'
    · exact absurd rfl hne
    · by_cases hPL : P = L
      · rw [hPL, hparent]
      · exact ih (fun m hm => hL m (by simp [hm])) (by simp [hparent]) P hP' hPL

/-- an entry that is no file below a directory that exists makes all of the locations along it
directories or missing -/
theorem noFileOn_of_dir (hL : ∀ m ∈ L, PlainName m) (hdir : t.at? L = some .directory) :
    t.NoFileOn L := by
  intro P hP c hc
  by_cases hPL : P = L
  · rw [hPL, hdir] at hc
    cases hc
  · rw [hwf.dirAbove hL (by simp [hdir]) P hP hPL] at hc
    cases hc

/-- putting an entry at a location whose parent is a directory keeps the tree well-formed,
unless a directory is replaced by a file -/
theorem put (hM : ∀ m ∈ M, PlainName m) (hMne : M ≠ []) (hparent : t.at? M.dropLast = some .directory)
    (e : Entry) (hkeep : t.at? M ≠ some .directory ∨ e = .directory) : (t.put M e).WellFormed where
  plainKeys k e' hk := by
    rcases (SortedMap.mem_insertEntry t.entries.ascending).mp hk with heq | ⟨hk', -⟩
    · cases heq
      exact ⟨M, hMne, hM, rfl⟩
    · exact hwf.plainKeys k e' hk'
  parentDir L' n' hplain hsome := by
    have hL' : ∀ m ∈ L', PlainName m := fun m hm => hplain m (by simp [hm])
    rw [at?_put hM hMne hplain] at hsome
    rw [at?_put hM hMne hL']
    by_cases hLn : L' ++ [n'] = M
    · -- the new entry's parent is the directory above it, which stays
      have hne : L' ≠ M := fun h => by simpa [h] using congrArg List.length hLn
      rw [if_neg hne]
      rw [← hLn, List.dropLast_concat] at hparent
      exact hparent
    · rw [if_neg hLn] at hsome
      have hdir := hwf.parentDir L' n' hplain hsome
      split
      · rename_i hLM
        rw [hLM] at hdir
        exact hkeep.resolve_left (not_not.mpr hdir) ▸ rfl
      · exact hdir

end WellFormed

/-! ## Walking into a location -/

section Walk

variable (hwf : t.WellFormed)
include hwf

/-- a location that is a directory is entered from each directory above it -/
theorem enter_of_dir (here D : List String) (hplain : ∀ m ∈ here ++ D, PlainName m)
    (hdir : t.at? (here ++ D) = some .directory) : t.enter here D = .ok (here ++ D) := by
  induction D generalizing here with
  | nil => simp [enter]
  | cons n D ih =>
    have hn : PlainName n := hplain n (by simp)
    have hnext : t.at? (here ++ [n]) = some .directory := by
      by_cases hD : D = []
      · subst hD
        exact hdir
      · exact hwf.dirAbove hplain (by simp [hdir]) _ (by simp [List.prefix_append_right_inj])
          (by simpa using hD)
    have ih' := ih (here ++ [n]) (by simpa using hplain) (by simpa using hdir)
    simp [enter, hn.2.2.1, hn.2.2.2, hnext, ih']

end Walk

/-- a location that is not a directory cannot be entered; when no file stands on the way, it is
missing -/
theorem enter_of_not_dir (here D : List String) (hplain : ∀ m ∈ here ++ D, PlainName m)
    (hhere : t.at? here = some .directory) (hnot : t.at? (here ++ D) ≠ some .directory) :
    ∃ err, t.enter here D = .error err ∧ (t.NoFileOn (here ++ D) → err = .notFound) := by
  induction D generalizing here with
  | nil => exact absurd (by simpa using hhere) hnot
  | cons n D ih =>
    have hn : PlainName n := hplain n (by simp)
    rcases hnext : t.at? (here ++ [n]) with _ | e
    · refine ⟨.notFound, by simp [enter, hn.2.2.1, hn.2.2.2, hnext], fun _ => rfl⟩
    · cases e with
      | file c =>
        refine ⟨.notADirectory, by simp [enter, hn.2.2.1, hn.2.2.2, hnext], fun hpass => ?_⟩
        exact absurd hnext (hpass _ (by simp [List.prefix_append_right_inj]) c)
      | directory =>
        obtain ⟨err, herr, hnf⟩ := ih (here ++ [n]) (by simpa using hplain) hnext
          (by simpa using hnot)
        exact ⟨err, by simp [enter, hn.2.2.1, hn.2.2.2, hnext, herr], by simpa using hnf⟩


/-! ## Looking a plain path up -/

theorem lastStep_ofLocation_nil : t.lastStep (ofLocation []) = .ok ([], none) := by
  simp [lastStep, walkParts_ofLocation (show ∀ m ∈ ([] : List String), PlainName m by simp), enter]

theorem lastStep_ofLocation_concat (hplain : ∀ m ∈ L ++ [n], PlainName m) :
    t.lastStep (ofLocation (L ++ [n])) = (t.enter [] L).bind fun dir => .ok (dir, some n) := by
  simp only [lastStep, text_ofLocation_ne_empty, walkParts_ofLocation hplain, List.dropLast_concat,
    List.getLast?_concat]
  rfl

theorem lastStep_of_dir (hwf : t.WellFormed) (hplain : ∀ m ∈ L ++ [n], PlainName m)
    (hparent : t.at? L = some .directory) : t.lastStep (ofLocation (L ++ [n])) = .ok (L, some n) := by
  have henter := enter_of_dir hwf [] L (by simpa using fun m hm => hplain m (by simp [hm]))
    (by simpa using hparent)
  rw [lastStep_ofLocation_concat hplain, henter]
  rfl

section Lookup

variable (hwf : t.WellFormed) (hL : ∀ m ∈ L, PlainName m)
include hwf hL

/-- a plain path leads to its location exactly when there is an entry there -/
theorem locate_ofLocation : (t.locate (ofLocation L)).toOption =
    if (t.at? L).isSome then some L else none := by
  induction L using List.reverseRecOn with
  | nil => simp [locate, lastStep_ofLocation_nil, bind, Except.bind, pure, Except.pure,
    Except.toOption]
  | append_singleton L n _ =>
    have hL' : ∀ m ∈ L, PlainName m := fun m hm => hL m (by simp [hm])
    have hn : PlainName n := hL n (by simp)
    by_cases hdir : t.at? L = some .directory
    · have hstep := lastStep_of_dir hwf hL hdir
      rcases hat : t.at? (L ++ [n]) with _ | e
      · simp [locate, hstep, bind, Except.bind, hn.2.2.1, hn.2.2.2, hat]
        rfl
      · cases e <;>
          simp [locate, hstep, bind, Except.bind, pure, Except.pure, hn.2.2.1, hn.2.2.2, hat,
            endsInSeparator, endsWith_locationKey hL (by simp), Except.toOption]
    · obtain ⟨err, herr, -⟩ := enter_of_not_dir [] L (by simpa using hL') at?_nil
        (by simpa using hdir)
      have hnone : t.at? (L ++ [n]) = none := by
        rcases h : t.at? (L ++ [n]) with _ | e
        · rfl
        · exact absurd (hwf.parentDir L n hL (by simp [h])) hdir
      have hstep : t.lastStep (ofLocation (L ++ [n])) = .error err := by
        rw [lastStep_ofLocation_concat hL, herr]
        rfl
      simp [locate, hstep, bind, Except.bind, hnone]
      rfl

/-- a plain path with an entry at its location leads there -/
theorem locate_of_isSome (hsome : (t.at? L).isSome) : t.locate (ofLocation L) = .ok L := by
  have hloc := locate_ofLocation hwf hL
  rw [if_pos hsome] at hloc
  rcases h : t.locate (ofLocation L) with err | names
  · simp [h, Except.toOption] at hloc
  · simp only [h, Except.toOption, Option.some.injEq] at hloc
    rw [hloc]

/-- a plain path leads to the entry at its location -/
theorem stat_ofLocation : (t.stat (ofLocation L)).toOption = t.at? L := by
  have hloc := locate_ofLocation hwf hL
  rcases h : t.locate (ofLocation L) with err | names
  · rw [h] at hloc
    rcases hat : t.at? L with _ | e
    · simp [stat, h, bind, Except.bind]
      rfl
    · simp [hat, Except.toOption] at hloc
  · rw [h] at hloc
    rcases hat : t.at? L with _ | e
    · simp [hat, Except.toOption] at hloc
    · simp only [hat, Option.isSome_some, ↓reduceIte, Except.toOption, Option.some.injEq] at hloc
      subst hloc
      simp [stat, h, bind, Except.bind, hat]
      rfl

theorem isFile_ofLocation : t.isFile (ofLocation L) = true ↔ ∃ c, t.at? L = some (.file c) := by
  have hstat := stat_ofLocation hwf hL
  unfold isFile
  rcases h : t.stat (ofLocation L) with err | e
  · rw [h] at hstat
    simp [← hstat, Except.toOption]
  · rw [h] at hstat
    cases e <;> simp [← hstat, Except.toOption]

theorem isDir_ofLocation : t.isDir (ofLocation L) = true ↔ t.at? L = some .directory := by
  have hstat := stat_ofLocation hwf hL
  unfold isDir
  rcases h : t.stat (ofLocation L) with err | e
  · rw [h] at hstat
    simp [← hstat, Except.toOption]
  · rw [h] at hstat
    cases e <;> simp [← hstat, Except.toOption]

theorem exists?_ofLocation : t.exists? (ofLocation L) = (t.at? L).isSome := by
  rw [← stat_ofLocation hwf hL, exists?]
  cases t.stat (ofLocation L) <;> rfl

theorem read_ofLocation (c : String) : t.read (ofLocation L) = .ok c ↔ t.at? L = some (.file c) := by
  have hstat := stat_ofLocation hwf hL
  unfold read
  rcases h : t.stat (ofLocation L) with err | e
  · rw [h] at hstat
    simp only [Except.toOption] at hstat
    simp [bind, Except.bind, ← hstat]
  · rw [h] at hstat
    simp only [Except.toOption] at hstat
    cases e <;> simp [bind, Except.bind, ← hstat]

end Lookup

/-! ## Changing a tree at a plain path -/

theorem mkdir_ofLocation_nil : t.mkdir (ofLocation []) = .error .alreadyExists := by
  simp [mkdir, lastStep_ofLocation_nil, bind, Except.bind]
  rfl

section Change

variable (hwf : t.WellFormed)
include hwf

/-- writing a file into a directory puts the file at its location, replacing a file there -/
theorem write_ofLocation (hplain : ∀ m ∈ L ++ [n], PlainName m)
    (hparent : t.at? L = some .directory) (hnot : t.at? (L ++ [n]) ≠ some .directory) (c : String) :
    t.write (ofLocation (L ++ [n])) c = .ok (t.put (L ++ [n]) (.file c)) := by
  have hn : PlainName n := hplain n (by simp)
  have hsep : endsInSeparator (ofLocation (L ++ [n])) = false :=
    endsWith_locationKey hplain (by simp)
  rcases hat : t.at? (L ++ [n]) with _ | e
  · simp [write, lastStep_of_dir hwf hplain hparent, bind, Except.bind, hn.2.2.1, hn.2.2.2, hsep,
      hat]
    rfl
  · cases e with
    | file c' =>
      simp [write, lastStep_of_dir hwf hplain hparent, bind, Except.bind, hn.2.2.1, hn.2.2.2, hsep,
        hat]
      rfl
    | directory => exact absurd hat hnot

/-- writing a file where a directory stands is refused -/
theorem write_ofLocation_of_dir (hplain : ∀ m ∈ L ++ [n], PlainName m)
    (hparent : t.at? L = some .directory) (hdir : t.at? (L ++ [n]) = some .directory) (c : String) :
    t.write (ofLocation (L ++ [n])) c = .error .isADirectory := by
  have hn : PlainName n := hplain n (by simp)
  have hsep : endsInSeparator (ofLocation (L ++ [n])) = false :=
    endsWith_locationKey hplain (by simp)
  simp [write, lastStep_of_dir hwf hplain hparent, bind, Except.bind, hn.2.2.1, hn.2.2.2, hsep, hdir]
  rfl

/-- making one directory: refused as existing when something is there, as missing when its
parent is not a directory and no file stands on the way, and made otherwise -/
theorem mkdir_ofLocation_concat (hplain : ∀ m ∈ L ++ [n], PlainName m) (hpass : t.NoFileOn L) :
    t.mkdir (ofLocation (L ++ [n])) =
      if t.at? L = some .directory then
        if (t.at? (L ++ [n])).isSome then .error .alreadyExists
        else .ok (t.put (L ++ [n]) .directory)
      else .error .notFound := by
  have hn : PlainName n := hplain n (by simp)
  have hL : ∀ m ∈ L, PlainName m := fun m hm => hplain m (by simp [hm])
  by_cases hdir : t.at? L = some .directory
  · rw [if_pos hdir]
    rcases hat : t.at? (L ++ [n]) with _ | e
    · simp [mkdir, lastStep_of_dir hwf hplain hdir, bind, Except.bind, hn.2.2.1, hn.2.2.2, hat]
      rfl
    · simp [mkdir, lastStep_of_dir hwf hplain hdir, bind, Except.bind, hn.2.2.1, hn.2.2.2, hat]
      rfl
  · rw [if_neg hdir]
    obtain ⟨err, herr, hnf⟩ := enter_of_not_dir [] L (by simpa using hL) at?_nil
      (by simpa using hdir)
    rw [hnf (by simpa using hpass)] at herr
    simp [mkdir, lastStep_ofLocation_concat hplain, herr, bind, Except.bind]

end Change

/-! ## Making the directories along a location -/

/-- `t'` is `t` with every location along `L` a directory -/
def DirsMade (t t' : FileTree) (L : List String) : Prop :=
  t'.WellFormed ∧ ∀ P, (∀ m ∈ P, PlainName m) → t'.at? P = if P <+: L then some .directory else t.at? P

theorem concat_not_prefix_self (M : List String) (n : String) : ¬ (M ++ [n]) <+: M := fun h => by
  simpa using h.length_le

/-- a directory made at a location whose parent is one, after the directories along the
parent were made, gives every directory along the location -/
theorem DirsMade.put_concat {t₁ : FileTree} (hmade : DirsMade t t₁ M)
    (hplain : ∀ m ∈ M ++ [n], PlainName m) :
    DirsMade t (t₁.put (M ++ [n]) .directory) (M ++ [n]) := by
  have hM : ∀ m ∈ M, PlainName m := fun m hm => hplain m (by simp [hm])
  have hdir₁ : t₁.at? M = some .directory := by rw [hmade.2 M hM, if_pos (List.prefix_refl M)]
  refine ⟨hmade.1.put hplain (by simp) (by rwa [List.dropLast_concat]) _ (.inr rfl), fun P hP => ?_⟩
  rw [at?_put hplain (by simp) hP, hmade.2 P hP]
  by_cases hPn : P = M ++ [n]
  · simp [hPn]
  · simp [hPn, List.prefix_concat_iff]

section MakeDirs

variable (hwf : t.WellFormed)
include hwf

/-- a location that is a directory has every directory along it already -/
theorem dirsMade_of_dir (hM : ∀ m ∈ M, PlainName m) (hdir : t.at? M = some .directory) :
    DirsMade t t M := by
  refine ⟨hwf, fun P _ => ?_⟩
  split
  · rename_i hP
    by_cases hPM : P = M
    · rw [hPM, hdir]
    · exact hwf.dirAbove hM (by simp [hdir]) P hP hPM
  · rfl

/-- making the directories of the components of a plain location makes every directory along it,
when no file stands on the way -/
theorem mkdirAll_root (M : List String) (hM : ∀ m ∈ M, PlainName m) (hpass : t.NoFileOn M) :
    ∃ t', t.mkdirAll (.root :: M.map .normal) = .ok t' ∧ DirsMade t t' M := by
  induction M using List.reverseRecOn with
  | nil =>
    refine ⟨t, ?_, dirsMade_of_dir hwf (by simp) at?_nil⟩
    rw [mkdirAll, dif_neg (by simp)]
    simp only [ofComponents_root (show ∀ m ∈ ([] : List String), PlainName m by simp)]
    simp [mkdir_ofLocation_nil, (isDir_ofLocation hwf (L := []) (by simp)).mpr at?_nil]
  | append_singleton M n ih =>
    have hM' : ∀ m ∈ M, PlainName m := fun m hm => hM m (by simp [hm])
    have hpass' := hpass.anti (List.prefix_append M [n])
    rw [mkdirAll, dif_neg (by simp)]
    simp only [ofComponents_root hM, mkdir_ofLocation_concat hwf hM hpass']
    by_cases hdir : t.at? M = some .directory
    · rw [if_pos hdir]
      by_cases hsome : (t.at? (M ++ [n])).isSome
      · -- already there: a directory, since no file stands on the way
        have hdir' : t.at? (M ++ [n]) = some .directory := by
          rcases h : t.at? (M ++ [n]) with _ | e
          · simp [h] at hsome
          · cases e with
            | file c => exact absurd h (hpass _ (List.prefix_refl _) c)
            | directory => rfl
        simp only [if_pos hsome, (isDir_ofLocation hwf hM).mpr hdir']
        exact ⟨t, rfl, dirsMade_of_dir hwf hM hdir'⟩
      · have hnone : t.at? (M ++ [n]) = none := by simpa using hsome
        rw [if_neg hsome]
        exact ⟨_, rfl, (dirsMade_of_dir hwf hM' hdir).put_concat hM⟩
    · -- the parent is missing: it is made first, then the directory
      rw [if_neg hdir]
      have hnone : t.at? (M ++ [n]) = none := by
        rcases h : t.at? (M ++ [n]) with _ | e
        · rfl
        · exact absurd (hwf.parentDir M n hM (by simp [h])) hdir
      obtain ⟨t₁, h₁, hmade₁⟩ := ih hM' hpass'
      have hdir₁ : t₁.at? M = some .directory := by rw [hmade₁.2 M hM', if_pos (List.prefix_refl M)]
      have hnone₁ : t₁.at? (M ++ [n]) = none := by
        rw [hmade₁.2 _ hM, if_neg (concat_not_prefix_self M n), hnone]
      have hlast : (Component.root :: (M ++ [n]).map Component.normal).getLast? =
          some (.normal n) := by
        rw [List.map_append, List.map_singleton, ← List.cons_append, List.getLast?_concat]
      have hdrop : (Component.root :: (M ++ [n]).map Component.normal).dropLast =
          Component.root :: M.map Component.normal := by
        rw [List.map_append, List.map_singleton, ← List.cons_append, List.dropLast_concat]
      simp only [bne_self_eq_false, Bool.false_eq_true, ↓reduceIte, hlast, hdrop, h₁, bind,
        Except.bind, mkdir_ofLocation_concat hmade₁.1 hM (hmade₁.1.noFileOn_of_dir hM' hdir₁),
        hdir₁, hnone₁, Option.isSome_none]
      exact ⟨_, rfl, hmade₁.put_concat hM⟩

/-- making a plain directory and every missing one above it, when no file stands on the way,
makes every directory along it -/
theorem createDirAll_ofLocation (hL : ∀ m ∈ L, PlainName m) (hpass : t.NoFileOn L) :
    ∃ t', t.createDirAll (ofLocation L) = .ok t' ∧ DirsMade t t' L := by
  have heq : t.createDirAll (ofLocation L) = t.mkdirAll (.root :: L.map .normal) := by
    rw [createDirAll, mkdirAll, dif_neg (by simp), ofComponents_root hL, if_neg (by
      rw [text_ofLocation_ne_empty]; exact Bool.false_ne_true), components_ofLocation hL]
  rw [heq]
  exact mkdirAll_root hwf L hL hpass

end MakeDirs

/-! ## The entries inside a directory -/

theorem stripPrefix?_eq_some_iff {s pre rest : String} :
    Text.stripPrefix? s pre = some rest ↔ s = pre ++ rest := by
  unfold Text.stripPrefix?
  split
  · rename_i hpre
    obtain ⟨tail, htail⟩ := List.isPrefixOf_iff_prefix.mp hpre
    have hdrop : s.toList.drop pre.length = tail := by
      rw [← htail, ← String.length_toList, List.drop_left]
    rw [Option.some.injEq, hdrop]
    constructor
    · rintro rfl
      rw [String.ext_iff, String.toList_append, String.toList_ofList, htail]
    · intro hs
      rw [hs, String.toList_append] at htail
      rw [List.append_cancel_left htail, String.ofList_toList]
  · rename_i hpre
    simp only [reduceCtorEq, false_iff]
    rintro rfl
    exact hpre (List.isPrefixOf_iff_prefix.mpr (by simp))

/-- the names directly below a location, in the key of a location below it, are what follows the
location's text -/
theorem stripPrefix?_dirKey {K : List String} (hD : ∀ m ∈ D, PlainName m)
    (hK : ∀ m ∈ K, PlainName m) (hKne : K ≠ []) (rest : String) :
    Text.stripPrefix? (locationKey K) (dirKey D) = some rest ↔
      ∃ more, more ≠ [] ∧ K = D ++ more ∧ rest = "/".intercalate more := by
  rw [stripPrefix?_eq_some_iff]
  constructor
  · intro hk
    obtain ⟨more, hmore, rfl⟩ := (dirKey_prefix_locationKey_iff hD hK hKne).mp
      ⟨rest.toList, by rw [hk, String.toList_append]⟩
    refine ⟨more, hmore, rfl, ?_⟩
    rw [dirKey_append hmore] at hk
    exact (String.append_right_inj _).mp hk |>.symm
  · rintro ⟨more, hmore, rfl, rfl⟩
    exact dirKey_append hmore

/-- the entries directly inside a directory are the entries at its plain names -/
theorem mem_children (hwf : t.WellFormed) (hD : ∀ m ∈ D, PlainName m) (n : String) (e : Entry) :
    (n, e) ∈ t.children D ↔ PlainName n ∧ t.at? (D ++ [n]) = some e := by
  unfold children
  rw [List.mem_filterMap]
  constructor
  · rintro ⟨⟨k, e'⟩, hmem, hf⟩
    obtain ⟨K, hKne, hK, rfl⟩ := hwf.plainKeys k e' hmem
    have hget := (SortedMap.mem_entries_iff _ _ _).mp hmem
    dsimp only at hf
    split at hf
    · rename_i rest hrest
      obtain ⟨more, hmore, rfl, rfl⟩ := (stripPrefix?_dirKey hD hK hKne rest).mp hrest
      -- a name without a separator is the only name below
      obtain ⟨m, more', rfl⟩ := List.exists_cons_of_ne_nil hmore
      cases more' with
      | nil =>
        have hm : PlainName m := hK m (by simp)
        simp only [String.intercalate_singleton, String.contains_char_eq, hm.slash_not_mem,
          decide_false, Bool.false_eq_true, ↓reduceIte, Option.some.injEq, Prod.mk.injEq] at hf
        obtain ⟨rfl, rfl⟩ := hf
        exact ⟨hm, by rw [at?_of_ne_nil (by simp)]; exact hget⟩
      | cons m' more' =>
        simp [String.contains_char_eq] at hf
    · cases hf
  · rintro ⟨hn, hat⟩
    have hplain : ∀ m ∈ D ++ [n], PlainName m := by simpa [or_imp, forall_and] using ⟨hD, hn⟩
    refine ⟨(locationKey (D ++ [n]), e), ?_, ?_⟩
    · rw [SortedMap.mem_entries_iff, ← at?_of_ne_nil (by simp)]
      exact hat
    · have hstrip : Text.stripPrefix? (locationKey (D ++ [n])) (dirKey D) = some n :=
        (stripPrefix?_dirKey hD hplain (by simp) n).mpr ⟨[n], by simp, rfl, by simp⟩
      dsimp only
      rw [show (if D.isEmpty then "/" else locationKey D ++ "/") = dirKey D from rfl, hstrip]
      simp [String.contains_char_eq, hn.slash_not_mem]

end BuildRecipe.FileTree

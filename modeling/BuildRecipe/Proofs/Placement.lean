/-
Placing files in a tree, one job at a time. On a well-formed tree, writing a text or copying a file
to a plain location with no file on its way and no directory at it makes the directories along
the way, puts the file there and changes nothing else (`Job.run_writeText`, `Job.run_copyTo`).

A run of such jobs is described against the tree it started from (`Placed`): every location placed
holds the file meant for it, every location above one is a directory, and every other location
holds what it held. `Placed.place` is the step lemma; when the locations meant for files leave room
for one another (`Room`), each write and copy keeps the description (`Placed.run_writeText`,
`Placed.run_copyTo`), and so does copying every file below a folder to the same places below
another (`Placed.run_copyTree`, by induction on the files found). Outside a folder that holds every
location placed, only the directories on the way to it change (`Placed.at?_of_not_below`).
-/
import BuildRecipe.License.Report
import BuildRecipe.Proofs.Glob
import BuildRecipe.Proofs.Job

namespace BuildRecipe

open BuildRecipe.Path FileTree

namespace FileTree

/-- `t'` is `t` with the file `c` put at `L ++ [n]` and every location along `L` a directory -/
def FileWritten (t t' : FileTree) (L : List String) (n c : String) : Prop :=
  t'.WellFormed ∧ ∀ P, (∀ m ∈ P, PlainName m) →
    t'.at? P = if P = L ++ [n] then some (.file c) else if P <+: L then some .directory else t.at? P

variable {t t₁ : FileTree} {L S : List String} {n c : String}

/-- once the directories along `L` are made, `L` is one and a child of `L` holds what it held -/
theorem DirsMade.parent (hmade : DirsMade t t₁ L) (hplain : ∀ m ∈ L ++ [n], PlainName m) :
    t₁.at? L = some .directory ∧ t₁.at? (L ++ [n]) = t.at? (L ++ [n]) := by
  have hL : ∀ m ∈ L, PlainName m := (List.forall_mem_append.mp hplain).1
  exact ⟨by rw [hmade.2 L hL, if_pos (List.prefix_refl L)],
    by rw [hmade.2 _ hplain, if_neg (concat_not_prefix_self L n)]⟩

/-- a file put after the directories along its parent were made -/
theorem DirsMade.fileWritten (hmade : DirsMade t t₁ L) (hplain : ∀ m ∈ L ++ [n], PlainName m)
    (hnot : t.at? (L ++ [n]) ≠ some .directory) (c : String) :
    FileWritten t (t₁.put (L ++ [n]) (.file c)) L n c := by
  obtain ⟨hdir₁, hsame⟩ := hmade.parent hplain
  refine ⟨hmade.1.put hplain (by simp) (by rwa [List.dropLast_concat]) _ (.inl (hsame ▸ hnot)),
    fun P hP => ?_⟩
  rw [at?_put hplain (by simp) hP, hmade.2 P hP]

/-- a location that leads to a file is read by `stat` as that file -/
theorem stat_of_file (hwf : t.WellFormed) (hS : ∀ m ∈ S, PlainName m)
    (hfile : t.at? S = some (.file c)) : t.stat (ofLocation S) = .ok (.file c) := by
  have h := stat_ofLocation hwf hS
  rw [hfile] at h
  cases hs : t.stat (ofLocation S) <;> simp_all [Except.toOption]

end FileTree

namespace Job

variable {w : Workspace} {L S : List String} {n c : String}

/-- making sure a directory exists, with no file on the way to it, makes the directories along
it -/
theorem run_ensureDir (hwf : w.files.WellFormed) (hL : ∀ m ∈ L, PlainName m)
    (hpass : w.files.NoFileOn L) :
    ∃ t₁, (ensureDir (ofLocation L)).run w = (.ok (), { w with files := t₁ }) ∧
      DirsMade w.files t₁ L := by
  by_cases hdir : w.files.at? L = some .directory
  · refine ⟨w.files, ?_, dirsMade_of_dir hwf hL hdir⟩
    simp [ensureDir, pathExists, run_bind, exists?_ofLocation hwf hL, hdir]
  · have hnone : w.files.at? L = none := by
      rcases h : w.files.at? L with _ | e
      · rfl
      · cases e with
        | file c => exact absurd h (hpass L (List.prefix_refl L) c)
        | directory => exact absurd h hdir
    obtain ⟨t₁, hmk, hmade⟩ := createDirAll_ofLocation hwf hL hpass
    refine ⟨t₁, ?_, hmade⟩
    simp [ensureDir, pathExists, createDirAll, run_bind, exists?_ofLocation hwf hL, hnone, hmk,
      Except.mapError]

theorem run_writeFile (hwf : w.files.WellFormed) (hplain : ∀ m ∈ L ++ [n], PlainName m)
    (hparent : w.files.at? L = some .directory) (hnot : w.files.at? (L ++ [n]) ≠ some .directory) :
    (writeFile (ofLocation (L ++ [n])) c).run w =
      (.ok (), { w with files := w.files.put (L ++ [n]) (.file c) }) := by
  simp [writeFile, run_bind, write_ofLocation hwf hplain hparent hnot, Except.mapError]

theorem run_copyFile (hwf : w.files.WellFormed) (hplain : ∀ m ∈ L ++ [n], PlainName m)
    (hparent : w.files.at? L = some .directory) (hnot : w.files.at? (L ++ [n]) ≠ some .directory)
    (hS : ∀ m ∈ S, PlainName m) (hfile : w.files.at? S = some (.file c)) :
    (copyFile (ofLocation S) (ofLocation (L ++ [n]))).run w =
      (.ok (), { w with files := w.files.put (L ++ [n]) (.file c) }) := by
  have hcopy : w.files.copy (ofLocation S) (ofLocation (L ++ [n])) =
      .ok (w.files.put (L ++ [n]) (.file c)) := by
    simp [FileTree.copy, stat_of_file hwf hS hfile, bind, Except.bind,
      write_ofLocation hwf hplain hparent hnot]
  simp [copyFile, run_bind, hcopy, Except.mapError]

/-- writing a text to a plain location with no file on the way and no directory at it -/
theorem run_writeText (hwf : w.files.WellFormed) (hplain : ∀ m ∈ L ++ [n], PlainName m)
    (hpass : w.files.NoFileOn L) (hnot : w.files.at? (L ++ [n]) ≠ some .directory) (c : String) :
    ∃ t', (writeText (ofLocation (L ++ [n])) c).run w = (.ok (), { w with files := t' }) ∧
      FileWritten w.files t' L n c := by
  have hL : ∀ m ∈ L, PlainName m := (List.forall_mem_append.mp hplain).1
  obtain ⟨t₁, hrun, hmade⟩ := run_ensureDir hwf hL hpass
  obtain ⟨hdir₁, hsame⟩ := hmade.parent hplain
  refine ⟨_, ?_, hmade.fileWritten hplain hnot c⟩
  rw [writeText, parent?_ofLocation_concat hL (hplain n (by simp))]
  simp only [run_bind, hrun, run_context]
  rw [run_writeFile (w := { w with files := t₁ }) hmade.1 hplain hdir₁ (hsame ▸ hnot)]
  rfl

/-- writing a text where a directory stands fails, and changes nothing -/
theorem run_writeText_of_dir {M : List String} (hwf : w.files.WellFormed) (hMne : M ≠ [])
    (hplain : ∀ m ∈ M, PlainName m) (hdir : w.files.at? M = some .directory) (c : String) :
    ∃ f, (writeText (ofLocation M) c).run w = (.error f, w) := by
  obtain ⟨L, n, rfl⟩ := (List.eq_nil_or_concat' M).resolve_left hMne
  have hL : ∀ m ∈ L, PlainName m := (List.forall_mem_append.mp hplain).1
  have hparent := hwf.parentDir L n hplain (by simp [hdir])
  -- the directory above is there, so only the write itself is tried
  have hensure : (ensureDir (ofLocation L)).run w = (.ok (), w) := by
    simp [ensureDir, pathExists, run_bind, exists?_ofLocation hwf hL, hparent]
  rw [writeText, parent?_ofLocation_concat hL (hplain n (by simp))]
  simp only [run_bind, hensure, run_context]
  simp [writeFile, run_bind, write_ofLocation_of_dir hwf hplain hparent hdir, Except.mapError]

/-- copying a file to a plain location with no file on the way and no directory at it -/
theorem run_copyTo (hwf : w.files.WellFormed) (hplain : ∀ m ∈ L ++ [n], PlainName m)
    (hpass : w.files.NoFileOn L) (hnot : w.files.at? (L ++ [n]) ≠ some .directory)
    (hS : ∀ m ∈ S, PlainName m) (hfile : w.files.at? S = some (.file c)) :
    ∃ t', (copyTo (ofLocation S) (ofLocation (L ++ [n]))).run w = (.ok (), { w with files := t' }) ∧
      FileWritten w.files t' L n c := by
  have hL : ∀ m ∈ L, PlainName m := (List.forall_mem_append.mp hplain).1
  obtain ⟨t₁, hrun, hmade⟩ := run_ensureDir hwf hL hpass
  obtain ⟨hdir₁, hsame⟩ := hmade.parent hplain
  -- the source is a file, so it is no directory made on the way
  have hfile₁ : t₁.at? S = some (.file c) := by
    rw [hmade.2 S hS, if_neg fun hSL => hpass S hSL c hfile]
    exact hfile
  refine ⟨_, ?_, hmade.fileWritten hplain hnot c⟩
  rw [copyTo, parent?_ofLocation_concat hL (hplain n (by simp))]
  simp only [run_bind, hrun, run_context]
  rw [run_copyFile (w := { w with files := t₁ }) hmade.1 hplain hdir₁ (hsame ▸ hnot) hS hfile₁]
  rfl

end Job

/-! ## A run of placements -/

namespace FileTree

/-- what a location holds once the locations `done` got the files `want` means for them, starting
from `t₀`: a location placed holds its file, one above a location placed is a directory, and any
other holds what it held in `t₀` -/
def overlay (t₀ : FileTree) (want : List String → Option String) (done : List (List String))
    (L : List String) : Option Entry :=
  if L ∈ done then (want L).map .file
  else if ∃ x ∈ done, L <+: x then some .directory
  else t₀.at? L

/-- the files `want` means leave room for one another in `t₀`: none lies below another, none has a
file of `t₀` above it, and none stands where `t₀` has a directory -/
structure Room (t₀ : FileTree) (want : List String → Option String) : Prop where
  antichain : ∀ x y, (want x).isSome → (want y).isSome → x <+: y → x = y
  noFileAbove : ∀ M, (want M).isSome → ∀ P, P <+: M → P ≠ M → ∀ c, t₀.at? P ≠ some (.file c)
  noDirAt : ∀ M, (want M).isSome → t₀.at? M ≠ some .directory

/-- `t` is `t₀` after the locations `done`, in any order, got the files `want` means for them -/
structure Placed (t₀ : FileTree) (want : List String → Option String) (done : List (List String))
    (t : FileTree) : Prop where
  wf : t.WellFormed
  meant : ∀ x ∈ done, (want x).isSome
  at?_eq : ∀ L, (∀ m ∈ L, PlainName m) → t.at? L = overlay t₀ want done L

variable {t₀ t t' : FileTree} {want : List String → Option String} {done : List (List String)}
  {L : List String} {n c : String}

theorem Placed.init (hwf : t₀.WellFormed) : Placed t₀ want [] t₀ :=
  ⟨hwf, by simp, fun L _ => by simp [overlay]⟩

/-- a location meant for a file has no file on its way and no directory at it, at every point of
the run -/
theorem Placed.room (h : Placed t₀ want done t) (hroom : Room t₀ want)
    (hplain : ∀ m ∈ L ++ [n], PlainName m) (hM : (want (L ++ [n])).isSome) :
    t.NoFileOn L ∧ t.at? (L ++ [n]) ≠ some .directory := by
  have hstrict : ∀ P, P <+: L → P ≠ L ++ [n] := fun P hP hPM =>
    concat_not_prefix_self L n (hPM ▸ hP)
  constructor
  · intro P hP c' hc'
    have hPM : P <+: L ++ [n] := hP.trans (List.prefix_append L [n])
    rw [h.at?_eq P fun m hm => hplain m (hPM.subset hm)] at hc'
    unfold overlay at hc'
    split_ifs at hc' with hin
    · -- a file placed above another location meant for one would break the antichain
      exact hstrict P hP (hroom.antichain P _ (h.meant P hin) hM hPM)
    · cases hc'
    · exact hroom.noFileAbove _ hM P hPM (hstrict P hP) c' hc'
  · intro hd
    rw [h.at?_eq _ hplain] at hd
    unfold overlay at hd
    split_ifs at hd with hin hbelow
    · cases hw : want (L ++ [n]) <;> simp [hw] at hd
    · obtain ⟨x, hx, hpre⟩ := hbelow
      exact hin (hroom.antichain _ x hM (h.meant x hx) hpre ▸ hx)
    · exact hroom.noDirAt _ hM hd

/-- placing the file meant for one more location keeps the description -/
theorem Placed.place (h : Placed t₀ want done t) (hroom : Room t₀ want)
    (hw : FileWritten t t' L n c) (hc : want (L ++ [n]) = some c) :
    Placed t₀ want (done ++ [L ++ [n]]) t' := by
  have hM : (want (L ++ [n])).isSome := by simp [hc]
  refine ⟨hw.1, fun x hx => ?_, fun P hP => ?_⟩
  · rcases List.mem_append.mp hx with hx | hx
    · exact h.meant x hx
    · rw [List.mem_singleton.mp hx]
      exact hM
  rw [hw.2 P hP, h.at?_eq P hP]
  by_cases hPM : P = L ++ [n]
  · simp [overlay, hPM, hc]
  by_cases hPL : P <+: L
  · -- above the new file: a directory, and never placed itself
    have hout : P ∉ done := fun hin =>
      concat_not_prefix_self L n (hroom.antichain P _ (h.meant P hin) hM
        (hPL.trans (List.prefix_append L [n])) ▸ hPL)
    simp [overlay, hPM, hPL, hout, hPL.trans (List.prefix_append L [n])]
  · -- elsewhere the new file changes nothing
    have hnot : ¬ P <+: L ++ [n] := fun hpre =>
      (List.prefix_concat_iff.mp hpre).elim hPM hPL
    simp [overlay, hPM, hPL, hnot]

end FileTree

namespace FileTree

open Job

variable {w : Workspace} {t₀ t : FileTree} {want : List String → Option String}
  {done : List (List String)} {L M S : List String} {c : String}

/-- writing the text meant for a location keeps the description of the run -/
theorem Placed.run_writeText (h : Placed t₀ want done w.files) (hroom : Room t₀ want)
    (hMne : M ≠ []) (hplain : ∀ m ∈ M, PlainName m) (hc : want M = some c) :
    ∃ t', (writeText (ofLocation M) c).run w = (.ok (), { w with files := t' }) ∧
      Placed t₀ want (done ++ [M]) t' := by
  obtain ⟨L, n, rfl⟩ := (List.eq_nil_or_concat' M).resolve_left hMne
  obtain ⟨hpass, hnot⟩ := h.room hroom hplain (by simp [hc])
  obtain ⟨t', hrun, hw⟩ := Job.run_writeText h.wf hplain hpass hnot c
  exact ⟨t', hrun, h.place hroom hw hc⟩

/-- copying a file whose text is the one meant for a location keeps the description of the run -/
theorem Placed.run_copyTo (h : Placed t₀ want done w.files) (hroom : Room t₀ want)
    (hMne : M ≠ []) (hplain : ∀ m ∈ M, PlainName m) (hc : want M = some c)
    (hS : ∀ m ∈ S, PlainName m) (hfile : w.files.at? S = some (.file c)) :
    ∃ t', (copyTo (ofLocation S) (ofLocation M)).run w = (.ok (), { w with files := t' }) ∧
      Placed t₀ want (done ++ [M]) t' := by
  obtain ⟨L, n, rfl⟩ := (List.eq_nil_or_concat' M).resolve_left hMne
  obtain ⟨hpass, hnot⟩ := h.room hroom hplain (by simp [hc])
  obtain ⟨t', hrun, hw⟩ := Job.run_copyTo h.wf hplain hpass hnot hS hfile
  exact ⟨t', hrun, h.place hroom hw hc⟩

/-- placing files at locations none of which lies below `L` leaves `L` as it was -/
theorem overlay_append_of_none_below {more : List (List String)} (hno : ∀ x ∈ more, ¬ L <+: x) :
    overlay t₀ want (done ++ more) L = overlay t₀ want done L := by
  have hout : L ∉ more := fun hin => hno L hin (List.prefix_refl L)
  have hbelow : (∃ x ∈ done ++ more, L <+: x) ↔ ∃ x ∈ done, L <+: x := by
    constructor
    · rintro ⟨x, hx, hpre⟩
      rcases List.mem_append.mp hx with hx | hx
      · exact ⟨x, hx, hpre⟩
      · exact absurd hpre (hno x hx)
    · rintro ⟨x, hx, hpre⟩
      exact ⟨x, List.mem_append_left more hx, hpre⟩
  have hout' : L ∉ done ++ more ↔ L ∉ done := by simp [hout]
  unfold overlay
  by_cases hin : L ∈ done
  · rw [if_pos (List.mem_append_left more hin), if_pos hin]
  · rw [if_neg (hout'.mpr hin), if_neg hin]
    by_cases hb : ∃ x ∈ done, L <+: x
    · rw [if_pos (hbelow.mpr hb), if_pos hb]
    · rw [if_neg (mt hbelow.mp hb), if_neg hb]

theorem Placed.at?_eq_of_none_below {t' : FileTree} {more : List (List String)}
    (h : Placed t₀ want done t) (h' : Placed t₀ want (done ++ more) t')
    (hL : ∀ m ∈ L, PlainName m) (hno : ∀ x ∈ more, ¬ L <+: x) : t'.at? L = t.at? L := by
  rw [h'.at?_eq L hL, h.at?_eq L hL, overlay_append_of_none_below hno]

end FileTree

/-! ## Copying the files below a folder -/

namespace FileTree

open Job

variable {w : Workspace} {t₀ : FileTree} {want : List String → Option String}
  {done : List (List String)} {S T : List String}

/-- the files below a plain folder without wildcards, found by `<folder>/**/*`, are exactly the
paths of the files below it -/
theorem run_globFiles (hwf : w.files.WellFormed) (hS : ∀ m ∈ S, PlainName m)
    (hlit : Glob.Literal (locationKey S)) (hne : S ≠ []) (hdir : w.files.at? S = some .directory) :
    ∃ files, (License.globFiles (ofLocation S) "**/*").run w = (.ok files, w) ∧
      ∀ x, x ∈ files ↔ ∃ r, r ≠ [] ∧ (∀ m ∈ r, PlainName m) ∧ x = ofLocation (S ++ r) ∧
        ∃ c, w.files.at? (S ++ r) = some (.file c) := by
  obtain ⟨found, hsearch, hfound⟩ := Glob.mem_search_descendants hwf hS hlit hne hdir
  refine ⟨(found.filter w.files.isFile).mergeSort fun a b => Path.compare a b != .gt, ?_,
    fun x => ?_⟩
  · simp [License.globFiles, run_bind, hsearch]
  · rw [List.mem_mergeSort, List.mem_filter, hfound]
    constructor
    · rintro ⟨⟨r, hr, hrp, rfl, -⟩, hfile⟩
      exact ⟨r, hr, hrp, rfl,
        (isFile_ofLocation hwf (List.forall_mem_append.mpr ⟨hS, hrp⟩)).mp hfile⟩
    · rintro ⟨r, hr, hrp, rfl, c, hc⟩
      exact ⟨⟨r, hr, hrp, rfl, by simp [hc]⟩,
        (isFile_ofLocation hwf (List.forall_mem_append.mpr ⟨hS, hrp⟩)).mpr ⟨c, hc⟩⟩

/-- two locations below two folders neither of which lies below the other never lie one below the
other -/
theorem not_prefix_of_apart {r r' : List String} (hST : ¬ S <+: T) (hTS : ¬ T <+: S) :
    ¬ S ++ r <+: T ++ r' := fun h =>
  (List.prefix_or_prefix_of_prefix ((List.prefix_append S r).trans h) (List.prefix_append T r')).elim
    hST hTS

/-- copying the files of the list, each below `S` with the text meant for its place below `T` -/
theorem Placed.run_copyEach (hroom : Room t₀ want) (hS : ∀ m ∈ S, PlainName m)
    (hT : ∀ m ∈ T, PlainName m) (hST : ¬ S <+: T) (hTS : ¬ T <+: S) :
    ∀ (fs : List Path) (w : Workspace) (done : List (List String)),
      Placed t₀ want done w.files →
      (∀ f ∈ fs, ∃ r c, r ≠ [] ∧ (∀ m ∈ r, PlainName m) ∧ f = ofLocation (S ++ r) ∧
        w.files.at? (S ++ r) = some (.file c) ∧ want (T ++ r) = some c) →
      ∃ t' extra, (fs.forM fun f => copyTo f ((ofLocation T).join (f.relativeTo (ofLocation S)))).run w =
          (.ok (), { w with files := t' }) ∧ Placed t₀ want (done ++ extra) t' ∧
        ∀ x, x ∈ extra ↔ ∃ r, ofLocation (S ++ r) ∈ fs ∧ r ≠ [] ∧ (∀ m ∈ r, PlainName m) ∧ x = T ++ r
  | [], w, done, h, _ => ⟨w.files, [], rfl, by simpa using h, by simp⟩
  | f :: fs, w, done, h, hfs => by
    obtain ⟨r, c, hr, hrp, rfl, hfile, hc⟩ := hfs f (by simp)
    have hSr : ∀ m ∈ S ++ r, PlainName m := List.forall_mem_append.mpr ⟨hS, hrp⟩
    have hTr : ∀ m ∈ T ++ r, PlainName m := List.forall_mem_append.mpr ⟨hT, hrp⟩
    have htarget : (ofLocation T).join ((ofLocation (S ++ r)).relativeTo (ofLocation S)) =
        ofLocation (T ++ r) := by
      rw [relativeTo_ofLocation hS hrp hr, join_ofComponents hT hrp hr]
    obtain ⟨t₁, hrun₁, h₁⟩ := h.run_copyTo hroom (by simp [hr]) hTr hc hSr hfile
    -- the copy lands below `T`, so the sources below `S` stay as they were
    have hsrc : ∀ f ∈ fs, ∃ r c, r ≠ [] ∧ (∀ m ∈ r, PlainName m) ∧ f = ofLocation (S ++ r) ∧
        t₁.at? (S ++ r) = some (.file c) ∧ want (T ++ r) = some c := by
      intro f' hf'
      obtain ⟨r', c', hr', hrp', rfl, hfile', hc'⟩ := hfs f' (by simp [hf'])
      refine ⟨r', c', hr', hrp', rfl, ?_, hc'⟩
      rw [h.at?_eq_of_none_below h₁ (List.forall_mem_append.mpr ⟨hS, hrp'⟩) (by simpa using not_prefix_of_apart hST hTS), hfile']
    obtain ⟨t', extra, hrun, h', hextra⟩ :=
      Placed.run_copyEach hroom hS hT hST hTS fs { w with files := t₁ } _ h₁ hsrc
    refine ⟨t', [T ++ r] ++ extra, ?_, by simpa using h', fun x => ?_⟩
    · simp only [List.forM, run_bind, htarget, hrun₁]
      exact hrun
    · rw [List.mem_append, List.mem_singleton, hextra]
      constructor
      · rintro (rfl | ⟨r', hf', hr', hrp', rfl⟩)
        · exact ⟨r, by simp, hr, hrp, rfl⟩
        · exact ⟨r', by simp [hf'], hr', hrp', rfl⟩
      · rintro ⟨r', hf', hr', hrp', rfl⟩
        rcases List.mem_cons.mp hf' with heq | hf'
        · have hrr := (ofLocation_inj (List.forall_mem_append.mpr ⟨hS, hrp'⟩) hSr).mp heq
          exact .inl (by rw [List.append_cancel_left hrr])
        · exact .inr ⟨r', hf', hr', hrp', rfl⟩

/-- **Copying the files below a folder places each at its relative location below the target.**
For a plain folder without wildcards holding the files meant for their places below a target
folder apart from it, the copy succeeds, keeps the description of the run, and places exactly the
locations below the target of the files below the source -/
theorem Placed.run_copyTree (h : Placed t₀ want done w.files) (hroom : Room t₀ want)
    (hS : ∀ m ∈ S, PlainName m) (hlit : Glob.Literal (locationKey S)) (hne : S ≠ [])
    (hdir : w.files.at? S = some .directory) (hT : ∀ m ∈ T, PlainName m) (hST : ¬ S <+: T)
    (hTS : ¬ T <+: S)
    (hwant : ∀ r c, r ≠ [] → (∀ m ∈ r, PlainName m) → w.files.at? (S ++ r) = some (.file c) →
      want (T ++ r) = some c) :
    ∃ t' extra, (License.copyTree (ofLocation S) (ofLocation T)).run w =
        (.ok (), { w with files := t' }) ∧ Placed t₀ want (done ++ extra) t' ∧
      ∀ x, x ∈ extra ↔ ∃ r, r ≠ [] ∧ (∀ m ∈ r, PlainName m) ∧ x = T ++ r ∧
        ∃ c, w.files.at? (S ++ r) = some (.file c) := by
  obtain ⟨files, hglob, hfiles⟩ := run_globFiles h.wf hS hlit hne hdir
  have hsrc : ∀ f ∈ files, ∃ r c, r ≠ [] ∧ (∀ m ∈ r, PlainName m) ∧ f = ofLocation (S ++ r) ∧
      w.files.at? (S ++ r) = some (.file c) ∧ want (T ++ r) = some c := by
    intro f hf
    obtain ⟨r, hr, hrp, rfl, c, hc⟩ := (hfiles f).mp hf
    exact ⟨r, c, hr, hrp, rfl, hc, hwant r c hr hrp hc⟩
  obtain ⟨t', extra, hrun, h', hextra⟩ := Placed.run_copyEach hroom hS hT hST hTS files w done h hsrc
  refine ⟨t', extra, ?_, h', fun x => ?_⟩
  · rw [License.copyTree, run_bind, hglob]
    exact hrun
  · rw [hextra]
    constructor
    · rintro ⟨r, hf, hr, hrp, rfl⟩
      obtain ⟨r', hr', hrp', heq, c, hc⟩ := (hfiles _).mp hf
      have hrr : r = r' := List.append_cancel_left ((ofLocation_inj
        (List.forall_mem_append.mpr ⟨hS, hrp⟩) (List.forall_mem_append.mpr ⟨hS, hrp'⟩)).mp heq)
      subst hrr
      exact ⟨r, hr, hrp, rfl, c, hc⟩
    · rintro ⟨r, hr, hrp, rfl, c, hc⟩
      exact ⟨r, (hfiles _).mpr ⟨r, hr, hrp, rfl, c, hc⟩, hr, hrp, rfl⟩

/-! ## Outside the folder written -/

section Outside

variable {t₀ t : FileTree} {want : List String → Option String} {done : List (List String)}
  {B L : List String}

/-- when every location placed lies below `B`, a location not below `B` is a directory when it
lies above `B` and something was placed, and holds what it held before otherwise -/
theorem Placed.at?_of_not_below (h : Placed t₀ want done t) (hdone : ∀ x ∈ done, B <+: x)
    (hL : ∀ m ∈ L, PlainName m) (hout : ¬ B <+: L) :
    t.at? L = if L <+: B ∧ done ≠ [] then some .directory else t₀.at? L := by
  have hnot : L ∉ done := fun hin => hout (hdone L hin)
  have hbelow : (∃ x ∈ done, L <+: x) ↔ L <+: B ∧ done ≠ [] := by
    constructor
    · rintro ⟨x, hx, hLx⟩
      exact ⟨(List.prefix_or_prefix_of_prefix hLx (hdone x hx)).resolve_right hout,
        List.ne_nil_of_mem hx⟩
    · rintro ⟨hLB, hne⟩
      obtain ⟨x, hx⟩ := List.exists_mem_of_ne_nil done hne
      exact ⟨x, hx, hLB.trans (hdone x hx)⟩
  rw [h.at?_eq L hL]
  unfold overlay
  rw [if_neg hnot]
  by_cases hb : L <+: B ∧ done ≠ []
  · rw [if_pos (hbelow.mpr hb), if_pos hb]
  · rw [if_neg (mt hbelow.mp hb), if_neg hb]

/-- a location apart from `B` holds what it held before -/
theorem Placed.at?_apart (h : Placed t₀ want done t) (hdone : ∀ x ∈ done, B <+: x)
    (hL : ∀ m ∈ L, PlainName m) (hout : ¬ B <+: L) (hout' : ¬ L <+: B) : t.at? L = t₀.at? L := by
  rw [h.at?_of_not_below hdone hL hout, if_neg fun hb => hout' hb.1]

/-- a location not below `B`, when no file stands on the way to `B`, holds the files it held -/
theorem Placed.file_outside (h : Placed t₀ want done t) (hdone : ∀ x ∈ done, B <+: x)
    (hB : t₀.NoFileOn B) (hL : ∀ m ∈ L, PlainName m) (hout : ¬ B <+: L) (c : String) :
    t.at? L = some (.file c) ↔ t₀.at? L = some (.file c) := by
  rw [h.at?_of_not_below hdone hL hout]
  split
  · rename_i hb
    constructor
    · intro h'
      cases h'
    · intro h'
      exact absurd h' (hB L hb.1 c)
  · rfl

end Outside

end FileTree

end BuildRecipe

/-
Collecting built FMUs. A collection walks the build tree from the build folder, at most to the
depth limit, and copies every file named as an FMU flat into the destination, unless it lies in
the destination already; a walk that meets more entries than the budget fails the hook.

The walk is that of a growing tree: each copy puts a file directly inside the destination under
the name of an FMU file outside it, where no directory of that name stands, so the tree only grows
(`FileTree.grows_put_file`) and every location outside the destination stays as it was
(`FileTree.Destination`). What a collection keeps after
its visits within the budget is `Collecting`; one visit keeps it or, past the budget, ends the
walk (`Collecting.step`). So a collection either meets one entry more than its budget and fails,
or reaches every entry of the starting tree within the depth limit and succeeds
(`collect_ends`). The visits it copies are the FMU files of the starting tree outside the
destination (`copies_iff_of_recorded`), and it leaves the tree with their copies, one after
another (`placeCopies`).

Main statement: `Hook.collect_copies_walked_fmus`.
-/
import BuildRecipe.Proofs.Walk
import BuildRecipe.Proofs.Placement
import BuildRecipe.Proofs.Generation
import BuildRecipe.Hook.Artifacts

namespace BuildRecipe

open BuildRecipe.Path FileTree

section Locations

variable {t : FileTree} {L D : List String}

/-- a plain path with an entry at its location is its own canonical form -/
theorem FileTree.canonical?_ofLocation (hwf : t.WellFormed) (hL : ∀ m ∈ L, PlainName m)
    (hsome : (t.at? L).isSome) : t.canonical? (ofLocation L) = some (ofLocation L) := by
  obtain ⟨e, he⟩ := Option.isSome_iff_exists.mp hsome
  rw [canonical?, locate_of_isSome hwf hL hsome]
  simp [Except.toOption, he, ofLocation]

/-- a plain path starts with another exactly when its names do -/
theorem Path.startsWith_ofLocation (hL : ∀ m ∈ L, PlainName m) (hD : ∀ m ∈ D, PlainName m) :
    (ofLocation L).startsWith (ofLocation D) = true ↔ D <+: L := by
  rw [startsWith, components_ofLocation hL, components_ofLocation hD, List.isPrefixOf_iff_prefix,
    List.cons_prefix_cons]
  simp only [true_and]
  exact List.prefix_map_iff_of_injective fun a b h => by cases h; rfl

/-- putting a file where no directory is makes the tree grow -/
theorem FileTree.grows_put_file {M : List String} (hM : M ≠ []) (hnot : t.at? M ≠ some .directory)
    (text : String) : Grows t (t.put M (.file text)) := by
  intro L e he
  by_cases hL : L = []
  · subst hL
    exact ⟨e, he, Iff.rfl⟩
  rw [at?_of_ne_nil hL] at he
  rw [at?_of_ne_nil hL, put, SortedMap.get?_insert]
  by_cases hkey : locationKey L = locationKey M
  · -- the same key: the entry replaced was a file, as the new one is
    rw [if_pos hkey]
    rw [hkey, ← at?_of_ne_nil hM] at he
    refine ⟨.file text, rfl, ?_⟩
    cases e with
    | file _ => simp
    | directory => exact absurd he hnot
  · rw [if_neg hkey]
    exact ⟨e, he, Iff.rfl⟩

end Locations

namespace Job

theorem run_get (w : Workspace) : (get : Job Workspace).run w = (.ok w, w) := rfl

theorem run_set (w w' : Workspace) : (set w' : Job Unit).run w = (.ok (), w') := rfl

end Job

namespace FileTree

/-- a destination directory in a tree that differs from `t₀` only by files put directly inside
it: no directory stands directly inside it under the name of an FMU file of `t₀` outside it, and
every plain location outside it is as in `t₀` -/
structure Destination (t₀ t : FileTree) (D : List String) : Prop where
  wellFormed : t.WellFormed
  dir : t.at? D = some .directory
  noDir : ∀ L n text, (∀ m ∈ L ++ [n], PlainName m) → ¬ D <+: L ++ [n] →
    Hook.isFmu (ofLocation (L ++ [n])) = true → t₀.at? (L ++ [n]) = some (.file text) →
    t.at? (D ++ [n]) ≠ some .directory
  outside : ∀ X, (∀ m ∈ X, PlainName m) → ¬ D <+: X → t.at? X = t₀.at? X

/-- a visit outside the destination saw a file exactly where `t₀` holds one -/
def FileSeen (t₀ : FileTree) (D : List String) (v : Visit) : Prop :=
  ¬ D <+: walkParts v.path →
    (v.entry.any (· != .directory) = true ↔ ∃ text, t₀.at? (walkParts v.path) = some (.file text))

namespace Destination

variable {t₀ t : FileTree} {D B : List String} {maxDepth : Nat} {made rest : List Visit} {v : Visit}

theorem init (hwf : t₀.WellFormed) (hdir : t₀.at? D = some .directory)
    (hnoDir : ∀ L n text, (∀ m ∈ L ++ [n], PlainName m) → ¬ D <+: L ++ [n] →
      Hook.isFmu (ofLocation (L ++ [n])) = true → t₀.at? (L ++ [n]) = some (.file text) →
      t₀.at? (D ++ [n]) ≠ some .directory) : Destination t₀ t₀ D :=
  ⟨hwf, hdir, hnoDir, fun _ _ _ => rfl⟩

/-- a file put directly inside the destination where no directory stands keeps it one -/
theorem put_file (hd : Destination t₀ t D) (hD : ∀ m ∈ D, PlainName m) {n : String}
    (hn : PlainName n) (hnot : t.at? (D ++ [n]) ≠ some .directory) (text : String) :
    Destination t₀ (t.put (D ++ [n]) (.file text)) D := by
  have hDn : ∀ m ∈ D ++ [n], PlainName m := plain_concat hD hn
  have hne : D ++ [n] ≠ [] := by simp
  have hparent : t.at? (D ++ [n]).dropLast = some .directory := by
    rw [List.dropLast_concat]
    exact hd.dir
  refine ⟨hd.wellFormed.put hDn hne hparent _ (.inl hnot), ?_, ?_, ?_⟩
  · rw [at?_put hDn hne hD, if_neg (by simp)]
    exact hd.dir
  · intro L m text' hplain hout hfmu hfile
    rw [at?_put hDn hne (plain_concat hD (hplain m (by simp)))]
    split
    · simp
    · exact hd.noDir L m text' hplain hout hfmu hfile
  · intro X hX hout
    have hXne : X ≠ D ++ [n] := fun h => hout (h ▸ List.prefix_append D [n])
    rw [at?_put hDn hne hX, if_neg hXne]
    exact hd.outside X hX hout

/-- the visit at the head of a frontier sees a file outside the destination exactly where `t₀`
holds one -/
theorem fileSeen_head (hd : Destination t₀ t D) (hF : Frontier t₀ t B maxDepth made (v :: rest)) :
    FileSeen t₀ D v := by
  intro hout
  obtain ⟨R, hplain, -, hparts, -⟩ := hF.walkParts_path (u := v) (by simp)
  have hsame : t.at? (walkParts v.path) = t₀.at? (walkParts v.path) := by
    rw [hparts] at hout ⊢
    exact hd.outside _ hplain hout
  cases hentry : v.entry with
  | none =>
    rw [hF.missing v (.head _) hentry]
    simp
  | some e =>
    obtain ⟨e', he', hkind⟩ := hF.kind v (.head _) e hentry
    rw [← hsame, he']
    cases e <;> cases e' <;> simp_all

end Destination

end FileTree

namespace Hook

/-- whether a collection copies a visit: a regular file named as an FMU, outside the destination -/
def copies (destination : Path) (v : Visit) : Bool :=
  v.entry.any (· != .directory) && isFmu v.path && !v.path.startsWith destination

/-- where a collection copies a visit: under its file name, in the destination -/
def copyTarget (destination : Path) (v : Visit) : Path :=
  destination.join (.ofString ((v.path.fileName?).getD v.path.display))

/-- the budget failure of a collection -/
def budgetFailure (buildFolder : Path) (maxEntries : Nat) : Failure :=
  .recipe (.hookSideEffectFailure fmuArtifactsId
    ("build tree " ++ buildFolder.display ++ " has more than " ++ toString maxEntries ++ " entries"))

section Step

variable {buildFolder destination destRoot : Path} {maxEntries : Nat} {v : Visit} {c : Collection}
  {w : Workspace}

/-- a visit past the budget ends the walk with the budget failure -/
theorem collectStep_over (h : maxEntries < c.visited + 1) :
    collectStep buildFolder destination destRoot maxEntries v (c, w) =
      .done ({ c with visited := c.visited + 1, failure := some (budgetFailure buildFolder maxEntries) },
        w) := by
  simp [collectStep, h, budgetFailure]

/-- a visit within the budget that is not copied is only counted -/
theorem collectStep_pass (h : c.visited + 1 ≤ maxEntries)
    (hroot : v.entry.any (· != .directory) = true → (w.files.canonical? v.path).getD v.path = v.path)
    (hdest : destRoot = destination) (hcopies : copies destination v = false) :
    collectStep buildFolder destination destRoot maxEntries v (c, w) =
      .yield ({ c with visited := c.visited + 1 }, w) := by
  have hin : ¬ maxEntries < c.visited + 1 := Nat.not_lt.mpr h
  unfold collectStep
  simp only [gt_iff_lt, hin, if_false]
  split
  · -- a file: not an FMU, or already in the destination
    rename_i content hentry
    rw [hroot (by simp [hentry]), hdest]
    by_cases hfmu : isFmu v.path = true
    · have hunder : v.path.startsWith destination = true := by
        simpa [copies, hentry, hfmu] using hcopies
      rw [if_neg (by simp [hfmu]), if_pos hunder]
    · rw [if_pos (by simpa using hfmu)]
  · rfl

/-- the target of a visit at a plain location is its last name in the destination -/
theorem copyTarget_ofLocation {D L : List String} {n : String} (hD : ∀ m ∈ D, PlainName m)
    (hplain : ∀ m ∈ L ++ [n], PlainName m) (hpath : v.path = ofLocation (L ++ [n])) :
    copyTarget (ofLocation D) v = ofLocation (D ++ [n]) := by
  have hn : PlainName n := hplain n (by simp)
  rw [copyTarget, hpath, fileName?_ofLocation_concat (fun m hm => hplain m (by simp [hm])) hn]
  exact join_ofLocation hD hn

/-- a visit within the budget that is copied: the file's text is put under its name in the
destination -/
theorem collectStep_copy {D L : List String} {n text : String} (h : c.visited + 1 ≤ maxEntries)
    (hcopies : copies (ofLocation D) v = true) (hD : ∀ m ∈ D, PlainName m)
    (hplain : ∀ m ∈ L ++ [n], PlainName m) (hpath : v.path = ofLocation (L ++ [n]))
    (hwf : w.files.WellFormed) (hfile : w.files.at? (L ++ [n]) = some (.file text))
    (hdir : w.files.at? D = some .directory) (hnot : w.files.at? (D ++ [n]) ≠ some .directory) :
    collectStep buildFolder (ofLocation D) (ofLocation D) maxEntries v (c, w) =
      .yield ({ c with visited := c.visited + 1, copied := c.copied ++ [ofLocation (D ++ [n])] },
        { w with files := w.files.put (D ++ [n]) (.file text) }) := by
  have hin : ¬ maxEntries < c.visited + 1 := Nat.not_lt.mpr h
  have htarget := copyTarget_ofLocation hD hplain hpath
  simp only [copies, Bool.and_eq_true, Bool.not_eq_true'] at hcopies
  obtain ⟨⟨hentry, hfmu⟩, hout⟩ := hcopies
  have hcanon : (w.files.canonical? v.path).getD v.path = v.path := by
    rw [hpath, canonical?_ofLocation hwf hplain (by simp [hfile])]
    rfl
  have hrun := Job.run_copyFile hwf (plain_concat hD (hplain n (by simp))) hdir hnot hplain hfile
  unfold collectStep
  simp only [gt_iff_lt, hin, if_false]
  split
  · rw [if_neg (by simp [hfmu]), hcanon, if_neg (by simp [hout])]
    rw [copyTarget] at htarget
    rw [← hpath] at hrun
    simp only [htarget, Job.run_context, hrun]
    rfl
  · -- the entry is no directory, so it is a file
    rename_i hnotfile
    obtain ⟨e, he, hne⟩ := (Option.any_eq_true _ _).mp hentry
    cases e with
    | file x => exact absurd he (hnotfile x)
    | directory => simp at hne

end Step

/-- the tree a collection from `t₀` leaves after copying the visits `sel`, in order, each into
the destination with its text in `t₀` -/
def placeCopies (t₀ : FileTree) (destination : Path) (sel : List Visit) : FileTree :=
  sel.foldl (fun t v => t.put (walkParts (copyTarget destination v))
    (.file ((t₀.read v.path).toOption.getD ""))) t₀

/-- what a collection within its budget keeps after the visits `made`: it counted them, failed
at none, and copied, in order, the ones it copies, which changed the workspace only by those
copies; the visits outside the destination saw files where `t₀` holds them -/
structure Collecting (w₀ : Workspace) (D : List String) (maxEntries : Nat) (made : List Visit)
    (st : Collection × Workspace) : Prop where
  visited : st.1.visited = made.length
  within : made.length ≤ maxEntries
  noFailure : st.1.failure = none
  copied : st.1.copied = (made.filter (copies (ofLocation D))).map (copyTarget (ofLocation D))
  workspace : st.2 =
    { w₀ with files := placeCopies w₀.files (ofLocation D) (made.filter (copies (ofLocation D))) }
  destination : Destination w₀.files st.2.files D
  recorded : ∀ v ∈ made, FileSeen w₀.files D v

/-- the visits made, and one more, all saw files as `t₀` holds them -/
theorem fileSeen_concat {t₀ : FileTree} {D : List String} {made : List Visit} {v : Visit}
    (h : ∀ u ∈ made, FileSeen t₀ D u) (hv : FileSeen t₀ D v) : ∀ u ∈ made ++ [v], FileSeen t₀ D u := by
  intro u hu
  rcases List.mem_append.mp hu with hu | hu
  · exact h u hu
  · rw [List.mem_singleton.mp hu]
    exact hv

theorem placeCopies_concat (t₀ : FileTree) (destination : Path) (sel : List Visit) (v : Visit) :
    placeCopies t₀ destination (sel ++ [v]) = (placeCopies t₀ destination sel).put
      (walkParts (copyTarget destination v)) (.file ((t₀.read v.path).toOption.getD "")) := by
  simp [placeCopies]

section Visit

variable {w₀ w : Workspace} {B D : List String} {maxDepth maxEntries : Nat}
  {made rest : List Visit} {v : Visit} {c : Collection}

/-- the collection after one more visit that it passes over -/
theorem Collecting.pass (hc : Collecting w₀ D maxEntries made (c, w)) (hin : c.visited + 1 ≤ maxEntries)
    (hcp : copies (ofLocation D) v = false) (hrec : FileSeen w₀.files D v) :
    Collecting w₀ D maxEntries (made ++ [v]) ({ c with visited := c.visited + 1 }, w) := by
  have hvisited : c.visited = made.length := hc.visited
  have hcopied : c.copied = _ := hc.copied
  refine ⟨by simp [hvisited], by simp; omega, hc.noFailure, ?_, ?_, hc.destination, ?_⟩
  · simp [List.filter_append, hcp, hcopied]
  · simpa [List.filter_append, hcp] using hc.workspace
  · exact fileSeen_concat hc.recorded hrec

/-- the collection after one more visit that it copies, its text put under its name in the
destination -/
theorem Collecting.copy (hwf₀ : w₀.files.WellFormed) (hc : Collecting w₀ D maxEntries made (c, w))
    (hin : c.visited + 1 ≤ maxEntries) (hD : ∀ m ∈ D, PlainName m) {L : List String} {n text : String}
    (hplain : ∀ m ∈ L ++ [n], PlainName m) (hpath : v.path = ofLocation (L ++ [n]))
    (hcp : copies (ofLocation D) v = true) (hfile : w₀.files.at? (L ++ [n]) = some (.file text))
    (hrec : FileSeen w₀.files D v) (hnot : w.files.at? (D ++ [n]) ≠ some .directory) :
    Collecting w₀ D maxEntries (made ++ [v])
      ({ c with visited := c.visited + 1, copied := c.copied ++ [ofLocation (D ++ [n])] },
        { w with files := w.files.put (D ++ [n]) (.file text) }) := by
  have hvisited : c.visited = made.length := hc.visited
  have hcopied : c.copied = _ := hc.copied
  have hn : PlainName n := hplain n (by simp)
  have htarget := copyTarget_ofLocation hD hplain hpath
  have hread : (w₀.files.read v.path).toOption.getD "" = text := by
    rw [hpath, (read_ofLocation hwf₀ hplain text).mpr hfile]
    rfl
  refine ⟨by simp [hvisited], by simp; omega, hc.noFailure, ?_, ?_, hc.destination.put_file hD hn hnot text,
    ?_⟩
  · simp [List.filter_append, hcp, hcopied, htarget]
  · have hw : w = _ := hc.workspace
    rw [List.filter_append, List.filter_singleton, hcp, cond_true, placeCopies_concat, htarget,
      walkParts_ofLocation (plain_concat hD hn), hread, hw]
  · exact fileSeen_concat hc.recorded hrec

/-- **One visit of a collection.** Past the budget it ends the walk with the budget failure;
within it, the visit is counted and copied when the collection copies it, and the tree only
grows -/
theorem Collecting.step (hwf₀ : w₀.files.WellFormed) (hD : ∀ m ∈ D, PlainName m)
    (hc : Collecting w₀ D maxEntries made (c, w))
    (hF : Frontier w₀.files w.files B maxDepth made (v :: rest)) :
    (made.length = maxEntries ∧
      collectStep (ofLocation B) (ofLocation D) (ofLocation D) maxEntries v (c, w) = .done
        ({ c with visited := c.visited + 1, failure := some (budgetFailure (ofLocation B) maxEntries) },
          w)) ∨
    ∃ s', collectStep (ofLocation B) (ofLocation D) (ofLocation D) maxEntries v (c, w) = .yield s' ∧
      Collecting w₀ D maxEntries (made ++ [v]) s' ∧ Grows w.files s'.2.files ∧
        s'.2.files.WellFormed := by
  have hvisited : c.visited = made.length := hc.visited
  by_cases hover : maxEntries < c.visited + 1
  · exact .inl ⟨by have := hc.within; omega, collectStep_over hover⟩
  have hin : c.visited + 1 ≤ maxEntries := by omega
  have hd : Destination w₀.files w.files D := hc.destination
  obtain ⟨R, hplain, hpath, hparts, -⟩ := hF.walkParts_path (u := v) (by simp)
  have hrec := hd.fileSeen_head hF
  cases hcp : copies (ofLocation D) v with
  | false =>
    -- passed over: a file it reads is where its path says
    have hroot : v.entry.any (· != .directory) = true →
        (w.files.canonical? v.path).getD v.path = v.path := by
      intro hentry
      obtain ⟨e, he, -⟩ := (Option.any_eq_true _ _).mp hentry
      obtain ⟨e', he', -⟩ := hF.kind v (.head _) e he
      rw [hparts] at he'
      rw [hpath, canonical?_ofLocation hd.wellFormed hplain (by simp [he'])]
      rfl
    exact .inr ⟨_, collectStep_pass hin hroot rfl hcp, hc.pass hin hcp hrec, Grows.refl _, hd.wellFormed⟩
  | true =>
    -- copied: the visit is a file of the starting tree, outside the destination
    have hcp' := hcp
    simp only [copies, Bool.and_eq_true, Bool.not_eq_true'] at hcp'
    obtain ⟨⟨hentry, hfmu⟩, hstarts⟩ := hcp'
    have hout : ¬ D <+: B ++ R := by
      rw [← startsWith_ofLocation hplain hD, ← hpath, hstarts]
      simp
    obtain ⟨text, htext⟩ := (hrec (hparts ▸ hout)).mp hentry
    rw [hparts] at htext
    obtain ⟨L, n, hLn⟩ : ∃ L n, B ++ R = L ++ [n] := by
      rcases List.eq_nil_or_concat (B ++ R) with hnil | ⟨L, n, hLn⟩
      · rw [hnil, at?_nil] at htext
        cases htext
      · exact ⟨L, n, by rw [hLn, List.concat_eq_append]⟩
    rw [hLn] at hplain hpath htext hout
    have hn : PlainName n := hplain n (by simp)
    have hfile : w.files.at? (L ++ [n]) = some (.file text) := by
      rw [hd.outside _ hplain hout, htext]
    -- the copy's name is that of an FMU file outside the destination, so no directory has it
    have hnot := hd.noDir L n text hplain hout (hpath ▸ hfmu) htext
    refine .inr ⟨_, collectStep_copy hin hcp hD hplain hpath hd.wellFormed hfile hd.dir hnot,
      hc.copy hwf₀ hin hD hplain hpath hcp htext hrec hnot, grows_put_file (by simp) hnot text,
      (hd.put_file hD hn hnot text).wellFormed⟩

end Visit


/-- a collection walks the build tree from the workspace it starts in, keeps the workspace the
walk leaves, and gives the copies unless the walk failed -/
theorem run_collect {maxDepth maxEntries : Nat} {buildFolder destination : Path} {w w' : Workspace}
    {c : Collection}
    (hwalk : walk (·.2.files) maxDepth
      (collectStep buildFolder destination ((w.files.canonical? destination).getD destination) maxEntries)
      buildFolder (maxEntries + 1) ({}, w) = (c, w')) :
    (collect maxDepth maxEntries buildFolder destination).run w =
      (c.failure.elim (.ok c.copied) .error, w') := by
  unfold collect
  simp only [Job.run_bind, Job.run_get, Job.run_set, hwalk]
  cases c.failure <;> simp

/-- the visits a collection's walk makes, in order -/
def collectVisits (maxDepth maxEntries : Nat) (buildFolder destination : Path) (w : Workspace) :
    List Visit :=
  visits (·.2.files) maxDepth (collectStep buildFolder destination destination maxEntries) buildFolder
    (maxEntries + 1) ({}, w)

section Run

variable {B D : List String} {w : Workspace}

/-- a visit at a plain location below the build folder is copied exactly when it is an FMU
file of the starting tree outside the destination, given that it saw a file where that tree
holds one -/
theorem copies_iff_of_recorded (hD : ∀ m ∈ D, PlainName m) {v : Visit} {R : List String}
    (hplain : ∀ m ∈ B ++ R, PlainName m) (hpath : v.path = ofLocation (B ++ R))
    (hrec : FileSeen w.files D v) :
    copies (ofLocation D) v = true ↔ isFmu v.path = true ∧ ¬ D <+: walkParts v.path ∧
      ∃ text, w.files.at? (walkParts v.path) = some (.file text) := by
  have hstart : v.path.startsWith (ofLocation D) = true ↔ D <+: walkParts v.path := by
    rw [hpath, walkParts_ofLocation hplain]
    exact startsWith_ofLocation hplain hD
  simp only [copies, Bool.and_eq_true, Bool.not_eq_true']
  constructor
  · rintro ⟨⟨hentry, hfmu⟩, hnot⟩
    have hout : ¬ D <+: walkParts v.path := fun h => by
      rw [hstart.mpr h] at hnot
      cases hnot
    exact ⟨hfmu, hout, (hrec hout).mp hentry⟩
  · rintro ⟨hfmu, hout, hfile⟩
    refine ⟨⟨(hrec hout).mpr hfile, hfmu⟩, ?_⟩
    cases h : v.path.startsWith (ofLocation D)
    · rfl
    · exact absurd (hstart.mp h) hout

/-- distinct locations below the build folder that a list of visits all reach are no more than
its visits -/
theorem length_le_of_visited {T : List Visit} {Rs : List (List String)} (hRs : Rs.Nodup)
    (hplain : ∀ R ∈ Rs, ∀ m ∈ B ++ R, PlainName m)
    (hvisited : ∀ R ∈ Rs, ofLocation (B ++ R) ∈ T.map (·.path)) : Rs.length ≤ T.length := by
  have hnodup : (Rs.map fun R => ofLocation (B ++ R)).Nodup :=
    hRs.map_on fun R hR R' hR' h =>
      List.append_cancel_left ((Path.ofLocation_inj (hplain R hR) (hplain R' hR')).mp h)
  have hsub : (Rs.map fun R => ofLocation (B ++ R)) ⊆ T.map (·.path) := by
    intro p hp
    obtain ⟨R, hR, rfl⟩ := List.mem_map.mp hp
    exact hvisited R hR
  calc Rs.length = (Rs.map fun R => ofLocation (B ++ R)).length := (List.length_map _).symm
    _ ≤ (T.map (·.path)).length := hnodup.length_le_of_subset hsub
    _ = T.length := List.length_map _

section Site

variable (maxDepth maxEntries : Nat) (hwf : w.files.WellFormed) (hB : ∀ m ∈ B, PlainName m)
  (hD : ∀ m ∈ D, PlainName m) (hdest : w.files.at? D = some .directory)
  (hnoDir : ∀ L n text, (∀ m ∈ L ++ [n], PlainName m) → ¬ D <+: L ++ [n] →
    isFmu (ofLocation (L ++ [n])) = true → w.files.at? (L ++ [n]) = some (.file text) →
    w.files.at? (D ++ [n]) ≠ some .directory)
include hwf hB hD hdest hnoDir

/-- **How a collection ends.** Either its walk met one entry more than its budget, after visits
within the budget, and it fails with the budget failure; or it visited every entry the walk
reaches within the budget, and it gives the copies. Either way it leaves the workspace the
visits within the budget made. -/
theorem collect_ends :
    (∃ made v rest c w', collectVisits maxDepth maxEntries (ofLocation B) (ofLocation D) w = made ++ [v] ∧
      made.length = maxEntries ∧ Collecting w D maxEntries made (c, w') ∧
      Frontier w.files w'.files B maxDepth made (v :: rest) ∧
      (collect maxDepth maxEntries (ofLocation B) (ofLocation D)).run w =
        (.error (budgetFailure (ofLocation B) maxEntries), w')) ∨
    (∃ c w', Collecting w D maxEntries (collectVisits maxDepth maxEntries (ofLocation B) (ofLocation D) w)
        (c, w') ∧
      Frontier w.files w'.files B maxDepth
        (collectVisits maxDepth maxEntries (ofLocation B) (ofLocation D) w) [] ∧
      (collect maxDepth maxEntries (ofLocation B) (ofLocation D)).run w = (.ok c.copied, w')) := by
  have hroot : (w.files.canonical? (ofLocation D)).getD (ofLocation D) = ofLocation D := by
    rw [canonical?_ofLocation hwf hD (by simp [hdest])]
    rfl
  have hQ₀ : Collecting w D maxEntries [] ({}, w) :=
    ⟨rfl, Nat.zero_le _, rfl, rfl, rfl, Destination.init hwf hdest hnoDir, by simp⟩
  have hstep : ∀ {made v rest} {s s' : Collection × Workspace}, Collecting w D maxEntries made s →
      Frontier w.files s.2.files B maxDepth made (v :: rest) →
      collectStep (ofLocation B) (ofLocation D) (ofLocation D) maxEntries v s = .yield s' →
      Collecting w D maxEntries (made ++ [v]) s' ∧ Grows s.2.files s'.2.files ∧
        s'.2.files.WellFormed := by
    rintro made v rest ⟨c, w'⟩ s' hQ hF hs
    rcases hQ.step hwf hD hF with ⟨-, hdone⟩ | ⟨s'', hyield, hQ', hgrow, hwf'⟩
    · rw [hdone] at hs
      cases hs
    · rw [hyield] at hs
      cases hs
      exact ⟨hQ', hgrow, hwf'⟩
  -- the collection's walk is the traced one, less its trace
  have hwalk : walk (·.2.files) maxDepth (collectStep (ofLocation B) (ofLocation D)
        ((w.files.canonical? (ofLocation D)).getD (ofLocation D)) maxEntries)
        (ofLocation B) (maxEntries + 1) ({}, w) =
      (walk (fun st => st.1.2.files) maxDepth
        (traced (collectStep (ofLocation B) (ofLocation D) (ofLocation D) maxEntries))
        (ofLocation B) (maxEntries + 1) (({}, w), [])).1 := by
    rw [hroot]
    exact (@walk_traced_fst _ (fun s : Collection × Workspace => s.2.files) _ _ _ _ _).symm
  rcases walk_frontier (fun s : Collection × Workspace => s.2.files) maxDepth
      (collectStep (ofLocation B) (ofLocation D) (ofLocation D) maxEntries) B ({}, w)
      (Collecting w D maxEntries) hwf hB hQ₀ hstep (maxEntries + 1) with
    ⟨made, v, rest, ⟨c, w'⟩, hQ, hF, hdone, htrace⟩ | ⟨pending, hQ, hF, hend⟩
  · -- a step ended the walk: only the budget does
    rcases hQ.step hwf hD hF with ⟨hlen, hover⟩ | ⟨s'', hyield, -⟩
    · rw [hover, ForInStep.done.injEq] at hdone
      refine .inl ⟨made, v, rest, c, w', htrace, hlen, hQ, hF, ?_⟩
      rw [run_collect (hwalk.trans hdone.symm)]
      rfl
    · rw [hyield] at hdone
      cases hdone
  · -- the walk ran out of visits: the budget holds them all
    have hpending : pending = [] := hend.resolve_right fun hlen => by
      have := hQ.within
      omega
    subst hpending
    refine .inr ⟨_, _, hQ, hF, ?_⟩
    rw [run_collect hwalk, hQ.noFailure]
    rfl

/-- the visits of a collection are at distinct plain locations below the build folder, within
the depth limit, and those it copies are the FMU files of the starting tree outside the
destination -/
theorem collectVisits_placed :
    (∀ v ∈ collectVisits maxDepth maxEntries (ofLocation B) (ofLocation D) w,
      ∃ R, (∀ m ∈ B ++ R, PlainName m) ∧ v.path = ofLocation (B ++ R) ∧ v.depth = R.length ∧
        R.length ≤ maxDepth) ∧
    ((collectVisits maxDepth maxEntries (ofLocation B) (ofLocation D) w).map (·.path)).Nodup ∧
    ∀ v ∈ collectVisits maxDepth maxEntries (ofLocation B) (ofLocation D) w,
      copies (ofLocation D) v = true ↔ isFmu v.path = true ∧ ¬ D <+: walkParts v.path ∧
        ∃ text, w.files.at? (walkParts v.path) = some (.file text) := by
  rcases collect_ends maxDepth maxEntries hwf hB hD hdest hnoDir with
    ⟨made, v, rest, c, w', hT, -, hQ, hF, -⟩ | ⟨c, w', hQ, hF, -⟩
  · -- the visits within the budget and the one past it, all from the frontier before that one
    rw [hT]
    have hsub : List.Sublist (made ++ [v]) (made ++ v :: rest) :=
      (List.singleton_sublist.mpr (.head _)).append_left made
    refine ⟨fun u hu => hF.placed u (hsub.subset hu), hF.distinct.sublist (hsub.map _), fun u hu => ?_⟩
    obtain ⟨R, hplain, hpath, -, -⟩ := hF.placed u (hsub.subset hu)
    exact copies_iff_of_recorded hD hplain hpath
      (fileSeen_concat hQ.recorded (hQ.destination.fileSeen_head hF) u hu)
  · -- every visit within the budget
    have hmem : ∀ u ∈ collectVisits maxDepth maxEntries (ofLocation B) (ofLocation D) w,
        u ∈ collectVisits maxDepth maxEntries (ofLocation B) (ofLocation D) w ++ [] := by simp
    refine ⟨fun u hu => hF.placed u (hmem u hu), by simpa using hF.distinct, fun u hu => ?_⟩
    obtain ⟨R, hplain, hpath, -, -⟩ := hF.placed u (hmem u hu)
    exact copies_iff_of_recorded hD hplain hpath (hQ.recorded u hu)

end Site

end Run

/-- **Collecting FMUs from a build tree.** Let a collection walk a well-formed tree from a plain
build folder into a plain destination directory where no directory directly inside bears the name
of an FMU file outside it, so that every copy succeeds. Its walk visits distinct locations below the build folder, within the
depth limit, one more than the budget at most; it copies a visit exactly when the visit is a file
of the starting tree named as an FMU outside the destination, so no source lies in the
destination. It fails with the budget failure exactly when the walk meets more entries than the
budget, which it does whenever the tree holds more entries within the depth limit (counting the
build folder); either way it leaves the tree with the copies of the first visits within the
budget, one after another, a later copy of a name replacing an earlier one. Within the budget it
visits every entry of the starting tree within the depth limit and gives the copies' targets in
walk order, one per file copied. -/
theorem collect_copies_walked_fmus (maxDepth maxEntries : Nat) (B D : List String) (w : Workspace)
    (hwf : w.files.WellFormed) (hB : ∀ m ∈ B, PlainName m) (hD : ∀ m ∈ D, PlainName m)
    (hdest : w.files.at? D = some .directory)
    (hnoDir : ∀ L n text, (∀ m ∈ L ++ [n], PlainName m) → ¬ D <+: L ++ [n] →
      isFmu (ofLocation (L ++ [n])) = true → w.files.at? (L ++ [n]) = some (.file text) →
      w.files.at? (D ++ [n]) ≠ some .directory) :
    let walked := collectVisits maxDepth maxEntries (ofLocation B) (ofLocation D) w
    let result := (collect maxDepth maxEntries (ofLocation B) (ofLocation D)).run w
    (∀ v ∈ walked, ∃ R, (∀ m ∈ B ++ R, PlainName m) ∧ v.path = ofLocation (B ++ R) ∧
      v.depth = R.length ∧ R.length ≤ maxDepth) ∧
    (walked.map (·.path)).Nodup ∧
    (∀ v ∈ walked, copies (ofLocation D) v = true ↔
      isFmu v.path = true ∧ ¬ D <+: walkParts v.path ∧ ∃ text, w.files.at? (walkParts v.path) = some (.file text)) ∧
    walked.length ≤ maxEntries + 1 ∧
    (result.1 = .error (budgetFailure (ofLocation B) maxEntries) ↔ maxEntries < walked.length) ∧
    (∀ Rs : List (List String), Rs.Nodup →
      (∀ R ∈ Rs, (∀ m ∈ B ++ R, PlainName m) ∧ R.length ≤ maxDepth ∧
        (w.files.at? (B ++ R)).isSome) →
      maxEntries < Rs.length → result.1 = .error (budgetFailure (ofLocation B) maxEntries)) ∧
    result.2 = { w with
      files := placeCopies w.files (ofLocation D) ((walked.take maxEntries).filter (copies (ofLocation D))) } ∧
    (walked.length ≤ maxEntries →
      result.1 = .ok ((walked.filter (copies (ofLocation D))).map (copyTarget (ofLocation D))) ∧
      ∀ R, (∀ m ∈ B ++ R, PlainName m) → R.length ≤ maxDepth → (w.files.at? (B ++ R)).isSome →
        ofLocation (B ++ R) ∈ walked.map (·.path)) := by
  intro walked result
  obtain ⟨hplaced, hdistinct, hcopies⟩ :=
    collectVisits_placed maxDepth maxEntries hwf hB hD hdest hnoDir
  rcases collect_ends maxDepth maxEntries hwf hB hD hdest hnoDir with
    ⟨made, v, rest, c, w', hT, hlen, hQ, -, hrun⟩ | ⟨c, w', hQ, hF, hrun⟩
  · -- past the budget: the failure, after the visits within it
    have hwalked : walked = made ++ [v] := hT
    have hres : result = _ := hrun
    have hlenT : walked.length = maxEntries + 1 := by simp [hwalked, hlen]
    have htake : walked.take maxEntries = made := by rw [hwalked, ← hlen, List.take_left]
    refine ⟨hplaced, hdistinct, hcopies, hlenT.le, ?_, fun _ _ _ _ => by rw [hres], ?_,
      fun h => absurd h (by omega)⟩
    · rw [hres, hlenT]
      simp
    · rw [hres, htake]
      exact hQ.workspace
  · -- within the budget: the walk ran out of visits, having reached every entry
    have hwithin : walked.length ≤ maxEntries := hQ.within
    have hres : result = _ := hrun
    have hcovers : ∀ R, (∀ m ∈ B ++ R, PlainName m) → R.length ≤ maxDepth →
        (w.files.at? (B ++ R)).isSome → ofLocation (B ++ R) ∈ walked.map (·.path) :=
      fun R hR hdepth hsome => (hF.covers R hR hdepth hsome).resolve_right (by simp)
    refine ⟨hplaced, hdistinct, hcopies, by omega, ?_, fun Rs hRs hall hlt => ?_, ?_,
      fun _ => ⟨?_, hcovers⟩⟩
    · rw [hres]
      simp only [reduceCtorEq, false_iff]
      omega
    · have := length_le_of_visited hRs (fun R hR => (hall R hR).1)
        fun R hR => hcovers R (hall R hR).1 (hall R hR).2.1 (hall R hR).2.2
      omega
    · rw [hres, List.take_of_length_le hwithin]
      exact hQ.workspace
    · rw [hres]
      exact congrArg Except.ok hQ.copied


/-- a build tree `/b` holding `m.FMU` and an empty directory `sub`, beside an empty destination
`/d` -/
def fmuBuildTree : FileTree :=
  (((({} : FileTree).put ["b"] .directory).put ["d"] .directory).put ["b", "sub"] .directory).put
    ["b", "m.FMU"] (.file "m")

theorem at?_fmuBuildTree {L : List String} (hL : ∀ m ∈ L, PlainName m) :
    fmuBuildTree.at? L =
      if L = ["b", "m.FMU"] then some (.file "m")
      else if L = [] ∨ L = ["b"] ∨ L = ["d"] ∨ L = ["b", "sub"] then some .directory
      else none := by
  rw [fmuBuildTree, at?_put (M := ["b", "m.FMU"]) (by decide) (by simp) hL,
    at?_put (M := ["b", "sub"]) (by decide) (by simp) hL, at?_put (M := ["d"]) (by decide) (by simp) hL,
    at?_put (M := ["b"]) (by decide) (by simp) hL, Generation.at?_empty]
  by_cases h1 : L = ["b", "m.FMU"]
  · simp [h1]
  by_cases h2 : L = ["b", "sub"]
  · simp [h2]
  by_cases h3 : L = ["d"]
  · simp [h3]
  by_cases h4 : L = ["b"]
  · simp [h4]
  simp [h1, h2, h3, h4]

theorem wellFormed_fmuBuildTree : fmuBuildTree.WellFormed := by
  have h1 := Generation.wellFormed_empty.put (M := ["b"]) (by decide) (by simp) (by simp) .directory
    (.inr rfl)
  have h2 := h1.put (M := ["d"]) (by decide) (by simp) (by simp) .directory (.inr rfl)
  have h3 := h2.put (M := ["b", "sub"]) (by decide) (by simp)
    (by simp (disch := decide) [at?_put]) .directory (.inr rfl)
  exact h3.put (M := ["b", "m.FMU"]) (by decide) (by simp)
    (by simp (disch := decide) [at?_put]) (.file "m")
    (.inl (by simp (disch := decide) [at?_put, Generation.at?_empty]))

/-- a collection with a budget of two entries fails on the build tree `/b`, which holds three
within the depth limit: the folder itself, `m.FMU` and `sub` -/
theorem collect_fails_past_budget :
    let w : Workspace := { files := fmuBuildTree }
    w.files.WellFormed ∧ w.files.at? ["d"] = some .directory ∧
      (∀ L n text, (∀ m ∈ L ++ [n], PlainName m) → ¬ ["d"] <+: L ++ [n] →
        isFmu (ofLocation (L ++ [n])) = true → w.files.at? (L ++ [n]) = some (.file text) →
        w.files.at? (["d"] ++ [n]) ≠ some .directory) ∧
      ((collect 32 2 (ofLocation ["b"]) (ofLocation ["d"])).run w).1 =
        .error (budgetFailure (ofLocation ["b"]) 2) := by
  intro w
  have hdest : w.files.at? ["d"] = some .directory := by
    rw [at?_fmuBuildTree (by decide)]
    simp
  have hnoDir : ∀ L n text, (∀ m ∈ L ++ [n], PlainName m) → ¬ ["d"] <+: L ++ [n] →
      isFmu (ofLocation (L ++ [n])) = true → w.files.at? (L ++ [n]) = some (.file text) →
      w.files.at? (["d"] ++ [n]) ≠ some .directory := by
    intro L n text hplain _ _ _
    rw [at?_fmuBuildTree (plain_concat (by decide) (hplain n (by simp)))]
    simp
  obtain ⟨-, -, -, -, -, hbudget, -⟩ :=
    collect_copies_walked_fmus 32 2 ["b"] ["d"] w wellFormed_fmuBuildTree (by decide) (by decide) hdest hnoDir
  refine ⟨wellFormed_fmuBuildTree, hdest, hnoDir,
    hbudget [[], ["m.FMU"], ["sub"]] (by decide) ?_ (by decide)⟩
  intro R hR
  have hplain : ∀ m ∈ ["b"] ++ R, PlainName m := by
    simp only [List.mem_cons, List.mem_nil_iff, or_false] at hR
    rcases hR with rfl | rfl | rfl <;> decide
  refine ⟨hplain, ?_, ?_⟩
  · simp only [List.mem_cons, List.mem_nil_iff, or_false] at hR
    rcases hR with rfl | rfl | rfl <;> simp
  · rw [at?_fmuBuildTree hplain]
    simp only [List.mem_cons, List.mem_nil_iff, or_false] at hR
    rcases hR with rfl | rfl | rfl <;> simp

end Hook

end BuildRecipe

/-
What generation leaves in the build folder. From a tree where it may write (`Generation.Site`),
generation succeeds, and the build folder then holds exactly the files of `Generation.file`
with the directories above them, while nothing outside it changes but the directories made on
the way to it (`HoldsGenerated`). One case breaks this: a host dependency may be named as the
report, `licenses.txt`, and when the first such one has a license file its copied folder takes
the report's place, so writing the report fails (`ReportClash`, `run_generate_of_reportClash`).
A dependency named as the package gets no license copies at all
(`generate_copies_nothing_for_own_name`).

The run is followed writer by writer against `Placed`: the toolchain and dependency files
(`run_writeToolchain`), the license copies of each name's first host dependency and the recipe's
own license (`run_aggregate`), the report and its page (`run_writeReport`), and the shim's source
(`run_seedShim`). Each writes only the files meant for their places, and together they write all
of them (`run_generate`). The writers before the report need only the files meant without it
(`wanted` with the report left out), so the same account follows a run with a license folder at
the report's place up to the write that fails.

Main statement: `Generation.generate_writes_exactly_the_generated_files`; on small trees,
`generate_ownName_omits_license_copy` and `generate_fails_for_host_named_as_report`.
-/
import BuildRecipe.Proofs.GeneratedFiles

namespace BuildRecipe

open BuildRecipe.Path FileTree Job

namespace Generation

variable {e : Evaluation} {opts : GenerateOptions} {w : Workspace} {t₀ : FileTree}
  {B : List String} {b : Bool} {done : List (List String)}

theorem buildLayout_recipeRoot (e : Evaluation) (f : Option Path) :
    (buildLayout e f).recipeRoot = e.recipe.root := by
  unfold buildLayout
  split <;> rfl

theorem plain_pair {a b : String} (hB : ∀ m ∈ B, PlainName m) (ha : PlainName a)
    (hb : PlainName b) : ∀ m ∈ B ++ [a, b], PlainName m :=
  List.forall_mem_append.mpr ⟨hB, by simp [ha, hb]⟩

/-- the place two names below a plain folder -/
theorem join_join_ofLocation {a b : String} (hB : ∀ m ∈ B, PlainName m) (ha : PlainName a)
    (hb : PlainName b) : ((ofLocation B).join a).join b = ofLocation (B ++ [a, b]) := by
  rw [ofString_eq, ofString_eq, join_ofLocation hB ha,
    join_ofLocation (List.forall_mem_append.mpr ⟨hB, by simpa using ha⟩) hb]
  simp

/-- every location placed lies below the build folder -/
theorem placed_below {t : FileTree} (h : Placed t₀ (wanted e opts t₀ B b) done t) :
    ∀ x ∈ done, B <+: x := by
  intro x hx
  obtain ⟨r, rfl, -⟩ := wanted_isSome (h.meant x hx)
  exact List.prefix_append B r

@[simp] theorem run_isDir (p : Path) (w : Workspace) :
    (Job.isDir p).run w = (.ok (w.files.isDir p), w) := rfl

@[simp] theorem run_isFile (p : Path) (w : Workspace) :
    (Job.isFile p).run w = (.ok (w.files.isFile p), w) := rfl

theorem licenseCopy_own (deps : List Dependency) (t : FileTree) (rel : List String) :
    licenseCopy e deps t e.recipe.identity.name.val rel = none := by
  simp [licenseCopy]

/-- a location below a folder apart from `B` lies apart from `B` -/
theorem apart_append {S r : List String} (hBS : ¬ B <+: S) (hSB : ¬ S <+: B) :
    ¬ B <+: S ++ r ∧ ¬ S ++ r <+: B :=
  ⟨fun h => (List.prefix_or_prefix_of_prefix h (List.prefix_append S r)).elim hBS hSB,
    fun h => hSB ((List.prefix_append S r).trans h)⟩

/-- the names of the host dependencies, in order, with their licenses -/
theorem hostLicenses_eq (deps : List Dependency) :
    License.hostLicenses deps = (deps.filter (·.isHost)).map fun d => (d.name.val, d.license) := rfl

/-- the shim's source, from an absolute source folder or one taken from the package folder -/
theorem join_source (p dir x : Path) :
    (if dir.isAbsolute = true then dir.join x else (p.join dir).join x) = (p.join dir).join x := by
  by_cases habs : dir.isAbsolute = true
  · have hjoin : p.join dir = dir := by rw [Path.join, if_pos habs]
    rw [if_pos habs, hjoin]
  · rw [if_neg habs]

/-- a name with license copies is the name of a host dependency -/
theorem mem_hostNames_of_licenseCopy {deps : List Dependency} {t : FileTree} {n c : String}
    {rel : List String} (hc : licenseCopy e deps t n rel = some c) :
    n ∈ (deps.filter (·.isHost)).map (·.name.val) := by
  obtain ⟨d, hd⟩ := licenseCopy_firstHost (Option.isSome_of_eq_some hc)
  obtain ⟨hmem, hhost, rfl⟩ := firstHost_eq_some hd
  exact List.mem_map.mpr ⟨d, List.mem_filter.mpr ⟨hmem, hhost⟩, rfl⟩

/-- the license copies of the names of `hosts` lie among the locations `extra` -/
def CopiesPlaced (e : Evaluation) (opts : GenerateOptions) (t₀ : FileTree) (B : List String)
    (hosts : List Dependency) (extra : List (List String)) : Prop :=
  ∀ n rel c, n ∈ hosts.map (·.name.val) → rel ≠ [] → (∀ m ∈ rel, PlainName m) →
    licenseCopy e opts.deps t₀ n rel = some c → B ++ "licenses" :: n :: rel ∈ extra

/-- one host more, whose copies lie among the locations placed so far and those placed for it -/
theorem CopiesPlaced.concat {hosts : List Dependency} {d : Dependency}
    {extra extra' : List (List String)} (hcov : CopiesPlaced e opts t₀ B hosts extra)
    (hd : ∀ rel c, rel ≠ [] → (∀ m ∈ rel, PlainName m) →
      licenseCopy e opts.deps t₀ d.name.val rel = some c →
        B ++ "licenses" :: d.name.val :: rel ∈ extra ++ extra') :
    CopiesPlaced e opts t₀ B (hosts ++ [d]) (extra ++ extra') := by
  intro n rel c hn hrel hrelp hc
  rw [List.map_append, List.map_singleton, List.mem_append, List.mem_singleton] at hn
  rcases hn with hn | rfl
  · exact List.mem_append_left extra' (hcov n rel c hn hrel hrelp hc)
  · exact hd rel c hrel hrelp hc

section Writers

variable (hsite : Site e opts t₀ B) (hroom : Room t₀ (wanted e opts t₀ B b))
include hsite

/-- the place of a fixed file of the layout -/
theorem layout_join_join {a b : String} (ha : PlainName a) (hb : PlainName b) :
    ((buildLayout e opts.buildFolder).buildFolder.join a).join b = ofLocation (B ++ [a, b]) := by
  rw [hsite.buildFolder, join_join_ofLocation hsite.buildPlain ha hb]

include hroom in
/-- the toolchain and dependency files go to `generators/` -/
theorem run_writeToolchain (h : Placed t₀ (wanted e opts t₀ B b) done w.files) :
    ∃ t', ((toolchain e).write (buildLayout e opts.buildFolder) opts.deps).run w =
        (.ok (), { w with files := t' }) ∧
      Placed t₀ (wanted e opts t₀ B b)
        (done ++ [B ++ ["generators", toolchainFileName], B ++ ["generators", depsFileName]]) t' := by
  have htc := plain_pair hsite.buildPlain (a := "generators") (b := toolchainFileName)
    (by decide) (by decide)
  have hdeps := plain_pair hsite.buildPlain (a := "generators") (b := depsFileName)
    (by decide) (by decide)
  obtain ⟨t₁, hrun₁, h₁⟩ := h.run_writeText hroom (by simp) htc
    (by rw [wanted_append htc (.inr (by simp [reportLocation])), file_toolchain])
  obtain ⟨t₂, hrun₂, h₂⟩ := h₁.run_writeText (w := { w with files := t₁ }) hroom (by simp) hdeps
    (by rw [wanted_append hdeps (.inr (by simp [reportLocation])), file_deps])
  refine ⟨t₂, ?_, by simpa using h₂⟩
  simp only [Toolchain.write, Layout.toolchainFile, Layout.depsFile, Layout.generatorsFolder,
    layout_join_join hsite (by decide : PlainName "generators") (by decide : PlainName toolchainFileName),
    layout_join_join hsite (by decide : PlainName "generators") (by decide : PlainName depsFileName),
    run_bind, hrun₁]
  exact hrun₂

/-! ### The license copies -/

/-- a first host whose licenses folder is no directory has no license copies -/
theorem licenseCopy_eq_none_of_not_dir {n : String} {d : Dependency} {P rel : List String}
    (hd : firstHost opts.deps n = some d) (hP : d.packageFolder = ofLocation P)
    (hPp : ∀ m ∈ P, PlainName m) (hnot : t₀.at? (P ++ ["licenses"]) ≠ some .directory)
    (hrel : ∀ m ∈ rel, PlainName m) (hne : rel ≠ []) :
    licenseCopy e opts.deps t₀ n rel = none := by
  rcases hc : licenseCopy e opts.deps t₀ n rel with _ | c
  · rfl
  · obtain ⟨-, d', P', hd', hP', hPp', hfile⟩ := (licenseCopy_eq_some hsite hrel hne).mp hc
    rw [hd] at hd'
    cases hd'
    rw [← (ofLocation_inj hPp hPp').mp (hP.symm.trans hP')] at hfile
    -- a file below the folder makes it a directory
    have hall : ∀ m ∈ P ++ "licenses" :: rel, PlainName m :=
      List.forall_mem_append.mpr ⟨hPp, List.forall_mem_cons.mpr ⟨by decide, hrel⟩⟩
    exact absurd (hsite.wellFormed.dirAbove hall (by simp [hfile]) (P ++ ["licenses"])
      (by simp) (by simpa using hne)) hnot

include hroom in
/-- copying the licenses folder of the first host of a name, other than the package's own, places
its license copies -/
theorem run_copyLicenses {n : String} {d : Dependency} {P : List String}
    (h : Placed t₀ (wanted e opts t₀ B b) done w.files) (hd : firstHost opts.deps n = some d)
    (hown : n ≠ e.recipe.identity.name.val) (hP : d.packageFolder = ofLocation P)
    (hPp : ∀ m ∈ P, PlainName m) (hlit : Glob.Literal (locationKey (P ++ ["licenses"])))
    (hBS : ¬ B <+: P ++ ["licenses"]) (hSB : ¬ P ++ ["licenses"] <+: B)
    (hdir : t₀.at? (P ++ ["licenses"]) = some .directory) :
    ∃ t' extra, (License.copyTree (d.packageFolder.join "licenses")
        ((buildLayout e opts.buildFolder).licensesFolder.join n)).run w =
          (.ok (), { w with files := t' }) ∧
      Placed t₀ (wanted e opts t₀ B b) (done ++ extra) t' ∧
      ∀ rel c, rel ≠ [] → (∀ m ∈ rel, PlainName m) → licenseCopy e opts.deps t₀ n rel = some c →
        B ++ "licenses" :: n :: rel ∈ extra := by
  obtain ⟨-, hn, -⟩ := hsite.firstHost hd
  have hS : ∀ m ∈ P ++ ["licenses"], PlainName m :=
    List.forall_mem_append.mpr ⟨hPp, by simp; decide⟩
  have hT := plain_pair hsite.buildPlain (a := "licenses") (b := n) (by decide) hn
  have hsource : d.packageFolder.join "licenses" = ofLocation (P ++ ["licenses"]) := by
    rw [hP, ofString_eq, join_ofLocation hPp (by decide)]
  have htarget : (buildLayout e opts.buildFolder).licensesFolder.join n =
      ofLocation (B ++ ["licenses", n]) := layout_join_join hsite (by decide) hn
  -- the licenses folder lies apart from the build folder, so every run reads it as it was
  have hsame : ∀ r, (∀ m ∈ r, PlainName m) →
      w.files.at? (P ++ ["licenses"] ++ r) = t₀.at? (P ++ ["licenses"] ++ r) := fun r hr =>
    h.at?_apart (placed_below h) (List.forall_mem_append.mpr ⟨hS, hr⟩)
      (apart_append hBS hSB).1 (apart_append hBS hSB).2
  have hfile : ∀ r c, r ≠ [] → (∀ m ∈ r, PlainName m) →
      (licenseCopy e opts.deps t₀ n r = some c ↔ w.files.at? (P ++ ["licenses"] ++ r) = some (.file c)) := by
    intro r c hr hrp
    rw [licenseCopy_eq_some hsite hrp hr, hsame r hrp]
    constructor
    · rintro ⟨-, d', P', hd', hP', hPp', hc⟩
      rw [hd] at hd'
      cases hd'
      rw [(ofLocation_inj hPp hPp').mp (hP.symm.trans hP')]
      simpa using hc
    · intro hc
      exact ⟨hown, d, P, hd, hP, hPp, by simpa using hc⟩
  obtain ⟨t', extra, hrun, h', hextra⟩ := h.run_copyTree hroom hS hlit (by simp)
    (by simpa [hdir] using hsame [] (by simp)) hT
    (by simpa using (not_prefix_of_apart hSB hBS :
      ¬ P ++ ["licenses"] ++ [] <+: B ++ ["licenses", n]))
    (fun hTS => hBS ((List.prefix_append B _).trans hTS))
    (fun r c hr hrp hc => by
      have hplain : ∀ m ∈ B ++ "licenses" :: n :: r, PlainName m := by
        simpa using List.forall_mem_append.mpr ⟨hT, hrp⟩
      rw [show B ++ ["licenses", n] ++ r = B ++ "licenses" :: n :: r by simp,
        wanted_append hplain (.inr (licenses_ne_reportLocation hr)), file_licenses n hr]
      exact (hfile r c hr hrp).mpr hc)
  refine ⟨t', extra, by rw [hsource, htarget]; exact hrun, h', fun rel c hrel hrelp hc => ?_⟩
  exact (hextra _).mpr ⟨rel, hrel, hrelp, by simp, c, (hfile rel c hrel hrelp).mp hc⟩

include hroom in
/-- **Collecting the licenses.** The manifest of the package and its host dependencies comes back;
the licenses folder of the first host of each name other than the package's own is copied below
`licenses/<name>/`, and the recipe's own `LICENSE` to `licenses/LICENSE`, each file to the place
meant for it -/
theorem run_aggregate (h : Placed t₀ (wanted e opts t₀ B b) done w.files) :
    ∃ t' extra, (License.aggregate e.recipe.identity (buildLayout e opts.buildFolder) opts.deps).run w =
        (.ok (manifest e opts.deps), { w with files := t' }) ∧
      Placed t₀ (wanted e opts t₀ B b) (done ++ extra) t' ∧
      (∀ n rel c, rel ≠ [] → (∀ m ∈ rel, PlainName m) → licenseCopy e opts.deps t₀ n rel = some c →
        B ++ "licenses" :: n :: rel ∈ extra) ∧
      (∀ c, file e opts t₀ ["licenses", "LICENSE"] = some c → B ++ ["licenses", "LICENSE"] ∈ extra) := by
  -- over the hosts folded so far: the manifest of their rows, and the copies of their names
  let I : List Dependency → License.Manifest → Workspace → Prop := fun pre m w' =>
    m = (License.Manifest.new e.recipe.identity.name.val e.recipe.identity.license).addAll
        (pre.map fun d => (d.name.val, d.license)) ∧
    ∃ t' extra, w' = { w with files := t' } ∧ Placed t₀ (wanted e opts t₀ B b) (done ++ extra) t' ∧
      CopiesPlaced e opts t₀ B pre extra
  have h0 : I [] (License.Manifest.new e.recipe.identity.name.val e.recipe.identity.license) w :=
    ⟨rfl, w.files, [], rfl, by simpa using h, by simp [CopiesPlaced]⟩
  unfold License.aggregate
  rw [run_bind]
  generalize hres : (List.foldlM (m := Job) _ _ _ : Job License.Manifest).run w = res
  obtain ⟨r, w₁⟩ := res
  have hfold := run_foldlM_of_invariant I ?step h0 hres
  case step =>
    intro pre d rest m w' hsplit ⟨hm, t', extra, hw', h', hcov⟩
    subst hw'
    dsimp only
    have hm' : ∀ m', m.add d.name.val d.license = (m', true) ∨ m.add d.name.val d.license = (m', false) →
        m' = (License.Manifest.new e.recipe.identity.name.val e.recipe.identity.license).addAll
          ((pre ++ [d]).map fun d => (d.name.val, d.license)) := by
      rintro m' (hadd | hadd) <;>
        rw [List.map_append, List.map_singleton, License.Manifest.addAll_concat, ← hm] <;>
        simp [hadd]
    have hadded := License.Manifest.add_addAll_snd e.recipe.identity.name.val
      e.recipe.identity.license (pre.map fun d => (d.name.val, d.license)) d.name.val d.license
    rw [← hm, List.map_map] at hadded
    rcases hadd : m.add d.name.val d.license with ⟨m', added⟩
    rw [hadd] at hadded
    cases added
    · -- the name is the package's or was given before: nothing is copied
      refine ⟨m', _, by simp, hm' m' (.inr hadd), t', extra ++ [], rfl, by simpa using h',
        hcov.concat fun rel c hrel hrelp hc => ?_⟩
      by_cases hown : d.name.val = e.recipe.identity.name.val
      · rw [hown, licenseCopy_own] at hc
        cases hc
      · have hpre : d.name.val ∈ pre.map (·.name.val) := by
          by_contra hnot
          exact absurd (hadded.mpr ⟨hown, by simpa using hnot⟩) Bool.false_ne_true
        exact List.mem_append_left [] (hcov _ rel c hpre hrel hrelp hc)
    · -- the first host of its name: its licenses folder is copied when it is a directory
      obtain ⟨hown, hnew⟩ := hadded.mp rfl
      have hfirst := firstHost_of_first hsplit.symm (by simpa using hnew)
      obtain ⟨-, hn, -, P, hP, hPp, hlit, hBS, hSB⟩ := hsite.firstHost hfirst
      have hS : ∀ m ∈ P ++ ["licenses"], PlainName m :=
        List.forall_mem_append.mpr ⟨hPp, by simp; decide⟩
      have hsource : d.packageFolder.join "licenses" = ofLocation (P ++ ["licenses"]) := by
        rw [hP, ofString_eq, join_ofLocation hPp (by decide)]
      have hsame : t'.at? (P ++ ["licenses"]) = t₀.at? (P ++ ["licenses"]) :=
        h'.at?_apart (placed_below h') hS hBS hSB
      simp only [Bool.not_true, Bool.false_eq_true, ↓reduceIte, run_bind, run_isDir, hsource]
      by_cases hdir : t₀.at? (P ++ ["licenses"]) = some .directory
      · rw [(isDir_ofLocation h'.wf hS).mpr (hsame.trans hdir)]
        obtain ⟨t'', extra', hrun, h'', hcopies⟩ :=
          run_copyLicenses hsite hroom (w := { w with files := t' }) h' hfirst hown hP hPp hlit hBS hSB hdir
        rw [hsource] at hrun
        simp only [↓reduceIte, run_bind, hrun]
        exact ⟨m', _, rfl, hm' m' (.inl hadd), t'', extra ++ extra', rfl, by simpa using h'',
          hcov.concat fun rel c hrel hrelp hc =>
            List.mem_append_right extra (hcopies rel c hrel hrelp hc)⟩
      · have hnot : t'.isDir (ofLocation (P ++ ["licenses"])) = false := by
          rw [← Bool.not_eq_true, isDir_ofLocation h'.wf hS, hsame]
          exact hdir
        rw [hnot]
        -- a licenses folder that is no directory has no copies
        refine ⟨m', _, by simp, hm' m' (.inl hadd), t', extra ++ [], rfl, by simpa using h',
          hcov.concat fun rel c hrel hrelp hc => ?_⟩
        rw [licenseCopy_eq_none_of_not_dir hsite hfirst hP hPp hdir hrelp hrel] at hc
        cases hc
  obtain ⟨m, rfl, hm, t₁, extra₁, rfl, h₁, hcov₁⟩ := hfold
  have hmanifest : m = manifest e opts.deps := by
    rw [hm, manifest, hostLicenses_eq]
  subst hmanifest
  -- the recipe's own license
  obtain ⟨R, hR, hRp, hRout⟩ := hsite.root
  have hRL : ∀ m ∈ R ++ ["LICENSE"], PlainName m := List.forall_mem_append.mpr ⟨hRp, by simp; decide⟩
  have hown : (buildLayout e opts.buildFolder).recipeRoot.join "LICENSE" = ofLocation (R ++ ["LICENSE"]) := by
    rw [buildLayout_recipeRoot, hR, ofString_eq, join_ofLocation hRp (by decide)]
  have hownFile : ∀ c, file e opts t₀ ["licenses", "LICENSE"] = some c ↔
      t₁.at? (R ++ ["LICENSE"]) = some (.file c) := by
    intro c
    rw [file_ownLicense, hR, ofString_eq, join_ofLocation hRp (by decide),
      toOption_read_eq_some hsite.wellFormed hRL,
      h₁.file_outside (placed_below h₁) hsite.noFileOnBuild hRL hRout]
  simp only [run_bind, run_isFile, hown]
  by_cases hfile : ∃ c, t₁.at? (R ++ ["LICENSE"]) = some (.file c)
  · obtain ⟨c, hc⟩ := hfile
    have hL := plain_pair hsite.buildPlain (a := "licenses") (b := "LICENSE") (by decide) (by decide)
    have hmeant : wanted e opts t₀ B b (B ++ ["licenses", "LICENSE"]) = some c := by
      rw [wanted_append hL (.inr (by simp [reportLocation, License.reportFileName]))]
      exact (hownFile c).mpr hc
    obtain ⟨t₂, hrun, h₂⟩ := h₁.run_copyTo (w := { w with files := t₁ }) hroom (by simp) hL
      hmeant hRL hc
    rw [(isFile_ofLocation h₁.wf hRL).mpr ⟨c, hc⟩]
    simp only [↓reduceIte, run_bind, Layout.licensesFolder,
      layout_join_join hsite (by decide : PlainName "licenses") (by decide : PlainName "LICENSE"), hrun]
    exact ⟨t₂, extra₁ ++ [B ++ ["licenses", "LICENSE"]], rfl, by simpa using h₂,
      fun n rel c hrel hrelp hc =>
        List.mem_append_left _ (hcov₁ n rel c (mem_hostNames_of_licenseCopy hc) hrel hrelp hc),
      fun _ _ => by simp⟩
  · have hnot : t₁.isFile (ofLocation (R ++ ["LICENSE"])) = false := by
      rw [← Bool.not_eq_true, isFile_ofLocation h₁.wf hRL]
      exact hfile
    rw [hnot]
    exact ⟨t₁, extra₁, by simp, h₁,
      fun n rel c hrel hrelp hc => hcov₁ n rel c (mem_hostNames_of_licenseCopy hc) hrel hrelp hc,
      fun c hc => absurd ⟨c, (hownFile c).mp hc⟩ hfile⟩

/-! ### The report and the shim -/

include hroom in
/-- the report goes to `licenses/`, and its page to `gen_md/` when documentation is built -/
theorem run_writeReport (hb : b = true) (h : Placed t₀ (wanted e opts t₀ B b) done w.files) :
    ∃ t', (License.writeReport (manifest e opts.deps) (buildLayout e opts.buildFolder)
        ((opts.licenseFormat <|> e.config.licenseFormat).getD .table) e.options.withDoc).run w =
        (.ok (), { w with files := t' }) ∧
      Placed t₀ (wanted e opts t₀ B b) (done ++ [B ++ ["licenses", License.reportFileName]] ++
        if e.options.withDoc then [B ++ ["gen_md", "licenses.md"]] else []) t' := by
  have hrep := plain_pair hsite.buildPlain (a := "licenses") (b := License.reportFileName)
    (by decide) (by decide)
  have hdoc := plain_pair hsite.buildPlain (a := "gen_md") (b := "licenses.md") (by decide) (by decide)
  obtain ⟨t₁, hrun₁, h₁⟩ := h.run_writeText hroom (by simp) hrep
    (by rw [wanted_append hrep (.inl hb), file_report])
  rw [report] at hrun₁
  simp only [License.writeReport, Layout.licensesFolder, Layout.genMdFolder,
    layout_join_join hsite (by decide : PlainName "licenses")
      (by decide : PlainName License.reportFileName), run_bind, hrun₁]
  cases hwith : e.options.withDoc
  · exact ⟨t₁, rfl, by simpa using h₁⟩
  · obtain ⟨t₂, hrun₂, h₂⟩ := h₁.run_writeText (w := { w with files := t₁ }) hroom (by simp) hdoc
      (by rw [wanted_append hdoc (.inr (by simp [reportLocation])), file_doc, hwith]; rfl)
    simp only [↓reduceIte, layout_join_join hsite (by decide : PlainName "gen_md")
      (by decide : PlainName "licenses.md")]
    exact ⟨t₂, hrun₂, by simpa using h₂⟩

/-- with a directory at the report's place, writing the report fails -/
theorem run_writeReport_of_dir (m : License.Manifest) (format : License.Format) (withDoc : Bool)
    (hwf : w.files.WellFormed) (hdir : w.files.at? (B ++ reportLocation) = some .directory) :
    ∃ f, (License.writeReport m (buildLayout e opts.buildFolder) format withDoc).run w =
      (.error f, w) := by
  have hrep := plain_pair hsite.buildPlain (a := "licenses") (b := License.reportFileName)
    (by decide) (by decide)
  obtain ⟨f, hrun⟩ := Job.run_writeText_of_dir hwf (by simp) hrep hdir (m.render format)
  refine ⟨f, ?_⟩
  simp only [License.writeReport, Layout.licensesFolder, layout_join_join hsite
    (by decide : PlainName "licenses") (by decide : PlainName License.reportFileName)]
  exact run_bind_error hrun _

include hroom in
/-- the shim's source goes to `cppfmu/` when the shim's first host has a first source folder
holding it -/
theorem run_seedShim (h : Placed t₀ (wanted e opts t₀ B b) done w.files) :
    ∃ s t' extra, (seedShim (buildLayout e opts.buildFolder) opts.deps).run w =
        (.ok s, { w with files := t' }) ∧ Placed t₀ (wanted e opts t₀ B b) (done ++ extra) t' ∧
      ∀ c, shimSource opts.deps t₀ = some c →
        B ++ [Requirement.fmiShim.name.val, shimSourceName] ∈ extra := by
  unfold seedShim
  cases hf : firstHost opts.deps Requirement.fmiShim.name.val with
  | none =>
    have hsrc : shimSource opts.deps t₀ = none := by rw [shimSource, hf]; rfl
    unfold firstHost at hf
    simp only [hf]
    exact ⟨none, w.files, [], by simp, by simpa using h, by simp [hsrc]⟩
  | some shim =>
    have hf' := hf
    unfold firstHost at hf'
    simp only [hf']
    cases hd : shim.srcDirs.head? with
    | none =>
      have hsrc : shimSource opts.deps t₀ = none := by
        rw [shimSource, hf, Option.bind_some, hd]
        rfl
      exact ⟨none, w.files, [], by simp, by simpa using h, by simp [hsrc]⟩
    | some dir =>
      obtain ⟨S, hS, hSp, hout⟩ := hsite.shim shim dir hf hd
      -- the source lies outside the build folder, so it is read as it was
      have hsrc : ∀ c, shimSource opts.deps t₀ = some c ↔ w.files.at? S = some (.file c) := by
        intro c
        rw [shimSource, hf, Option.bind_some, hd, Option.bind_some, hS,
          toOption_read_eq_some hsite.wellFormed hSp,
          h.file_outside (placed_below h) hsite.noFileOnBuild hSp hout]
      have hT := plain_pair hsite.buildPlain (a := Requirement.fmiShim.name.val) (b := shimSourceName)
        (by decide) (by decide)
      dsimp only
      rw [join_source, hS]
      simp only [run_bind, run_isFile,
        layout_join_join hsite (by decide : PlainName Requirement.fmiShim.name.val)
          (by decide : PlainName shimSourceName)]
      by_cases hfile : ∃ c, w.files.at? S = some (.file c)
      · obtain ⟨c, hc⟩ := hfile
        rw [(isFile_ofLocation h.wf hSp).mpr ⟨c, hc⟩]
        have hmeant : wanted e opts t₀ B b (B ++ [Requirement.fmiShim.name.val, shimSourceName]) =
            some c := by
          rw [wanted_append hT (.inr (by simp [reportLocation])), file_shim]
          exact (hsrc c).mpr hc
        obtain ⟨t', hrun, h'⟩ := h.run_copyTo hroom (by simp) hT hmeant hSp hc
        simp only [Bool.not_true, Bool.false_eq_true, ↓reduceIte, run_bind, hrun]
        exact ⟨_, t', _, rfl, h', fun _ _ => List.mem_singleton_self _⟩
      · have hnot : w.files.isFile (ofLocation S) = false := by
          rw [← Bool.not_eq_true, isFile_ofLocation h.wf hSp]
          exact hfile
        rw [hnot]
        exact ⟨none, w.files, [], by simp, by simpa using h,
          fun c hc => absurd ⟨c, (hsrc c).mp hc⟩ hfile⟩

end Writers

/-! ## The whole run -/

/-- **Generation writes the files meant for the build folder, and all of them.** From a tree
where it may write and no license copy is meant below the report's place, generation succeeds,
and the tree it leaves is the starting tree with a list of locations placed that holds every
location meant for a file -/
theorem run_generate (hsite : Site e opts w.files B) (hclash : ¬ ReportClash e opts w.files) :
    ∃ g w' done, (generate e opts).run w = (.ok g, w') ∧
      Placed w.files (wanted e opts w.files B true) done w'.files ∧ done ≠ [] ∧
      ∀ L, (wanted e opts w.files B true L).isSome → L ∈ done := by
  have hroom := hsite.room (b := true) fun _ => hclash
  obtain ⟨t₁, hrun₁, h₁⟩ := run_writeToolchain hsite hroom (Placed.init hsite.wellFormed)
  obtain ⟨t₂, extra₂, hrun₂, h₂, hcopies, hown⟩ :=
    run_aggregate hsite hroom (w := { w with files := t₁ }) h₁
  obtain ⟨t₃, hrun₃, h₃⟩ := run_writeReport hsite hroom rfl (w := { w with files := t₂ }) h₂
  obtain ⟨s, t₄, extra₄, hrun₄, h₄, hshim⟩ :=
    run_seedShim hsite hroom (w := { w with files := t₃ }) h₃
  have hrun : (generate e opts).run w =
      (.ok ⟨buildLayout e opts.buildFolder, toolchain e, manifest e opts.deps, s⟩,
        { w with files := t₄ }) := by
    unfold toolchain at hrun₁
    simp only [generate, run_bind, hrun₁, hrun₂, hrun₃, hrun₄]
    rfl
  refine ⟨_, _, _, hrun, h₄, by simp, fun L hL => ?_⟩
  obtain ⟨r, rfl, hplain, -, hr⟩ := wanted_isSome hL
  rcases file_isSome hr with hfix | ⟨n, rel, hrel, rfl, hcopy⟩
  · -- each fixed place is written by its writer when its file is generated
    simp only [fixedLocations, List.mem_cons, List.mem_nil_iff, or_false] at hfix
    obtain ⟨c, hc⟩ := Option.isSome_iff_exists.mp hr
    rcases hfix with rfl | rfl | rfl | rfl | rfl | rfl
    · simp
    · simp
    · simp [hown c hc]
    · simp
    · rw [file_doc] at hc
      split at hc
      · simp [*]
      · cases hc
    · rw [file_shim] at hc
      exact List.mem_append_right _ (hshim c hc)
  · obtain ⟨c, hc⟩ := Option.isSome_iff_exists.mp hcopy
    have hrelp : ∀ m ∈ rel, PlainName m := fun m hm => hplain m (by simp [hm])
    simp [hcopies n rel c hrel hrelp hc]

/-- **A license folder at the report's place stops generation.** From a tree where it may write
but where a license copy is meant below the report's place, the copies make that place a
directory, and writing the report there fails -/
theorem run_generate_of_reportClash (hsite : Site e opts w.files B)
    (hclash : ReportClash e opts w.files) :
    ∃ f w', (generate e opts).run w = (.error f, w') := by
  -- up to the report the run is the one of the files meant without it
  have hroom := hsite.room (b := false) fun h => absurd h Bool.false_ne_true
  obtain ⟨t₁, hrun₁, h₁⟩ := run_writeToolchain hsite hroom (Placed.init hsite.wellFormed)
  obtain ⟨t₂, extra₂, hrun₂, h₂, hcopies, -⟩ :=
    run_aggregate hsite hroom (w := { w with files := t₁ }) h₁
  obtain ⟨rel, c, hrel, hrelp, hc⟩ := hclash
  have hplain : ∀ m ∈ B ++ reportLocation, PlainName m :=
    plain_pair hsite.buildPlain (by decide) (by decide)
  -- the copy below the report's place is placed, and the report's place is not
  have hbelow : B ++ reportLocation ++ rel ∈ [] ++ [B ++ ["generators", toolchainFileName],
      B ++ ["generators", depsFileName]] ++ extra₂ := by
    have hmem := hcopies _ rel c hrel hrelp hc
    rw [show B ++ reportLocation ++ rel = B ++ "licenses" :: License.reportFileName :: rel by
      simp [reportLocation]]
    exact List.mem_append_right _ hmem
  have hnot : B ++ reportLocation ∉ [] ++ [B ++ ["generators", toolchainFileName],
      B ++ ["generators", depsFileName]] ++ extra₂ := fun hin => by
    have hmeant := h₂.meant _ hin
    simp [wanted] at hmeant
  have hdir : t₂.at? (B ++ reportLocation) = some .directory := by
    rw [h₂.at?_eq _ hplain]
    unfold overlay
    rw [if_neg hnot, if_pos ⟨_, hbelow, List.prefix_append _ rel⟩]
  obtain ⟨f, hrun₃⟩ := run_writeReport_of_dir hsite (w := { w with files := t₂ }) (manifest e opts.deps)
    ((opts.licenseFormat <|> e.config.licenseFormat).getD .table) e.options.withDoc h₂.wf hdir
  refine ⟨f, { w with files := t₂ }, ?_⟩
  unfold toolchain at hrun₁
  simp only [generate, run_bind, hrun₁, hrun₂, hrun₃]

theorem ddsFmu_valid : Package.Name.problem? "dds-fmu" = none := by decide

/-- a recipe named `dds-fmu` at `/root`, with the default settings -/
def ownNameEvaluation : Evaluation :=
  { (default : Evaluation) with
    recipe := { identity := { (default : Package.Identity) with
                  name := ⟨"dds-fmu", ddsFmu_valid⟩, license := "MPL-2.0" },
                root := ofLocation ["root"] } }

/-- one host dependency named as the package, installed at `/root/pkgs/t` -/
def ownNameOptions : GenerateOptions :=
  { deps := [{ name := ⟨"dds-fmu", ddsFmu_valid⟩, role := .host, license := .single "MIT",
               packageFolder := ofLocation ["root", "pkgs", "t"] }] }

/-- a host dependency named as the report, installed at `/root/pkgs/t` -/
def reportNamedHost : Dependency :=
  { name := ⟨License.reportFileName, by decide⟩, role := .host, license := .single "MIT",
    packageFolder := ofLocation ["root", "pkgs", "t"] }

/-- the dependency named as the report alone -/
def reportNamedOptions : GenerateOptions := { deps := [reportNamedHost] }

/-- the dependency's licenses folder holds one file -/
def licensedTree : FileTree :=
  ((((({} : FileTree).put ["root"] .directory).put ["root", "pkgs"] .directory).put
    ["root", "pkgs", "t"] .directory).put ["root", "pkgs", "t", "licenses"] .directory).put
    ["root", "pkgs", "t", "licenses", "COPYING"] (.file "text\n")

theorem at?_empty {L : List String} :
    ({} : FileTree).at? L = if L = [] then some .directory else none := by
  by_cases hL : L = []
  · simp [hL]
  · rw [at?_of_ne_nil hL, if_neg hL]
    rfl

theorem wellFormed_empty : ({} : FileTree).WellFormed where
  plainKeys k e h := by simp at h
  parentDir L n _ h := by simp [at?_empty] at h

theorem at?_licensedTree {L : List String} (hL : ∀ m ∈ L, PlainName m) :
    licensedTree.at? L =
      if L = ["root", "pkgs", "t", "licenses", "COPYING"] then some (.file "text\n")
      else if L = [] ∨ L = ["root"] ∨ L = ["root", "pkgs"] ∨ L = ["root", "pkgs", "t"] ∨
        L = ["root", "pkgs", "t", "licenses"] then some .directory
      else none := by
  rw [licensedTree,
    at?_put (M := ["root", "pkgs", "t", "licenses", "COPYING"]) (by decide) (by simp) hL,
    at?_put (M := ["root", "pkgs", "t", "licenses"]) (by decide) (by simp) hL,
    at?_put (M := ["root", "pkgs", "t"]) (by decide) (by simp) hL,
    at?_put (M := ["root", "pkgs"]) (by decide) (by simp) hL,
    at?_put (M := ["root"]) (by decide) (by simp) hL, at?_empty]
  by_cases h1 : L = ["root", "pkgs", "t", "licenses", "COPYING"]
  · simp [h1]
  by_cases h2 : L = ["root", "pkgs", "t", "licenses"]
  · simp [h2]
  by_cases h3 : L = ["root", "pkgs", "t"]
  · simp [h3]
  by_cases h4 : L = ["root", "pkgs"]
  · simp [h4]
  by_cases h5 : L = ["root"]
  · simp [h5]
  simp [h1, h2, h3, h4, h5]

theorem wellFormed_licensedTree : licensedTree.WellFormed := by
  have h1 := wellFormed_empty.put (M := ["root"]) (by decide) (by simp) (by simp) .directory (.inr rfl)
  have h2 := h1.put (M := ["root", "pkgs"]) (by decide) (by simp)
    (by simp (disch := decide) [at?_put]) .directory (.inr rfl)
  have h3 := h2.put (M := ["root", "pkgs", "t"]) (by decide) (by simp)
    (by simp (disch := decide) [at?_put]) .directory (.inr rfl)
  have h4 := h3.put (M := ["root", "pkgs", "t", "licenses"]) (by decide) (by simp)
    (by simp (disch := decide) [at?_put]) .directory (.inr rfl)
  exact h4.put (M := ["root", "pkgs", "t", "licenses", "COPYING"]) (by decide) (by simp)
    (by simp (disch := decide) [at?_put]) (.file "text\n")
    (.inl (by simp (disch := decide) [at?_put, at?_empty]))

/-- generation may write below `/root/build/Release` for any host dependencies installed at
`/root/pkgs/t`, none of them the shim -/
theorem site_licensedTree (opts : GenerateOptions) (hfolder : opts.buildFolder = none)
    (hdeps : ∀ d ∈ opts.deps, d.packageFolder = ofLocation ["root", "pkgs", "t"])
    (hshim : firstHost opts.deps Requirement.fmiShim.name.val = none) :
    Site ownNameEvaluation opts licensedTree ["root", "build", "Release"] where
  wellFormed := wellFormed_licensedTree
  buildFolder := by
    show (buildLayout ownNameEvaluation opts.buildFolder).buildFolder = _
    rw [hfolder]
    show ((ofLocation ["root"]).join "build").join "Release" = ofLocation (["root"] ++ ["build", "Release"])
    exact join_join_ofLocation (by decide) (by decide) (by decide)
  buildPlain := by decide
  noFileOnBuild := by
    intro P hP c
    -- the locations along the build folder hold directories or nothing
    rcases List.prefix_cons_iff.mp hP with rfl | ⟨P₁, rfl, hP₁⟩
    · simp
    rcases List.prefix_cons_iff.mp hP₁ with rfl | ⟨P₂, rfl, hP₂⟩
    · simp [at?_licensedTree (L := ["root"]) (by decide)]
    rcases List.prefix_cons_iff.mp hP₂ with rfl | ⟨P₃, rfl, hP₃⟩
    · simp [at?_licensedTree (L := ["root", "build"]) (by decide)]
    rw [List.prefix_nil.mp hP₃]
    simp [at?_licensedTree (L := ["root", "build", "Release"]) (by decide)]
  emptyBuild r hr hrp := by
    rw [at?_licensedTree (List.forall_mem_append.mpr ⟨by decide, hrp⟩)]
    simp [hr]
  root := ⟨["root"], rfl, by decide, by decide⟩
  host d hd _ := ⟨["root", "pkgs", "t"], hdeps d hd, by decide, by decide, by decide, by decide⟩
  shim d dir hd := by
    rw [hshim] at hd
    cases hd

theorem site_ownName : Site ownNameEvaluation ownNameOptions licensedTree ["root", "build", "Release"] :=
  site_licensedTree ownNameOptions rfl (by simp [ownNameOptions]) (by decide)

theorem site_reportNamed :
    Site ownNameEvaluation reportNamedOptions licensedTree ["root", "build", "Release"] :=
  site_licensedTree reportNamedOptions rfl (by simp [reportNamedOptions, reportNamedHost]) (by decide)

/-- no dependency is named as the report, so no license copy is meant below its place -/
theorem not_reportClash_ownName : ¬ ReportClash ownNameEvaluation ownNameOptions licensedTree := by
  rintro ⟨rel, c, -, -, hc⟩
  have hnone : firstHost ownNameOptions.deps License.reportFileName = none := by decide
  simp [licenseCopy, hnone] at hc

/-- a dependency named as the package gets no license copies: after generation nothing lies
below `licenses/<package name>/` -/
theorem generate_copies_nothing_for_own_name (hsite : Site e opts w.files B)
    (hclash : ¬ ReportClash e opts w.files) :
    ∃ g w', (generate e opts).run w = (.ok g, w') ∧
      ∀ rel, rel ≠ [] → (∀ m ∈ "licenses" :: e.recipe.identity.name.val :: rel, PlainName m) →
        w'.files.at? (B ++ "licenses" :: e.recipe.identity.name.val :: rel) = none := by
  obtain ⟨g, w', done, hrun, h, -, -⟩ := run_generate hsite hclash
  refine ⟨g, w', hrun, fun rel hrel hrelp => ?_⟩
  have hplain := List.forall_mem_append.mpr ⟨hsite.buildPlain, hrelp⟩
  -- no location below the package's own licenses folder is meant for a file
  have hnone : ∀ r', "licenses" :: e.recipe.identity.name.val :: rel <+: r' →
      file e opts w.files r' = none := by
    rintro r' ⟨x, rfl⟩
    rw [List.cons_append, List.cons_append, file_licenses _ (by simp [hrel]), licenseCopy_own]
  have hout : B ++ "licenses" :: e.recipe.identity.name.val :: rel ∉ done := fun hin => by
    have := h.meant _ hin
    rw [wanted_append hplain (.inl rfl), hnone _ (List.prefix_refl _)] at this
    cases this
  have hbelow : ¬ ∃ x ∈ done, B ++ "licenses" :: e.recipe.identity.name.val :: rel <+: x := by
    rintro ⟨x, hx, hpre⟩
    obtain ⟨r', rfl, -, -, hr'⟩ := wanted_isSome (h.meant x hx)
    rw [hnone r' ((List.prefix_append_right_inj B).mp hpre)] at hr'
    cases hr'
  rw [h.at?_eq _ hplain]
  unfold overlay
  rw [if_neg hout, if_neg hbelow, hsite.emptyBuild _ (by simp) hrelp]

/-- a host dependency named as the package, whose licenses folder holds `COPYING`: generation
succeeds and copies no `licenses/dds-fmu/COPYING` into the build folder -/
theorem generate_ownName_omits_license_copy :
    licensedTree.at? ["root", "pkgs", "t", "licenses", "COPYING"] = some (.file "text\n") ∧
    ∃ g w', (generate ownNameEvaluation ownNameOptions).run { files := licensedTree } = (.ok g, w') ∧
      w'.files.at? ["root", "build", "Release", "licenses", "dds-fmu", "COPYING"] = none := by
  refine ⟨by rw [at?_licensedTree (by decide)]; simp, ?_⟩
  obtain ⟨g, w', hrun, hnone⟩ := generate_copies_nothing_for_own_name (w := { files := licensedTree })
    site_ownName not_reportClash_ownName
  exact ⟨g, w', hrun, hnone ["COPYING"] (by simp) (by decide)⟩

/-- a host dependency named `licenses.txt`, whose licenses folder holds `COPYING`: its copy is
meant below the report's place, and generation fails -/
theorem generate_fails_for_host_named_as_report :
    ReportClash ownNameEvaluation reportNamedOptions licensedTree ∧
    ∃ f w', (generate ownNameEvaluation reportNamedOptions).run { files := licensedTree } =
      (.error f, w') := by
  have hclash : ReportClash ownNameEvaluation reportNamedOptions licensedTree := by
    refine ⟨["COPYING"], "text\n", by simp, by decide, ?_⟩
    refine (licenseCopy_eq_some site_reportNamed (by decide) (by simp)).mpr
      ⟨by decide, reportNamedHost, ["root", "pkgs", "t"], rfl, rfl, by decide, ?_⟩
    rw [at?_licensedTree (by decide)]
    simp
  exact ⟨hclash, run_generate_of_reportClash (w := { files := licensedTree }) site_reportNamed hclash⟩

end Generation

end BuildRecipe

/-
The files generation writes, as a function of the locations below the build folder
(`Generation.file`): the toolchain and dependency files under `generators/`, the report under
`licenses/` and, with documentation, its page under `gen_md/`, the recipe's own `LICENSE`, the
license files of each name's first host dependency below `licenses/<name>/`, the package's own
name apart, and the shim's source under `cppfmu/`.
-/
import BuildRecipe.Generation
import BuildRecipe.Proofs.License
import BuildRecipe.Proofs.Placement

namespace BuildRecipe

open BuildRecipe.Path FileTree

/-- the first host dependency of a name -/
def firstHost (deps : List Dependency) (n : String) : Option Dependency :=
  (deps.filter (·.isHost)).find? (·.name.val == n)

namespace Generation

/-- the toolchain generation renders -/
def toolchain (e : Evaluation) : Toolchain :=
  Toolchain.new e.recipe.identity.name e.options e.settings e.withTests

/-- the rows of the package and of its host dependencies, the first license of a name winning -/
def manifest (e : Evaluation) (deps : List Dependency) : License.Manifest :=
  (License.Manifest.new e.recipe.identity.name.val e.recipe.identity.license).addAll
    (License.hostLicenses deps)

/-- the license report, in the format asked for, else the configured one, else a table -/
def report (e : Evaluation) (opts : GenerateOptions) : String :=
  (manifest e opts.deps).render ((opts.licenseFormat <|> e.config.licenseFormat).getD .table)

/-- the text of the file at the relative location `rel` in the licenses folder of the first host
dependency named `n`; the package's own name has none -/
def licenseCopy (e : Evaluation) (deps : List Dependency) (t : FileTree) (n : String)
    (rel : List String) : Option String :=
  if n = e.recipe.identity.name.val then none
  else (firstHost deps n).bind fun d =>
    (t.read ((d.packageFolder.join "licenses").join (ofComponents (rel.map .normal)))).toOption

/-- the text of the shim's source, when the shim's first host dependency has a first source
folder, taken from its package folder when relative, that holds it -/
def shimSource (deps : List Dependency) (t : FileTree) : Option String :=
  (firstHost deps Requirement.fmiShim.name.val).bind fun d => d.srcDirs.head?.bind fun dir =>
    (t.read ((d.packageFolder.join dir).join shimSourceName)).toOption

/-- the files at fixed places below the build folder, with their texts when they are written -/
def fixedFiles (e : Evaluation) (opts : GenerateOptions) (t : FileTree) :
    List (List String × Option String) :=
  [(["generators", toolchainFileName], some (toolchain e).renderToolchain),
   (["generators", depsFileName], some ((toolchain e).renderDeps opts.deps)),
   (["licenses", "LICENSE"], (t.read (e.recipe.root.join "LICENSE")).toOption),
   (["licenses", License.reportFileName], some (report e opts)),
   (["gen_md", "licenses.md"],
     if e.options.withDoc then some (License.markdownReport (report e opts)) else none),
   ([Requirement.fmiShim.name.val, shimSourceName], shimSource opts.deps t)]

/-- the text generation writes at a location below the build folder, from the tree `t` it starts
from: the license copies below `licenses/<name>/`, and the fixed files -/
def file (e : Evaluation) (opts : GenerateOptions) (t : FileTree) : List String → Option String
  | "licenses" :: n :: r :: rel => licenseCopy e opts.deps t n (r :: rel)
  | r => ((fixedFiles e opts t).lookup r).join

/-- the locations of the fixed files -/
def fixedLocations : List (List String) :=
  [["generators", toolchainFileName], ["generators", depsFileName], ["licenses", "LICENSE"],
   ["licenses", License.reportFileName], ["gen_md", "licenses.md"],
   [Requirement.fmiShim.name.val, shimSourceName]]

variable {e : Evaluation} {opts : GenerateOptions} {t : FileTree} {r : List String}

theorem file_licenses (n : String) {rel : List String} (hrel : rel ≠ []) :
    file e opts t ("licenses" :: n :: rel) = licenseCopy e opts.deps t n rel := by
  obtain ⟨x, rel, rfl⟩ := List.exists_cons_of_ne_nil hrel
  rfl

/-- a location of two names is a fixed place or none -/
theorem file_pair (a b : String) :
    file e opts t [a, b] = ((fixedFiles e opts t).lookup [a, b]).join := by
  simp [file]

/-- a text is generated only at a fixed place or below the licenses folder of a name -/
theorem file_isSome (h : (file e opts t r).isSome) :
    r ∈ fixedLocations ∨
      ∃ n rel, rel ≠ [] ∧ r = "licenses" :: n :: rel ∧ (licenseCopy e opts.deps t n rel).isSome := by
  unfold file at h
  split at h
  · exact .inr ⟨_, _, List.cons_ne_nil _ _, rfl, h⟩
  · left
    obtain ⟨c, hc⟩ := Option.isSome_iff_exists.mp h
    obtain ⟨l₁, l₂, hsplit, -⟩ := List.lookup_eq_some_iff.mp (Option.join_eq_some_iff.mp hc)
    have hmem : (r, some c) ∈ fixedFiles e opts t := by simp [hsplit]
    simp only [fixedFiles, List.mem_cons, List.mem_nil_iff, or_false, Prod.mk.injEq] at hmem
    simp only [fixedLocations, List.mem_cons, List.mem_nil_iff, or_false]
    rcases hmem with ⟨h, -⟩ | ⟨h, -⟩ | ⟨h, -⟩ | ⟨h, -⟩ | ⟨h, -⟩ | ⟨h, -⟩ <;> simp [h]

/-- nothing is generated at the build folder itself -/
theorem file_nil : file e opts t [] = none := by
  simp [file, fixedFiles, List.lookup_cons, List.lookup_nil]

theorem fixedLocations_length (h : r ∈ fixedLocations) : r.length = 2 := by
  simp only [fixedLocations, List.mem_cons, List.mem_nil_iff, or_false] at h
  rcases h with rfl | rfl | rfl | rfl | rfl | rfl <;> rfl

/-- the path of a relative location in a package's licenses folder -/
theorem licensesPath_ofLocation {P rel : List String} (hP : ∀ m ∈ P, PlainName m)
    (hrel : ∀ m ∈ rel, PlainName m) (hne : rel ≠ []) :
    ((ofLocation P).join "licenses").join (ofComponents (rel.map .normal)) =
      ofLocation (P ++ "licenses" :: rel) := by
  have hlic : ∀ m ∈ P ++ ["licenses"], PlainName m :=
    List.forall_mem_append.mpr ⟨hP, by simp; decide⟩
  rw [ofString_eq, join_ofLocation hP (by decide), join_ofComponents hlic hrel hne]
  simp

/-! ### The fixed places -/

@[simp] theorem fmiShim_name : Requirement.fmiShim.name.val = "cppfmu" := rfl

theorem file_toolchain :
    file e opts t ["generators", toolchainFileName] = some (toolchain e).renderToolchain := by
  simp [file_pair, fixedFiles]

theorem file_deps :
    file e opts t ["generators", depsFileName] = some ((toolchain e).renderDeps opts.deps) := by
  simp [file_pair, fixedFiles, List.lookup_cons, toolchainFileName, depsFileName]

theorem file_ownLicense :
    file e opts t ["licenses", "LICENSE"] = (t.read (e.recipe.root.join "LICENSE")).toOption := by
  simp [file_pair, fixedFiles, List.lookup_cons]

theorem file_report : file e opts t ["licenses", License.reportFileName] = some (report e opts) := by
  simp [file_pair, fixedFiles, List.lookup_cons, License.reportFileName]

theorem file_doc : file e opts t ["gen_md", "licenses.md"] =
    if e.options.withDoc then some (License.markdownReport (report e opts)) else none := by
  simp [file_pair, fixedFiles, List.lookup_cons, License.reportFileName]

theorem file_shim :
    file e opts t [Requirement.fmiShim.name.val, shimSourceName] = shimSource opts.deps t := by
  simp [file_pair, fixedFiles, List.lookup_cons, toolchainFileName, depsFileName, License.reportFileName,
    shimSourceName]

end Generation

/-! ## Package names and first hosts -/

namespace Package.Name

/-- a valid name starts with a character a name may start with and holds only name characters -/
theorem problem?_eq_none {s : String} (h : problem? s = none) :
    ∃ c cs, s.toList = c :: cs ∧ isNameStart c = true ∧ ∀ x ∈ s.toList, isNameChar x = true := by
  unfold problem? at h
  split at h
  · cases h
  · rename_i c cs hs
    split at h
    · cases h
    split at h
    · cases h
    split at h
    · cases h
    rename_i hstart _ hfind
    refine ⟨c, cs, hs, by simpa using hstart, fun x hx => ?_⟩
    simpa using List.find?_eq_none.mp hfind x hx

/-- a valid name is a plain name of a location, and no upper-case one such as `LICENSE` -/
theorem plainName_of_problem?_eq_none {s : String} (h : problem? s = none) :
    PlainName s ∧ s ≠ "LICENSE" := by
  obtain ⟨c, cs, hs, hstart, hall⟩ := problem?_eq_none h
  refine ⟨⟨fun h0 => by simp [h0] at hs, fun hslash => ?_, fun h1 => ?_, fun h2 => ?_⟩, fun hL => ?_⟩
  · exact absurd (hall '/' hslash) (by decide)
  · rw [h1] at hs
    cases (List.cons.inj hs).1
    exact absurd hstart (by decide)
  · rw [h2] at hs
    cases (List.cons.inj hs).1
    exact absurd hstart (by decide)
  · rw [hL] at hs
    cases (List.cons.inj hs).1
    exact absurd hstart (by decide)

end Package.Name

theorem firstHost_eq_some {deps : List Dependency} {n : String} {d : Dependency}
    (h : firstHost deps n = some d) : d ∈ deps ∧ d.isHost = true ∧ d.name.val = n := by
  have hmem := List.mem_of_find?_eq_some h
  have hname := List.find?_some h
  rw [List.mem_filter] at hmem
  exact ⟨hmem.1, hmem.2, by simpa using hname⟩

/-- a host is the first of its name when no host before it has the name -/
theorem firstHost_of_first {deps pre rest : List Dependency} {d : Dependency}
    (hsplit : deps.filter (·.isHost) = pre ++ d :: rest) (hnew : d.name.val ∉ pre.map (·.name.val)) :
    firstHost deps d.name.val = some d := by
  have hpre : pre.find? (·.name.val == d.name.val) = none :=
    List.find?_eq_none.mpr fun x hx hname =>
      hnew (List.mem_map.mpr ⟨x, hx, by simpa using hname⟩)
  rw [firstHost, hsplit, List.find?_append, hpre]
  simp

/-! ## Where generation may write -/

namespace Generation

/-- where generation writes and what it reads, as the recipe's files and its dependencies' folders
lie: the tree is well-formed; the build folder is a plain location with no file on its way and
nothing below it; the recipe root is a plain location whose `LICENSE` is not in the build folder;
every host dependency has a plain package folder without wildcards whose licenses folder lies
apart from the build folder; and the shim's source is a plain location outside the build
folder -/
structure Site (e : Evaluation) (opts : GenerateOptions) (t : FileTree) (B : List String) : Prop where
  wellFormed : t.WellFormed
  buildFolder : (buildLayout e opts.buildFolder).buildFolder = ofLocation B
  buildPlain : ∀ m ∈ B, PlainName m
  noFileOnBuild : t.NoFileOn B
  emptyBuild : ∀ r, r ≠ [] → (∀ m ∈ r, PlainName m) → t.at? (B ++ r) = none
  root : ∃ R, e.recipe.root = ofLocation R ∧ (∀ m ∈ R, PlainName m) ∧ ¬ B <+: R ++ ["LICENSE"]
  host : ∀ d ∈ opts.deps, d.isHost = true →
    ∃ P, d.packageFolder = ofLocation P ∧ (∀ m ∈ P, PlainName m) ∧
      Glob.Literal (locationKey (P ++ ["licenses"])) ∧ ¬ B <+: P ++ ["licenses"] ∧
      ¬ P ++ ["licenses"] <+: B
  shim : ∀ d dir, firstHost opts.deps Requirement.fmiShim.name.val = some d →
    d.srcDirs.head? = some dir →
    ∃ S, (d.packageFolder.join dir).join shimSourceName = ofLocation S ∧ (∀ m ∈ S, PlainName m) ∧
      ¬ B <+: S

/-- the place of the report below the build folder -/
def reportLocation : List String := ["licenses", License.reportFileName]

/-- the first host dependency named as the report has a file in its licenses folder: a license
copy is meant below the report's place -/
def ReportClash (e : Evaluation) (opts : GenerateOptions) (t : FileTree) : Prop :=
  ∃ rel c, rel ≠ [] ∧ (∀ m ∈ rel, PlainName m) ∧
    licenseCopy e opts.deps t License.reportFileName rel = some c

/-- the text generation writes at each location: `file` below the build folder, on plain
locations; the report's place is left out unless `withReport`, as the run stands before the
report is written -/
def wanted (e : Evaluation) (opts : GenerateOptions) (t : FileTree) (B : List String)
    (withReport : Bool) (L : List String) : Option String :=
  if B <+: L ∧ (∀ m ∈ L, PlainName m) ∧ (withReport = true ∨ L.drop B.length ≠ reportLocation) then
    file e opts t (L.drop B.length)
  else none

variable {e : Evaluation} {opts : GenerateOptions} {t : FileTree} {B L r : List String}
  {b : Bool}

theorem wanted_append (hplain : ∀ m ∈ B ++ r, PlainName m) (hr : b = true ∨ r ≠ reportLocation) :
    wanted e opts t B b (B ++ r) = file e opts t r := by
  rw [wanted, List.drop_left, if_pos ⟨List.prefix_append B r, hplain, hr⟩]

/-- a location of a license copy is not the report's -/
theorem licenses_ne_reportLocation {n : String} {rel : List String} (hrel : rel ≠ []) :
    "licenses" :: n :: rel ≠ reportLocation := by
  simp [reportLocation, hrel]

theorem wanted_isSome (h : (wanted e opts t B b L).isSome) :
    ∃ r, L = B ++ r ∧ (∀ m ∈ B ++ r, PlainName m) ∧ (b = true ∨ r ≠ reportLocation) ∧
      (file e opts t r).isSome := by
  unfold wanted at h
  split at h
  · rename_i hL
    obtain ⟨⟨r, rfl⟩, hplain, hr⟩ := hL
    rw [List.drop_left] at hr h
    exact ⟨r, rfl, hplain, hr, h⟩
  · cases h

/-- the facts of the site about the first host of a name -/
theorem Site.firstHost {n : String} {d : Dependency} (hsite : Site e opts t B)
    (hd : firstHost opts.deps n = some d) :
    d.name.val = n ∧ PlainName n ∧ n ≠ "LICENSE" ∧
    ∃ P, d.packageFolder = ofLocation P ∧ (∀ m ∈ P, PlainName m) ∧
      Glob.Literal (locationKey (P ++ ["licenses"])) ∧ ¬ B <+: P ++ ["licenses"] ∧
      ¬ P ++ ["licenses"] <+: B := by
  obtain ⟨hmem, hhost, rfl⟩ := firstHost_eq_some hd
  obtain ⟨hplain, hlicense⟩ := Package.Name.plainName_of_problem?_eq_none d.name.valid
  exact ⟨rfl, hplain, hlicense, hsite.host d hmem hhost⟩

theorem toOption_read_eq_some {L : List String} {c : String} (hwf : t.WellFormed)
    (hL : ∀ m ∈ L, PlainName m) :
    (t.read (ofLocation L)).toOption = some c ↔ t.at? L = some (.file c) := by
  rw [← read_ofLocation hwf hL]
  cases t.read (ofLocation L) <;> simp [Except.toOption]

/-- the license copy of a name, read from the licenses folder of its first host -/
theorem licenseCopy_eq_some {n : String} {rel : List String} {c : String} (hsite : Site e opts t B)
    (hrel : ∀ m ∈ rel, PlainName m) (hne : rel ≠ []) :
    licenseCopy e opts.deps t n rel = some c ↔ n ≠ e.recipe.identity.name.val ∧
      ∃ d P, firstHost opts.deps n = some d ∧ d.packageFolder = ofLocation P ∧
        (∀ m ∈ P, PlainName m) ∧ t.at? (P ++ "licenses" :: rel) = some (.file c) := by
  unfold licenseCopy
  by_cases hown : n = e.recipe.identity.name.val
  · simp [hown]
  rw [if_neg hown]
  cases hd : firstHost opts.deps n with
  | none => simp
  | some d =>
    obtain ⟨-, -, -, P, hP, hPp, -⟩ := hsite.firstHost hd
    have hall : ∀ m ∈ P ++ "licenses" :: rel, PlainName m :=
      List.forall_mem_append.mpr ⟨hPp, List.forall_mem_cons.mpr ⟨by decide, hrel⟩⟩
    simp only [Option.bind_some, hP, licensesPath_ofLocation hPp hrel hne,
      toOption_read_eq_some hsite.wellFormed hall]
    constructor
    · intro h
      exact ⟨hown, d, P, rfl, hP, hPp, h⟩
    · rintro ⟨-, d', P', hd', hP', hPp', h⟩
      cases hd'
      rw [(ofLocation_inj hPp hPp').mp (hP.symm.trans hP')]
      exact h

theorem licenseCopy_firstHost {deps : List Dependency} {n : String} {rel : List String}
    (h : (licenseCopy e deps t n rel).isSome) : ∃ d, firstHost deps n = some d := by
  unfold licenseCopy at h
  split at h
  · cases h
  · cases hd : firstHost deps n with
    | none => simp [hd] at h
    | some d => exact ⟨d, rfl⟩

/-- two locations meant for files never lie one below the other, the report's place apart when a
license copy is meant below it -/
theorem Site.file_antichain (hsite : Site e opts t B) {r r' : List String}
    (hr : ∀ m ∈ r, PlainName m) (hr' : ∀ m ∈ r', PlainName m) (h : (file e opts t r).isSome)
    (h' : (file e opts t r').isSome) (hpre : r <+: r')
    (hclash : r = reportLocation → ¬ ReportClash e opts t) : r = r' := by
  rcases file_isSome h with hfix | ⟨n, rel, hrel, rfl, hcopy⟩ <;>
    rcases file_isSome h' with hfix' | ⟨n', rel', hrel', rfl, hcopy'⟩
  · exact hpre.eq_of_length ((fixedLocations_length hfix).trans (fixedLocations_length hfix').symm)
  · -- a fixed place above a license copy would be the licenses folder of a name, and the
    -- fixed places there are `LICENSE`, which no package is named, and the report's
    exfalso
    have hr2 : r = ["licenses", n'] := by
      rw [List.prefix_iff_eq_take.mp hpre, fixedLocations_length hfix]
      rfl
    obtain ⟨d, hd⟩ := licenseCopy_firstHost hcopy'
    obtain ⟨-, -, hlicense, -⟩ := hsite.firstHost hd
    have hreport : n' = License.reportFileName := by
      rw [hr2] at hfix
      simpa [fixedLocations, License.reportFileName, hlicense] using hfix
    subst hreport
    obtain ⟨c, hc⟩ := Option.isSome_iff_exists.mp hcopy'
    exact hclash hr2 ⟨rel', c, hrel', fun m hm => hr' m (by simp [hm]), hc⟩
  · -- a license copy lies deeper than every fixed place
    have := hpre.length_le
    simp [fixedLocations_length hfix'] at this
    exact absurd this hrel
  · obtain ⟨rfl, hrr⟩ := List.cons_prefix_cons.mp (List.cons_prefix_cons.mp hpre).2
    -- two files of one licenses folder, one above the other, are one
    have hrelp : ∀ m ∈ rel, PlainName m := fun m hm => hr m (by simp [hm])
    have hrelp' : ∀ m ∈ rel', PlainName m := fun m hm => hr' m (by simp [hm])
    obtain ⟨c, hc⟩ := Option.isSome_iff_exists.mp hcopy
    obtain ⟨c', hc'⟩ := Option.isSome_iff_exists.mp hcopy'
    obtain ⟨-, d, P, hd, hP, hPp, hfile⟩ := (licenseCopy_eq_some hsite hrelp hrel).mp hc
    obtain ⟨-, d', P', hd', hP', hPp', hfile'⟩ := (licenseCopy_eq_some hsite hrelp' hrel').mp hc'
    rw [hd] at hd'
    cases hd'
    rw [← (ofLocation_inj hPp hPp').mp (hP.symm.trans hP')] at hfile'
    by_contra hne
    have hall' : ∀ m ∈ P ++ "licenses" :: rel', PlainName m :=
      List.forall_mem_append.mpr ⟨hPp, List.forall_mem_cons.mpr ⟨by decide, hrelp'⟩⟩
    have hdir := hsite.wellFormed.dirAbove hall' (by simp [hfile']) (P ++ "licenses" :: rel)
      (by simpa using hrr) (by simpa using hne)
    rw [hfile] at hdir
    cases hdir

/-- the files generation means leave room for one another in the tree it starts from, the report
among them only when no license copy is meant below its place -/
theorem Site.room (hsite : Site e opts t B) (hb : b = true → ¬ ReportClash e opts t) :
    Room t (wanted e opts t B b) where
  antichain x y hx hy hpre := by
    obtain ⟨r, rfl, hrp, hrep, hr⟩ := wanted_isSome hx
    obtain ⟨r', rfl, hrp', -, hr'⟩ := wanted_isSome hy
    rw [hsite.file_antichain (fun m hm => hrp m (by simp [hm])) (fun m hm => hrp' m (by simp [hm]))
      hr hr' ((List.prefix_append_right_inj B).mp hpre)
      fun hrl => hb (hrep.resolve_right fun hne => hne hrl)]
  noFileAbove M hM P hP _ c := by
    obtain ⟨r, rfl, hrp, -⟩ := wanted_isSome hM
    rcases List.prefix_or_prefix_of_prefix hP (List.prefix_append B r) with hPB | ⟨r', rfl⟩
    · exact hsite.noFileOnBuild P hPB c
    · by_cases hr' : r' = []
      · subst hr'
        simpa using hsite.noFileOnBuild B (List.prefix_refl B) c
      · rw [hsite.emptyBuild r' hr' fun m hm => hrp m (hP.subset (by simp [hm]))]
        simp
  noDirAt M hM := by
    obtain ⟨r, rfl, hrp, -, hr⟩ := wanted_isSome hM
    have hne : r ≠ [] := by
      rintro rfl
      simp [file_nil] at hr
    rw [hsite.emptyBuild r hne fun m hm => hrp m (by simp [hm])]
    simp

end Generation

end BuildRecipe

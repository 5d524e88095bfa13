/-
Resolving a profile's settings. A profile is written by `-s` and `-o` steps: a step with an unknown
setting key, or a switch that does not read, is an `invalid setting` error, and a step that
succeeds writes its own slot and no other (`Profile.setSetting_slots`, `Profile.setOption_slots`).

Resolving then makes four checks in a fixed order (`Profile.checks`): the build type reads, the
standard reads, a named family comes with a version that reads, and with no family there is no
version and the detector finds a compiler. It succeeds exactly when all pass, and otherwise
reports the key of the first that fails (`Profile.resolveSettings_eq_error`). The system and
processor are the profile's, read, or the host's; a detected compiler keeps the profile's standard
and loses its own (`Profile.resolveSettings_eq_ok`).

The detector is an action (`Profile.resolveSettingsBy`): it runs once when the build type and the
standard read and neither a family nor a version is named, and never otherwise
(`Profile.resolveSettingsBy_run`); with the detector's answer given, this is `resolveSettings`.

Main statement: `Profile.resolveSettings_checks_in_order`.
-/
import BuildRecipe.Profile
import BuildRecipe.Proofs.SortedMap

namespace BuildRecipe

/-- a build type that does not read is an invalid `build_type` -/
theorem BuildType.parse_eq_error {bt : String} {e : RecipeError}
    (h : BuildType.parse bt = .error e) : ∃ msg, e = .invalidSetting "build_type" msg := by
  unfold BuildType.parse at h
  split at h <;> cases h
  exact ⟨_, rfl⟩

/-- a version that does not read is an invalid `compiler.version` -/
theorem Compiler.Version.parse_eq_error {v : String} {e : RecipeError}
    (h : Compiler.Version.parse v = .error e) : e = Compiler.Version.invalid v := by
  unfold Compiler.Version.parse at h
  cases hc : Compiler.Version.components? (Text.trim v) <;> simp only [hc] at h <;> cases h
  rfl

namespace Profile

/-! ## Resolving in stages -/

/-- the build type of a profile's settings: its text read, Release when absent -/
def buildTypeOf (s : SettingsSpec) : Except RecipeError BuildType :=
  match s.buildType with
  | some bt => BuildType.parse bt
  | none => pure .release

/-- the standard of a profile's settings: its text read, none when absent -/
def standardOf (s : SettingsSpec) : Except RecipeError (Option Compiler.Standard) :=
  match s.compiler.cppstd with
  | some c => match Compiler.Standard.parse c with
    | .ok std => pure (some std)
    | .error bad => throw (.invalidSetting "compiler.cppstd" (Compiler.Standard.parseErrorText bad))
  | none => pure none

/-- the compiler of a profile's settings with the standard `std`, the detector's answer given -/
def compilerOf (s : SettingsSpec) (std : Option Compiler.Standard)
    (detected : Option CompilerSettings) : Except RecipeError CompilerSettings :=
  match s.compiler.family, s.compiler.version with
  | some family, some version => do
    let v ← Compiler.Version.parse version
    pure { family := Compiler.Family.parse family, version := v, cppstd := std }
  | some _, none => throw (.invalidSetting "compiler.version"
      "a compiler family was given without a version")
  | none, some _ => throw (.invalidSetting "compiler"
      "a compiler version was given without a compiler family")
  | none, none => match detected with
    | some d => pure { d with cppstd := std }
    | none => throw (.invalidSetting "compiler" "no compiler configured and none found on PATH")

/-- the compiler of a profile's settings with the standard `std`: the named family at the named
version, else what the detector, run here and only here, finds, with `std` for its standard -/
def compilerBy {m : Type → Type} [Monad m] (s : SettingsSpec) (std : Option Compiler.Standard)
    (detect : m (Option CompilerSettings)) : ExceptT RecipeError m CompilerSettings :=
  match s.compiler.family, s.compiler.version with
  | some family, some version => match Compiler.Version.parse version with
    | .ok v => pure { family := Compiler.Family.parse family, version := v, cppstd := std }
    | .error e => throw e
  | some _, none => throw (.invalidSetting "compiler.version"
      "a compiler family was given without a version")
  | none, some _ => throw (.invalidSetting "compiler"
      "a compiler version was given without a compiler family")
  | none, none => do
    match ← ExceptT.lift detect with
    | some d => pure { d with cppstd := std }
    | none => throw (.invalidSetting "compiler" "no compiler configured and none found on PATH")

/-- resolving a profile's settings with the detector as an action of a monad, run only where
resolving reaches it -/
def resolveSettingsBy {m : Type → Type} [Monad m] (p : Profile)
    (detect : m (Option CompilerSettings)) : ExceptT RecipeError m Settings := do
  let s := p.settings
  let buildType ← ExceptT.mk (pure (buildTypeOf s))
  let cppstd ← ExceptT.mk (pure (standardOf s))
  let compiler ← compilerBy s cppstd detect
  pure { os := (s.os.map Os.parse).getD Os.host, arch := (s.arch.map Arch.parse).getD Arch.host,
         compiler, buildType }

/-- resolving reads the build type, then the standard, then the compiler -/
theorem resolveSettings_eq_bind (p : Profile) (d : Option CompilerSettings) :
    p.resolveSettings d = buildTypeOf p.settings >>= fun buildType =>
      standardOf p.settings >>= fun cppstd => compilerOf p.settings cppstd d >>= fun compiler =>
        pure { os := (p.settings.os.map Os.parse).getD Os.host,
               arch := (p.settings.arch.map Arch.parse).getD Arch.host, compiler, buildType } := by
  obtain ⟨⟨os, arch, bt, ⟨family, version, cppstd⟩⟩, options, skip⟩ := p
  -- the code binds inside each branch of its matches: split them all, then reassociate
  cases cppstd with
  | none =>
    cases bt <;> cases family <;> cases version <;> cases d <;>
      simp only [resolveSettings, buildTypeOf, standardOf, compilerOf, bind_assoc, pure_bind]
  | some c =>
    simp only [resolveSettings, buildTypeOf, standardOf, compilerOf]
    cases Compiler.Standard.parse c <;> cases bt <;> cases family <;> cases version <;> cases d <;>
      simp only [bind_assoc, pure_bind]

/-- the detector is consulted when the build type and the standard read and no compiler is
named -/
theorem consultsDetector_eq (p : Profile) : p.consultsDetector =
    ((buildTypeOf p.settings).toBool && (standardOf p.settings).toBool &&
      p.settings.compiler.family.isNone && p.settings.compiler.version.isNone) := by
  obtain ⟨⟨os, arch, bt, ⟨family, version, cppstd⟩⟩, options, skip⟩ := p
  cases cppstd with
  | none => cases bt <;> rfl
  | some c =>
    cases h : Compiler.Standard.parse c <;> cases bt <;>
      simp [consultsDetector, buildTypeOf, standardOf, h, Except.toBool, pure, Except.pure, throw,
        throwThe, MonadExceptOf.throw]

theorem except_ok_bind {ε α β : Type} (a : α) (f : α → Except ε β) :
    (Except.ok a >>= f) = f a := rfl

variable {m : Type → Type} [Monad m] [LawfulMonad m]

theorem run_compilerBy (s : SettingsSpec) (std : Option Compiler.Standard)
    (detect : m (Option CompilerSettings)) :
    (compilerBy s std detect).run =
      if s.compiler.family.isNone && s.compiler.version.isNone then
        (fun d => compilerOf s std d) <$> detect
      else pure (compilerOf s std none) := by
  unfold compilerBy compilerOf
  cases s.compiler.family <;> cases s.compiler.version
  · simp only [Option.isNone_none, Bool.and_self, ↓reduceIte, ExceptT.run_bind, ExceptT.run_lift,
      bind_assoc, pure_bind, map_eq_pure_bind]
    congr 1
    funext d
    cases d <;> rfl
  all_goals simp only [Option.isNone_some, Option.isNone_none, Bool.false_and, Bool.and_false,
    Bool.false_eq_true, ↓reduceIte]
  · rfl
  · rfl
  · rename_i version
    cases Compiler.Version.parse version <;> rfl

/-- a detector that only answers gives the compiler stage with that answer -/
theorem run_compilerBy_pure (s : SettingsSpec) (std : Option Compiler.Standard)
    (d : Option CompilerSettings) :
    (compilerBy s std (pure d : m _)).run = pure (compilerOf s std d) := by
  rw [run_compilerBy]
  unfold compilerOf
  cases s.compiler.family <;> cases s.compiler.version <;> simp

/-- the detector runs once when the build type and the standard read and no compiler is named,
and never otherwise; what it answers is resolved as a given answer is -/
theorem resolveSettingsBy_run (p : Profile) (detect : m (Option CompilerSettings)) :
    (p.resolveSettingsBy detect).run =
      if p.consultsDetector then (fun d => p.resolveSettings d) <$> detect
      else pure (p.resolveSettings none) := by
  simp only [resolveSettingsBy, ExceptT.run_bind, ExceptT.run_mk, pure_bind, consultsDetector_eq,
    resolveSettings_eq_bind]
  cases hb : buildTypeOf p.settings with
  | error e => simp only [Except.toBool, Bool.false_and, Bool.false_eq_true, ↓reduceIte]; rfl
  | ok bt =>
    cases hs : standardOf p.settings with
    | error e =>
      simp only [Except.toBool, Bool.true_and, Bool.false_and, Bool.false_eq_true, ↓reduceIte]
      rfl
    | ok std =>
      simp only [Except.toBool, Bool.true_and, run_compilerBy, except_ok_bind]
      split
      · simp only [map_eq_pure_bind, bind_assoc, pure_bind]
        congr 1
        funext d
        cases compilerOf p.settings std d <;> rfl
      · rw [pure_bind]
        cases compilerOf p.settings std none <;> rfl

/-- resolving with the detector's answer given is resolving with a detector that gives it -/
theorem resolveSettingsBy_pure (p : Profile) (d : Option CompilerSettings) :
    (p.resolveSettingsBy (pure d : Id _)).run = p.resolveSettings d := by
  simp only [resolveSettingsBy, ExceptT.run_bind, ExceptT.run_mk, pure_bind,
    resolveSettings_eq_bind, run_compilerBy_pure]
  cases buildTypeOf p.settings with
  | error e => rfl
  | ok bt =>
    cases standardOf p.settings with
    | error e => rfl
    | ok std =>
      simp only [except_ok_bind]
      cases compilerOf p.settings std d <;> rfl

/-! ## Steps that write a profile -/

/-- a setting step: an unknown key is refused, and a known key writes its own slot and no other -/
theorem setSetting_slots (p : Profile) (k v : String) :
    (k ∉ settingKeys → ∃ msg, p.setSetting k v = .error (.invalidSetting k msg)) ∧
    (k ∈ settingKeys → ∃ p', p.setSetting k v = .ok p' ∧ p'.setting? k = some v ∧
      (∀ k', k' ≠ k → p'.setting? k' = p.setting? k') ∧ p'.options = p.options ∧
      p'.skipTest = p.skipTest) := by
  constructor
  · intro hk
    unfold setSetting
    split <;> simp_all [settingKeys]
  · intro hk
    simp only [settingKeys, List.mem_cons, List.not_mem_nil, or_false] at hk
    -- one known key at a time; the frame reads every other key of the view
    rcases hk with rfl | rfl | rfl | rfl | rfl | rfl <;>
      refine ⟨_, rfl, rfl, fun k' hk' => ?_, rfl, rfl⟩ <;> unfold setting? <;> split <;> simp_all

/-- an option step: a switch that does not read is refused, and one that reads sets its option
and no other -/
theorem setOption_slots (p : Profile) (k v : String) :
    (parseBool v = none → ∃ msg, p.setOption k v = .error (.invalidSetting k msg)) ∧
    (∀ b, parseBool v = some b → ∃ p', p.setOption k v = .ok p' ∧ p'.options.get? k = some b ∧
      (∀ k', k' ≠ k → p'.options.get? k' = p.options.get? k') ∧ p'.settings = p.settings ∧
      p'.skipTest = p.skipTest) := by
  constructor
  · intro hv
    unfold setOption
    rw [hv]
    exact ⟨_, rfl⟩
  · intro b hv
    unfold setOption
    rw [hv]
    exact ⟨_, rfl, by simp, fun k' hk' => by simp [hk'], rfl, rfl⟩

/-! ## The checks, in order -/

/-- whether an optional text is absent or reads -/
def readsOrAbsent {ε α : Type} (read : String → Except ε α) : Option String → Bool
  | some t => (read t).toBool
  | none => true

/-- the checks resolving makes, in order, each with the key it reports when it fails: the build
type reads, the standard reads, a named family has a version that reads, and with no family
there is no version and the detector finds a compiler -/
def checks (p : Profile) (d : Option CompilerSettings) : List (String × Bool) :=
  let c := p.settings.compiler
  [("build_type", readsOrAbsent BuildType.parse p.settings.buildType),
   ("compiler.cppstd", readsOrAbsent Compiler.Standard.parse c.cppstd),
   ("compiler.version",
     c.family.isNone || c.version.any fun v => (Compiler.Version.parse v).toBool),
   ("compiler", c.family.isSome || (c.version.isNone && d.isSome))]

theorem buildTypeOf_toBool (s : SettingsSpec) :
    (buildTypeOf s).toBool = readsOrAbsent BuildType.parse s.buildType := by
  unfold buildTypeOf readsOrAbsent
  cases s.buildType <;> rfl

theorem standardOf_toBool (s : SettingsSpec) :
    (standardOf s).toBool = readsOrAbsent Compiler.Standard.parse s.compiler.cppstd := by
  unfold standardOf readsOrAbsent
  cases s.compiler.cppstd with
  | none => rfl
  | some c =>
    cases h : Compiler.Standard.parse c
    all_goals simp only [h]; rfl

/-- a build type that does not read is reported under its key -/
theorem buildTypeOf_eq_error {s : SettingsSpec} {e : RecipeError} (h : buildTypeOf s = .error e) :
    ∃ msg, e = .invalidSetting "build_type" msg := by
  unfold buildTypeOf at h
  cases hbt : s.buildType with
  | none => rw [hbt] at h; cases h
  | some bt =>
    rw [hbt] at h
    exact BuildType.parse_eq_error h

/-- a standard that does not read is reported under its key -/
theorem standardOf_eq_error {s : SettingsSpec} {e : RecipeError} (h : standardOf s = .error e) :
    ∃ msg, e = .invalidSetting "compiler.cppstd" msg := by
  unfold standardOf at h
  cases hc : s.compiler.cppstd with
  | none => rw [hc] at h; cases h
  | some c =>
    rw [hc] at h
    cases hp : Compiler.Standard.parse c <;> simp only [hp] at h <;> cases h
    exact ⟨_, rfl⟩

/-- the compiler stage fails at the version check, else at the compiler check, under their
keys -/
theorem compilerOf_eq_error {s : SettingsSpec} {std : Option Compiler.Standard}
    {d : Option CompilerSettings} {e : RecipeError} (h : compilerOf s std d = .error e) :
    ∃ msg, ((s.compiler.family.isNone ||
        s.compiler.version.any fun v => (Compiler.Version.parse v).toBool) = false ∧
        e = .invalidSetting "compiler.version" msg) ∨
      (s.compiler.family.isNone = true ∧ (s.compiler.version.isNone && d.isSome) = false ∧
        e = .invalidSetting "compiler" msg) := by
  unfold compilerOf at h
  cases hf : s.compiler.family <;> cases hv : s.compiler.version <;> simp only [hf, hv] at h
  · cases d <;> cases h
    exact ⟨_, .inr ⟨rfl, rfl, rfl⟩⟩
  · cases h
    exact ⟨_, .inr ⟨rfl, rfl, rfl⟩⟩
  · cases h
    exact ⟨_, .inl ⟨rfl, rfl⟩⟩
  · rename_i version
    cases hp : Compiler.Version.parse version <;> simp only [hp] at h <;> cases h
    obtain rfl := Compiler.Version.parse_eq_error hp
    exact ⟨_, .inl ⟨by simp [hp, Except.toBool], rfl⟩⟩

/-- the compiler stage succeeds exactly when the version check and the compiler check pass -/
theorem compilerOf_toBool (s : SettingsSpec) (std : Option Compiler.Standard)
    (d : Option CompilerSettings) : (compilerOf s std d).toBool =
      ((s.compiler.family.isNone ||
        s.compiler.version.any fun v => (Compiler.Version.parse v).toBool) &&
      (s.compiler.family.isSome || (s.compiler.version.isNone && d.isSome))) := by
  unfold compilerOf
  cases s.compiler.family <;> cases s.compiler.version
  · cases d <;> rfl
  · rfl
  · rfl
  · rename_i version
    cases hp : Compiler.Version.parse version <;> simp [hp, Except.toBool]

/-- what a compiler stage that succeeds gives: the profile's standard, with the named family at
the named version, else the detected compiler -/
theorem compilerOf_eq_ok {s : SettingsSpec} {std : Option Compiler.Standard}
    {d : Option CompilerSettings} {c : CompilerSettings} (h : compilerOf s std d = .ok c) :
    c.cppstd = std ∧
      (∀ f, s.compiler.family = some f → c.family = Compiler.Family.parse f ∧
        ∃ v, s.compiler.version = some v ∧ Compiler.Version.parse v = .ok c.version) ∧
      (s.compiler.family = none → ∃ dc, d = some dc ∧ c = { dc with cppstd := std }) := by
  unfold compilerOf at h
  cases hf : s.compiler.family <;> cases hv : s.compiler.version <;> simp only [hf, hv] at h
  · cases d <;> cases h
    exact ⟨rfl, by simp, fun _ => ⟨_, rfl, rfl⟩⟩
  · cases h
  · cases h
  · rename_i f version
    cases hp : Compiler.Version.parse version <;> simp only [hp] at h <;> cases h
    exact ⟨rfl, fun f' hf' => ⟨by cases hf'; rfl, version, rfl, hp⟩, by simp⟩

/-! ## Resolving -/

theorem toBool_bind_pure {ε α β : Type} (x : Except ε α) (g : α → β) :
    (x >>= fun a => pure (g a)).toBool = x.toBool := by
  cases x <;> rfl

/-- resolving succeeds exactly when every check passes -/
theorem resolveSettings_toBool (p : Profile) (d : Option CompilerSettings) :
    (p.resolveSettings d).toBool = (p.checks d).all (·.2) := by
  rw [resolveSettings_eq_bind]
  simp only [checks, List.all_cons, List.all_nil, Bool.and_true, ← buildTypeOf_toBool,
    ← standardOf_toBool]
  cases buildTypeOf p.settings with
  | error e => rfl
  | ok bt =>
    cases standardOf p.settings with
    | error e => rfl
    | ok std =>
      rw [except_ok_bind, except_ok_bind, toBool_bind_pure, compilerOf_toBool]
      rfl

/-- resolving that fails reports, as an invalid setting, the key of the first check that
fails -/
theorem resolveSettings_eq_error {p : Profile} {d : Option CompilerSettings} {e : RecipeError}
    (h : p.resolveSettings d = .error e) : ∃ key msg,
      (p.checks d).find? (fun c => !c.2) = some (key, false) ∧ e = .invalidSetting key msg := by
  rw [resolveSettings_eq_bind] at h
  cases hb : buildTypeOf p.settings with
  | error e' =>
    rw [hb] at h
    cases h
    have hb₁ : readsOrAbsent BuildType.parse p.settings.buildType = false := by
      rw [← buildTypeOf_toBool, hb]; rfl
    obtain ⟨msg, rfl⟩ := buildTypeOf_eq_error hb
    exact ⟨_, msg, by simp only [checks, List.find?_cons, hb₁, Bool.not_false], rfl⟩
  | ok bt =>
    have hb₁ : readsOrAbsent BuildType.parse p.settings.buildType = true := by
      rw [← buildTypeOf_toBool, hb]; rfl
    cases hs : standardOf p.settings with
    | error e' =>
      rw [hb, hs] at h
      cases h
      have hs₁ : readsOrAbsent Compiler.Standard.parse p.settings.compiler.cppstd = false := by
        rw [← standardOf_toBool, hs]; rfl
      obtain ⟨msg, rfl⟩ := standardOf_eq_error hs
      exact ⟨_, msg, by simp only [checks, List.find?_cons, hb₁, hs₁, Bool.not_true,
        Bool.not_false], rfl⟩
    | ok std =>
      have hs₁ : readsOrAbsent Compiler.Standard.parse p.settings.compiler.cppstd = true := by
        rw [← standardOf_toBool, hs]; rfl
      rw [hb, hs, except_ok_bind, except_ok_bind] at h
      cases hc : compilerOf p.settings std d with
      | ok c => rw [hc] at h; cases h
      | error e' =>
        rw [hc] at h
        cases h
        -- the compiler stage fails at the version check or, past it, at the compiler check
        obtain ⟨msg, ⟨hv, rfl⟩ | ⟨hf, hcc, rfl⟩⟩ := compilerOf_eq_error hc
        · exact ⟨_, msg, by simp only [checks, List.find?_cons, hb₁, hs₁, hv, Bool.not_true,
            Bool.not_false], rfl⟩
        · have hsome : p.settings.compiler.family.isSome = false := by
            rw [Option.isNone_iff_eq_none.mp hf]; rfl
          exact ⟨_, msg, by simp only [checks, List.find?_cons, hb₁, hs₁, hf, hsome, hcc,
            Bool.true_or, Bool.false_or, Bool.not_true, Bool.not_false], rfl⟩

/-- what resolving that succeeds gives: the profile's system and processor, read, or the host's,
the build type and the standard as the profile gives them, and the compiler stage's compiler -/
theorem resolveSettings_eq_ok {p : Profile} {d : Option CompilerSettings} {r : Settings}
    (h : p.resolveSettings d = .ok r) :
    r.os = (p.settings.os.map Os.parse).getD Os.host ∧
      r.arch = (p.settings.arch.map Arch.parse).getD Arch.host ∧
      buildTypeOf p.settings = .ok r.buildType ∧ standardOf p.settings = .ok r.compiler.cppstd ∧
      compilerOf p.settings r.compiler.cppstd d = .ok r.compiler := by
  rw [resolveSettings_eq_bind] at h
  cases hb : buildTypeOf p.settings with
  | error e => rw [hb] at h; cases h
  | ok bt =>
    cases hs : standardOf p.settings with
    | error e => rw [hb, hs] at h; cases h
    | ok std =>
      rw [hb, hs, except_ok_bind, except_ok_bind] at h
      cases hc : compilerOf p.settings std d with
      | error e => rw [hc] at h; cases h
      | ok c =>
        rw [hc] at h
        cases h
        obtain ⟨hstd, -, -⟩ := compilerOf_eq_ok hc
        exact ⟨rfl, rfl, rfl, by rw [hstd], by rw [hstd]; exact hc⟩

/-- the checks all pass exactly when the build type and the standard are absent or read, and
either a family and a version that reads are named, or neither is and a compiler is detected -/
theorem all_checks_iff (p : Profile) (d : Option CompilerSettings) :
    (p.checks d).all (·.2) = true ↔
      readsOrAbsent BuildType.parse p.settings.buildType = true ∧
      readsOrAbsent Compiler.Standard.parse p.settings.compiler.cppstd = true ∧
      ((∃ f v, p.settings.compiler.family = some f ∧ p.settings.compiler.version = some v ∧
          (Compiler.Version.parse v).toBool = true) ∨
        (p.settings.compiler.family = none ∧ p.settings.compiler.version = none ∧
          d.isSome = true)) := by
  simp only [checks, List.all_cons, List.all_nil, Bool.and_true, Bool.and_eq_true]
  cases p.settings.compiler.family <;> cases p.settings.compiler.version <;> simp

/-- **Resolving a profile: its checks in order, the detector once or never.** For every profile,
detector (an action of any lawful monad) and detected compiler:
- a setting step with an unknown key, and an option step whose switch does not read, are invalid
  settings; a step that succeeds writes its own slot and no other;
- resolving succeeds exactly when the build type and the standard are absent or read, and either
  a family and a version that reads are named, or neither is and a compiler is detected;
- otherwise it is an invalid setting under the key of the first check that fails, in the order
  build type, standard, version, compiler;
- the detector runs once exactly when the build type and the standard read and neither a family
  nor a version is named, and never otherwise; resolving with the detector's answer given is
  resolving with a detector that gives it;
- a success has the profile's system and processor, read, or the host's, its build type read or
  Release, its standard read (a detected compiler's own is dropped), and the named family at the
  named version, else the detected compiler. -/
theorem resolveSettings_checks_in_order {m : Type → Type} [Monad m] [LawfulMonad m] (p : Profile)
    (detect : m (Option CompilerSettings)) (d : Option CompilerSettings) :
    (∀ k v, (k ∉ settingKeys → ∃ msg, p.setSetting k v = .error (.invalidSetting k msg)) ∧
      (k ∈ settingKeys → ∃ p', p.setSetting k v = .ok p' ∧ p'.setting? k = some v ∧
        (∀ k', k' ≠ k → p'.setting? k' = p.setting? k') ∧ p'.options = p.options ∧
        p'.skipTest = p.skipTest)) ∧
    (∀ k v, (parseBool v = none → ∃ msg, p.setOption k v = .error (.invalidSetting k msg)) ∧
      (∀ b, parseBool v = some b → ∃ p', p.setOption k v = .ok p' ∧ p'.options.get? k = some b ∧
        (∀ k', k' ≠ k → p'.options.get? k' = p.options.get? k') ∧ p'.settings = p.settings ∧
        p'.skipTest = p.skipTest)) ∧
    ((∃ r, p.resolveSettings d = .ok r) ↔
      readsOrAbsent BuildType.parse p.settings.buildType = true ∧
      readsOrAbsent Compiler.Standard.parse p.settings.compiler.cppstd = true ∧
      ((∃ f v, p.settings.compiler.family = some f ∧ p.settings.compiler.version = some v ∧
          (Compiler.Version.parse v).toBool = true) ∨
        (p.settings.compiler.family = none ∧ p.settings.compiler.version = none ∧
          d.isSome = true))) ∧
    (∀ e, p.resolveSettings d = .error e → ∃ key msg,
      (p.checks d).find? (fun c => !c.2) = some (key, false) ∧ e = .invalidSetting key msg) ∧
    ((p.resolveSettingsBy detect).run =
        (if p.consultsDetector then (fun d => p.resolveSettings d) <$> detect
          else pure (p.resolveSettings none)) ∧
      (p.consultsDetector = true ↔
        readsOrAbsent BuildType.parse p.settings.buildType = true ∧
        readsOrAbsent Compiler.Standard.parse p.settings.compiler.cppstd = true ∧
        p.settings.compiler.family = none ∧ p.settings.compiler.version = none) ∧
      (p.resolveSettingsBy (pure d : Id _)).run = p.resolveSettings d) ∧
    (∀ r, p.resolveSettings d = .ok r →
      r.os = (p.settings.os.map Os.parse).getD Os.host ∧
      r.arch = (p.settings.arch.map Arch.parse).getD Arch.host ∧
      buildTypeOf p.settings = .ok r.buildType ∧ standardOf p.settings = .ok r.compiler.cppstd ∧
      (∀ f, p.settings.compiler.family = some f → r.compiler.family = Compiler.Family.parse f ∧
        ∃ v, p.settings.compiler.version = some v ∧ Compiler.Version.parse v = .ok r.compiler.version) ∧
      (p.settings.compiler.family = none →
        ∃ c, d = some c ∧ r.compiler = { c with cppstd := r.compiler.cppstd })) := by
  refine ⟨setSetting_slots p, setOption_slots p, ?_, fun e => resolveSettings_eq_error,
    ⟨resolveSettingsBy_run p detect, ?_, resolveSettingsBy_pure p d⟩, fun r h => ?_⟩
  · rw [← all_checks_iff, ← resolveSettings_toBool]
    cases p.resolveSettings d <;> simp [Except.toBool]
  · rw [consultsDetector_eq, buildTypeOf_toBool, standardOf_toBool]
    simp only [Bool.and_eq_true, Option.isNone_iff_eq_none, and_assoc]
  · obtain ⟨hos, harch, hbt, hstd, hc⟩ := resolveSettings_eq_ok h
    obtain ⟨-, hnamed, hdetected⟩ := compilerOf_eq_ok hc
    exact ⟨hos, harch, hbt, hstd, hnamed, hdetected⟩

/-- a detector that counts its runs runs once for the empty profile, and never for a profile
that names a family without a version -/
theorem detector_runs_only_without_compiler :
    (((({} : Profile).resolveSettingsBy
        (modify (· + 1) *> pure none : StateM Nat (Option CompilerSettings))).run).run 0).2 = 1 ∧
    (((({ settings := { compiler := { family := some "gcc" } } } : Profile).resolveSettingsBy
        (modify (· + 1) *> pure none : StateM Nat (Option CompilerSettings))).run).run 0).2 = 0 := by
  constructor
  · rw [(resolveSettings_checks_in_order ({} : Profile)
      (modify (· + 1) *> pure none : StateM Nat (Option CompilerSettings)) none).2.2.2.2.1.1]
    rfl
  · rw [(resolveSettings_checks_in_order
      ({ settings := { compiler := { family := some "gcc" } } } : Profile)
      (modify (· + 1) *> pure none : StateM Nat (Option CompilerSettings)) none).2.2.2.2.1.1]
    rfl

end Profile

end BuildRecipe

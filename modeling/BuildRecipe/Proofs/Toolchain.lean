/-
Toolchains as configuration builds them, and as further steps change them.

The toolchain of a package (`Toolchain.new`) has exactly four kinds of variables
(`Toolchain.get?_new_eq_some_iff`): `<P>_WITH_TOOLS` and `<P>_WITH_DOC` from the options, where
the prefix `P` is the package name's ASCII letters and digits upper-cased, the position independent
code switch when that option is in effect, and the bare C++ standard number when one is set. It
activates the build helper, then the compliance checker when tests are built.

Further steps (`Toolchain.Step`: a variable set, or a package activated) keep the last value set
for each variable (`Toolchain.get?_applySteps`) and activate each name once, in the order of first
activation (`Toolchain.activated_applySteps`). The variables are kept in ascending key order, so
the toolchain file lists exactly the bindings, one line each, in that order
(`Toolchain.renderToolchain_eq_lines`); the dependency file puts the host packages on the prefix
path and then, for each activated name that names a dependency, the first such dependency's
folder on the module path with its modules included (`Toolchain.renderDeps_eq`).

Main statement: `Toolchain.toolchain_variables_and_activations`.
-/
import Mathlib
import BuildRecipe.Toolchain
import BuildRecipe.Proofs.SortedMap

namespace BuildRecipe

namespace Package.Name

theorem toList_variablePrefix (n : Name) :
    n.variablePrefix.toList = (n.val.toList.filter Char.isAlphanum).map Char.toUpper := by
  simp [variablePrefix]

theorem not_isLower_of_isDigit {c : Char} (h : c.isDigit = true) : ¬ c.isLower = true := by
  simp only [Char.isDigit, Char.isLower, Bool.and_eq_true, decide_eq_true_eq, ge_iff_le,
    UInt32.le_iff_toNat_le] at h ⊢
  have h9 : '9'.val.toNat = 57 := rfl
  have ha : 'a'.val.toNat = 97 := rfl
  omega

/-- the prefix holds only upper-case ASCII letters and digits -/
theorem isUpper_or_isDigit_of_mem_variablePrefix (n : Name) {c : Char}
    (hc : c ∈ n.variablePrefix.toList) : c.isUpper ∨ c.isDigit := by
  rw [toList_variablePrefix] at hc
  obtain ⟨c', hc', rfl⟩ := List.mem_map.mp hc
  have halnum : c'.isAlphanum = true := (List.mem_filter.mp hc').2
  cases halpha : c'.isAlpha
  · -- a digit, which upper-casing leaves alone
    have hdigit : c'.isDigit = true := by simpa [Char.isAlphanum, halpha] using halnum
    right
    rw [Char.toUpper_eq_of_not_isLower (not_isLower_of_isDigit hdigit)]
    exact hdigit
  · left
    rw [Char.isUpper_toUpper_eq_isAlpha]
    exact halpha

example : Name.variablePrefix ⟨"dds-fmu", by decide⟩ = "DDSFMU" := by decide

end Package.Name

/-- appending an element keeps the first occurrences, and the element only when it is new -/
theorem eraseDups_concat {α : Type} [BEq α] [LawfulBEq α] (l : List α) (a : α) :
    (l ++ [a]).eraseDups = l.eraseDups ++ if a ∈ l then [] else [a] := by
  rw [List.eraseDups_append]
  by_cases ha : a ∈ l <;> simp [List.removeAll, List.eraseDups_cons, ha]

theorem eraseDups_eq_self {α : Type} [BEq α] [LawfulBEq α] {l : List α} (h : l.Nodup) :
    l.eraseDups = l := by
  induction l with
  | nil => rfl
  | cons a rest ih =>
    obtain ⟨ha, hrest⟩ := List.nodup_cons.mp h
    have hfilter : rest.filter (fun b => !b == a) = rest := List.filter_eq_self.mpr fun b hb => by
      have hne : b ≠ a := fun hba => ha (hba ▸ hb)
      simpa using hne
    rw [List.eraseDups_cons, hfilter, ih hrest]

namespace Toolchain

variable {t : Toolchain} {k k' name : String} {v : CacheValue}

/-! ## One step -/

@[simp] theorem get?_empty : ({} : Toolchain).get? k = none := rfl

@[simp] theorem get?_set : (t.set k v).get? k' = if k' = k then some v else t.get? k' := by
  simp [get?, set]

@[simp] theorem activated_set : (t.set k v).activated = t.activated := rfl

@[simp] theorem cache_activate : (t.activate name).cache = t.cache := by
  unfold activate
  split <;> rfl

@[simp] theorem get?_activate : (t.activate name).get? k = t.get? k := by
  simp [get?]

theorem activated_activate :
    (t.activate name).activated = t.activated ++ if name ∈ t.activated then [] else [name] := by
  unfold activate
  by_cases h : name ∈ t.activated <;> simp [h]

/-- a change to a toolchain: a variable set, or a package activated -/
inductive Step where
  | set (key : String) (v : CacheValue)
  | activate (name : String)
deriving DecidableEq, Repr

namespace Step

/-- the toolchain after a step -/
def apply (t : Toolchain) : Step → Toolchain
  | .set k v => t.set k v
  | .activate n => t.activate n

/-- the value a step sets a variable to -/
def setsTo? (k : String) : Step → Option CacheValue
  | .set k' v => if k' = k then some v else none
  | .activate _ => none

/-- the package a step activates -/
def activation? : Step → Option String
  | .set _ _ => none
  | .activate n => some n

end Step

/-- the toolchain after steps taken in order -/
def applySteps (t : Toolchain) (ss : List Step) : Toolchain := ss.foldl Step.apply t

theorem get?_apply (s : Step) : (Step.apply t s).get? k = (s.setsTo? k).or (t.get? k) := by
  cases s with
  | set k' v =>
    by_cases h : k = k'
    · subst h
      simp [Step.apply, Step.setsTo?]
    · simp [Step.apply, Step.setsTo?, h, Ne.symm h]
  | activate n => simp [Step.apply, Step.setsTo?]

theorem activated_apply_of_eq {l : List String} (h : t.activated = l.eraseDups) (s : Step) :
    (Step.apply t s).activated = (l ++ s.activation?.toList).eraseDups := by
  cases s with
  | set k v => simpa [Step.apply, Step.activation?] using h
  | activate n =>
    simp [Step.apply, activated_activate, h, Step.activation?, eraseDups_concat]

theorem nodup_apply (h : t.activated.Nodup) (s : Step) : (Step.apply t s).activated.Nodup := by
  cases s with
  | set k v => exact h
  | activate n =>
    rw [Step.apply, activated_activate]
    by_cases hn : n ∈ t.activated
    · simpa [hn] using h
    · have hfresh : ∀ a ∈ t.activated, a ≠ n := fun a ha han => hn (han ▸ ha)
      simpa [hn, List.nodup_append] using ⟨h, hfresh⟩

/-! ## A run of steps -/

/-- the last value set wins, and a variable no step sets keeps its value -/
theorem get?_applySteps (t : Toolchain) (ss : List Step) (k : String) :
    (t.applySteps ss).get? k = ((ss.filterMap (·.setsTo? k)).getLast?).or (t.get? k) := by
  induction ss generalizing t with
  | nil => simp [applySteps]
  | cons s rest ih =>
    rw [applySteps, List.foldl_cons, ← applySteps, ih, get?_apply, ← Option.or_assoc]
    congr 1
    cases hs : s.setsTo? k with
    | none => rw [List.filterMap_cons_none hs, Option.or_none]
    | some u =>
      rw [List.filterMap_cons_some hs, List.getLast?_cons]
      cases (rest.filterMap (·.setsTo? k)).getLast? <;> rfl

theorem activated_applySteps_of_eq {l : List String} (h : t.activated = l.eraseDups)
    (ss : List Step) :
    (t.applySteps ss).activated = (l ++ ss.filterMap Step.activation?).eraseDups := by
  induction ss generalizing t l with
  | nil => simpa [applySteps] using h
  | cons s rest ih =>
    rw [applySteps, List.foldl_cons, ← applySteps, ih (activated_apply_of_eq h s)]
    cases s <;> simp [Step.activation?, List.filterMap_cons]

/-- names are activated once each, in the order of their first activation -/
theorem activated_applySteps (h : t.activated.Nodup) (ss : List Step) :
    (t.applySteps ss).activated = (t.activated ++ ss.filterMap Step.activation?).eraseDups :=
  activated_applySteps_of_eq (eraseDups_eq_self h).symm ss

theorem nodup_applySteps (h : t.activated.Nodup) (ss : List Step) :
    (t.applySteps ss).activated.Nodup := by
  induction ss generalizing t with
  | nil => exact h
  | cons s rest ih => exact ih (nodup_apply h s)

/-! ## The toolchain of a package -/

section New

variable (n : Package.Name) (o : ResolvedOptions) (s : Settings) (tests : Bool)

/-- the four variable names differ, whatever the prefix -/
theorem variableNames_ne (P : String) :
    P ++ "_WITH_TOOLS" ≠ P ++ "_WITH_DOC" ∧
    P ++ "_WITH_TOOLS" ≠ "CMAKE_POSITION_INDEPENDENT_CODE" ∧
    P ++ "_WITH_TOOLS" ≠ "CMAKE_CXX_STANDARD" ∧
    P ++ "_WITH_DOC" ≠ "CMAKE_POSITION_INDEPENDENT_CODE" ∧
    P ++ "_WITH_DOC" ≠ "CMAKE_CXX_STANDARD" := by
  -- the suffixes end in different letters from the two fixed names
  have hlast : ∀ {s r : String}, s.toList ≠ [] → s.toList.getLast? ≠ r.toList.getLast? →
      P ++ s ≠ r := fun hs h heq => h (by
        rw [← heq, String.toList_append, List.getLast?_append_of_ne_nil _ hs])
  exact ⟨by simp, hlast (by decide) (by decide), hlast (by decide) (by decide),
    hlast (by decide) (by decide), hlast (by decide) (by decide)⟩

/-- the toolchain of a package has exactly these variables -/
theorem get?_new_eq_some_iff (k : String) (v : CacheValue) :
    (new n o s tests).get? k = some v ↔
      (k = n.variablePrefix ++ "_WITH_TOOLS" ∧ v = .bool o.withTools) ∨
      (k = n.variablePrefix ++ "_WITH_DOC" ∧ v = .bool o.withDoc) ∨
      (k = "CMAKE_POSITION_INDEPENDENT_CODE" ∧ ∃ b, o.fpic = some b ∧ v = .bool b) ∨
      (k = "CMAKE_CXX_STANDARD" ∧ ∃ std, s.compiler.cppstd = some std ∧ v = .text std.number) := by
  obtain ⟨h₁, h₂, h₃, h₄, h₅⟩ := variableNames_ne n.variablePrefix
  have h₆ : "CMAKE_POSITION_INDEPENDENT_CODE" ≠ "CMAKE_CXX_STANDARD" := by decide
  -- activating leaves the variables alone
  have hact : ∀ t : Toolchain, (if tests then (t.activate Requirement.buildHelper.name.val).activate
      Requirement.complianceChecker.name.val else t.activate Requirement.buildHelper.name.val).get? k
      = t.get? k := fun t => by split <;> simp
  unfold new
  rw [hact]
  -- which optional variables are set, then which variable is asked for
  cases o.fpic <;> cases s.compiler.cppstd <;> simp only [get?_set, get?_empty] <;>
    split_ifs <;> subst_vars <;> simp_all [eq_comm]

theorem activated_new :
    (new n o s tests).activated =
      "fmu-build-helper" :: if tests then ["fmu-compliance-checker"] else [] := by
  unfold new
  cases o.fpic <;> cases s.compiler.cppstd <;> cases tests <;>
    simp [activated_activate, Requirement.buildHelper, Requirement.complianceChecker,
      Requirement.pin]

theorem nodup_activated_new : (new n o s tests).activated.Nodup := by
  rw [activated_new]
  cases tests <;> decide

end New

/-! ## The generated files -/

/-- the line of the toolchain file that sets a variable -/
def setLine (k : String) (v : CacheValue) : String :=
  "set(" ++ k ++ " " ++ v.display ++ " CACHE " ++ v.cacheType ++ " \"\" FORCE)\n"

/-- the last line of the toolchain file, which includes the dependency file -/
def includeDepsLine : String :=
  "include(\"$" ++ "\x7bCMAKE_CURRENT_LIST_DIR\x7d/" ++ depsFileName ++ "\" OPTIONAL)\n"

/-- the line of the dependency file that puts a host package on the prefix path -/
def prefixPathLine (d : Dependency) : String :=
  "list(APPEND CMAKE_PREFIX_PATH \"" ++ d.packageFolder.cmakeText ++ "\")\n"

/-- the lines of the dependency file that load an activated package's modules -/
def moduleLines (d : Dependency) : String :=
  "list(APPEND CMAKE_MODULE_PATH \"" ++ d.packageFolder.cmakeText ++ "\")\n" ++
  String.join (d.buildModulePaths.map fun m => "include(\"" ++ m.cmakeText ++ "\")\n")

/-- the toolchain file sets exactly the variables, in ascending key order -/
theorem renderToolchain_eq_lines (t : Toolchain) :
    ∃ vars : List (String × CacheValue), vars.Pairwise (fun a b => a.1 < b.1) ∧
      (∀ k v, (k, v) ∈ vars ↔ t.get? k = some v) ∧
      t.renderToolchain =
        generatedHeader ++ String.join (vars.map fun e => setLine e.1 e.2) ++ includeDepsLine := by
  refine ⟨t.cache.entries, List.pairwise_map.mp t.cache.ascending, SortedMap.mem_entries_iff t.cache, ?_⟩
  unfold renderToolchain includeDepsLine
  simp only [String.append_assoc]
  congr 4
  funext e
  obtain ⟨k, v⟩ := e
  simp only [setLine, String.append_assoc]

/-- the dependency file: the host packages in order, then the first dependency of each activated
name that has one, whatever its role -/
theorem renderDeps_eq (deps : List Dependency) :
    t.renderDeps deps = generatedHeader ++ String.join ((deps.filter (·.isHost)).map prefixPathLine) ++
      String.join ((t.activated.filterMap fun n => deps.find? (·.name.val == n)).map moduleLines) := by
  unfold renderDeps
  congr 1
  -- one activated name at a time: a name that no dependency has adds nothing
  induction t.activated with
  | nil => rfl
  | cons n rest ih =>
    cases hd : deps.find? (·.name.val == n) with
    | none => simp only [List.map_cons, List.filterMap_cons, String.join_cons, hd, ih,
        String.empty_append]
    | some d =>
      simp only [List.map_cons, List.filterMap_cons, String.join_cons, hd, ih]
      rfl

/-- **The toolchain of a package, and the steps after it.** For every package name, options,
settings, test switch, steps and dependencies:
- the variable prefix is the name's ASCII letters and digits upper-cased;
- the toolchain has exactly `<P>_WITH_TOOLS` and `<P>_WITH_DOC` from the options, the position
  independent code switch when the option is in effect, and the bare C++ standard number when one
  is set;
- it activates the build helper, then the compliance checker when tests are built;
- after the steps, each variable holds the last value set, else its value before them;
- the activated names are those before the steps and those the steps activate, each once, in the
  order of first activation;
- the toolchain file sets exactly the variables, one line each in ascending key order, between the
  header and the include of the dependency file;
- the dependency file lists the host packages on the prefix path, in order, then loads the first
  dependency of each activated name that has one. -/
theorem toolchain_variables_and_activations (n : Package.Name) (o : ResolvedOptions)
    (s : Settings) (tests : Bool) (ss : List Step) (deps : List Dependency) :
    n.variablePrefix.toList = (n.val.toList.filter Char.isAlphanum).map Char.toUpper ∧
    (∀ c ∈ n.variablePrefix.toList, c.isUpper ∨ c.isDigit) ∧
    (∀ k v, (new n o s tests).get? k = some v ↔
      (k = n.variablePrefix ++ "_WITH_TOOLS" ∧ v = .bool o.withTools) ∨
      (k = n.variablePrefix ++ "_WITH_DOC" ∧ v = .bool o.withDoc) ∨
      (k = "CMAKE_POSITION_INDEPENDENT_CODE" ∧ ∃ b, o.fpic = some b ∧ v = .bool b) ∨
      (k = "CMAKE_CXX_STANDARD" ∧ ∃ std, s.compiler.cppstd = some std ∧ v = .text std.number)) ∧
    (new n o s tests).activated =
      "fmu-build-helper" :: (if tests then ["fmu-compliance-checker"] else []) ∧
    (∀ k, ((new n o s tests).applySteps ss).get? k =
      ((ss.filterMap (·.setsTo? k)).getLast?).or ((new n o s tests).get? k)) ∧
    ((new n o s tests).applySteps ss).activated =
      ((new n o s tests).activated ++ ss.filterMap Step.activation?).eraseDups ∧
    ((new n o s tests).applySteps ss).activated.Nodup ∧
    (∃ vars : List (String × CacheValue), vars.Pairwise (fun a b => a.1 < b.1) ∧
      (∀ k v, (k, v) ∈ vars ↔ ((new n o s tests).applySteps ss).get? k = some v) ∧
      ((new n o s tests).applySteps ss).renderToolchain =
        generatedHeader ++ String.join (vars.map fun e => setLine e.1 e.2) ++ includeDepsLine) ∧
    ((new n o s tests).applySteps ss).renderDeps deps =
      generatedHeader ++ String.join ((deps.filter (·.isHost)).map prefixPathLine) ++
      String.join ((((new n o s tests).applySteps ss).activated.filterMap
        fun m => deps.find? (·.name.val == m)).map moduleLines) :=
  ⟨n.toList_variablePrefix, fun _ => n.isUpper_or_isDigit_of_mem_variablePrefix,
    get?_new_eq_some_iff n o s tests, activated_new n o s tests, get?_applySteps _ ss,
    activated_applySteps (nodup_activated_new n o s tests) ss,
    nodup_applySteps (nodup_activated_new n o s tests) ss,
    renderToolchain_eq_lines _,
    renderDeps_eq deps⟩

end Toolchain

end BuildRecipe

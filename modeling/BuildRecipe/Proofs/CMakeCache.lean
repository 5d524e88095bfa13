/-
The generator a configured build folder records, and the test target built under it.

CMake's cache file holds one entry a line, `KEY:TYPE=VALUE`, the type being optional. A line
records the generator `g` (`RecordsGenerator`) when the text before its first `=` is
`CMAKE_GENERATOR`, alone or followed by `:` and a type, and `g` is the text after that `=`,
trimmed. Such a line starts with `CMAKE_GENERATOR` and then `=` or `:`
(`recordsGenerator_start`), so `CMAKE_GENERATOR_PLATFORM`, `CMAKE_GENERATOR_TOOLSET` and
`CMAKE_GENERATOR_INSTANCE` never record one
(`not_recordsGenerator_of_key`). The cache reader takes a line exactly when it records a
generator (`generatorOfLine_eq_some_iff`).

The generator of a build folder (`configuredGenerator`) is the one that the first such line of
its cache records (`configuredGenerator_eq_some_iff`); there is none when no line records one or
the cache cannot be read (`configuredGenerator_eq_none_iff`). The test command builds `RUN_TESTS`
under a Visual Studio generator and under Xcode, and `test` under any other generator or none
(`configuredTestCommand_eq`).

Main statement: `configured_generator_and_test_target`.
-/
import BuildRecipe.CMake
import BuildRecipe.Proofs.PackageReference

namespace BuildRecipe

namespace Text

/-- the first part of a split text is `word`, a text without the separator, exactly when the text
is `word` or starts with `word` and the separator -/
theorem head?_splitAll_eq_some_iff {s word : String} {sep : Char} (hword : sep ∉ word.toList) :
    (splitAll s sep).head? = some word ↔
      s = word ∨ ∃ rest : String, s.toList = word.toList ++ sep :: rest.toList := by
  by_cases hs : sep ∈ s.toList
  · -- the text is cut at its first separator; both sides name the part before it
    obtain ⟨⟨a, b⟩, hcut⟩ := Option.ne_none_iff_exists'.mp (mt splitOnce_eq_none_iff.mp (not_not.mpr hs))
    obtain ⟨hab, ha⟩ := splitOnce_eq_some hcut
    have hsplit : splitAll s sep = a :: splitAll b sep := by
      simp [splitAll, hab, List.splitOn_append_cons_self_of_not_mem ha]
    have hne : s ≠ word := fun h => hword (h ▸ hs)
    rw [hsplit, List.head?_cons, Option.some.injEq]
    constructor
    · rintro rfl
      exact .inr ⟨b, hab⟩
    · rintro (h | ⟨rest, hrest⟩)
      · exact absurd h hne
      · have hcut' := splitOnce_of_eq hrest hword
        rw [hcut] at hcut'
        exact (Prod.mk.inj (Option.some.inj hcut')).1
  · have hsplit : splitAll s sep = [s] := by
      simp [splitAll, List.splitOn_eq_singleton hs]
    rw [hsplit, List.head?_cons, Option.some.injEq]
    constructor
    · exact .inl
    · rintro (h | ⟨rest, hrest⟩)
      · exact h
      · exact absurd (hrest ▸ List.mem_append_right _ List.mem_cons_self) hs

end Text

/-! ## Lines of the cache -/

/-- a line of a CMake cache that records the generator `g`: the text before its first `=` is
`CMAKE_GENERATOR`, alone or followed by `:` and a type, and `g` is the rest, trimmed -/
def RecordsGenerator (line g : String) : Prop :=
  ∃ key value : String, line = key ++ "=" ++ value ∧ '=' ∉ key.toList ∧
    (key = "CMAKE_GENERATOR" ∨ ∃ type : String, key = "CMAKE_GENERATOR:" ++ type) ∧
    g = Text.trim value

/-- the generator one line of a cache records -/
def generatorOfLine (line : String) : Option String :=
  (Text.splitOnce line '=').bind fun kv =>
    if (Text.splitAll kv.1 ':').head? == some "CMAKE_GENERATOR" then some (Text.trim kv.2)
    else none

theorem generatorOfCache_eq (cache : String) :
    generatorOfCache cache = (Text.lines cache).findSome? generatorOfLine := by
  unfold generatorOfCache
  congr 1
  funext line
  unfold generatorOfLine
  cases Text.splitOnce line '=' <;> rfl

/-- the key's first part is `CMAKE_GENERATOR` exactly when it is that name alone or with a type -/
theorem head?_splitAll_key_iff (key : String) :
    (Text.splitAll key ':').head? = some "CMAKE_GENERATOR" ↔
      key = "CMAKE_GENERATOR" ∨ ∃ type : String, key = "CMAKE_GENERATOR:" ++ type := by
  have hname : "CMAKE_GENERATOR:".toList = "CMAKE_GENERATOR".toList ++ [':'] := by decide
  rw [Text.head?_splitAll_eq_some_iff (by decide)]
  refine or_congr Iff.rfl (exists_congr fun type => ?_)
  rw [← String.toList_inj, String.toList_append, hname, List.append_assoc, List.singleton_append]

theorem generatorOfLine_eq_some_iff (line g : String) :
    generatorOfLine line = some g ↔ RecordsGenerator line g := by
  constructor
  · intro h
    cases hcut : Text.splitOnce line '=' with
    | none => simp [generatorOfLine, hcut] at h
    | some kv =>
      obtain ⟨key, value⟩ := kv
      obtain ⟨hline, hkey⟩ := Text.splitOnce_eq_some hcut
      simp only [generatorOfLine, hcut, Option.bind_some, beq_iff_eq] at h
      split at h
      · rename_i hhead
        refine ⟨key, value, ?_, hkey, (head?_splitAll_key_iff key).mp hhead, (Option.some.inj h).symm⟩
        rw [← String.toList_inj, hline]
        simp
      · cases h
  · rintro ⟨key, value, rfl, hkey, hform, rfl⟩
    have hcut : Text.splitOnce (key ++ "=" ++ value) '=' = some (key, value) :=
      Text.splitOnce_of_eq (by simp) hkey
    simp [generatorOfLine, hcut, (head?_splitAll_key_iff key).mpr hform]

/-- the reader passes over a line exactly when it records no generator -/
theorem generatorOfLine_eq_none_iff (line : String) :
    generatorOfLine line = none ↔ ∀ g, ¬ RecordsGenerator line g := by
  rw [Option.eq_none_iff_forall_ne_some]
  exact forall_congr' fun g => not_congr (generatorOfLine_eq_some_iff line g)

/-- a line that records a generator starts with `CMAKE_GENERATOR` and then `=` or `:` -/
theorem recordsGenerator_start {line g : String} (h : RecordsGenerator line g) :
    "CMAKE_GENERATOR=".toList <+: line.toList ∨ "CMAKE_GENERATOR:".toList <+: line.toList := by
  obtain ⟨key, value, rfl, -, hform, -⟩ := h
  rcases hform with rfl | ⟨type, rfl⟩
  · have hname : "CMAKE_GENERATOR=".toList = ("CMAKE_GENERATOR" ++ "=").toList := by decide
    exact .inl ⟨value.toList, by rw [hname]; simp⟩
  · exact .inr ⟨type.toList ++ "=".toList ++ value.toList, by simp⟩

/-- the keys that go on from `CMAKE_GENERATOR` with `_` record no generator -/
theorem not_recordsGenerator_of_key {key : String}
    (hkey : key ∈ ["CMAKE_GENERATOR_PLATFORM", "CMAKE_GENERATOR_TOOLSET", "CMAKE_GENERATOR_INSTANCE"])
    (rest g : String) : ¬ RecordsGenerator (key ++ rest) g := by
  intro h
  simp only [List.mem_cons, List.not_mem_nil, or_false] at hkey
  have hlen : 16 ≤ key.toList.length := by
    rcases hkey with rfl | rfl | rfl <;> decide
  -- both the key and the start of a recording line lead the line, so one leads the other
  have hkey' : key.toList <+: (key ++ rest).toList := by simp
  have hlead : "CMAKE_GENERATOR=".toList <+: key.toList ∨ "CMAKE_GENERATOR:".toList <+: key.toList := by
    rcases recordsGenerator_start h with hp | hp
    · exact .inl (List.prefix_of_prefix_length_le hp hkey' hlen)
    · exact .inr (List.prefix_of_prefix_length_le hp hkey' hlen)
  rcases hkey with rfl | rfl | rfl <;> revert hlead <;> decide

/-! ## The generator of a build folder -/

/-- the configured generator is the one the first recording line of a readable cache records -/
theorem configuredGenerator_eq_some_iff (t : FileTree) (layout : Layout) (g : String) :
    configuredGenerator t layout = some g ↔
      ∃ cache, t.read (layout.buildFolder.join cmakeCacheFileName) = .ok cache ∧
        ∃ before line after, Text.lines cache = before ++ line :: after ∧ RecordsGenerator line g ∧
          ∀ l ∈ before, ∀ g', ¬ RecordsGenerator l g' := by
  unfold configuredGenerator
  split
  · rename_i cache hread
    simp only [hread, Except.ok.injEq, exists_eq_left', generatorOfCache_eq,
      List.findSome?_eq_some_iff, generatorOfLine_eq_some_iff]
    exact exists_congr fun before => exists_congr fun line => exists_congr fun after =>
      and_congr Iff.rfl (and_congr Iff.rfl (forall₂_congr fun l _ => generatorOfLine_eq_none_iff l))
  · -- an unreadable cache records nothing
    rename_i e hread
    refine iff_of_false (fun h => nomatch h) ?_
    rintro ⟨cache, hcache, -⟩
    rw [hread] at hcache
    cases hcache

/-- there is no configured generator when the cache cannot be read or no line of it records one -/
theorem configuredGenerator_eq_none_iff (t : FileTree) (layout : Layout) :
    configuredGenerator t layout = none ↔
      (∀ cache, t.read (layout.buildFolder.join cmakeCacheFileName) ≠ .ok cache) ∨
      ∃ cache, t.read (layout.buildFolder.join cmakeCacheFileName) = .ok cache ∧
        ∀ line ∈ Text.lines cache, ∀ g, ¬ RecordsGenerator line g := by
  unfold configuredGenerator
  split
  · rename_i cache hread
    simp only [hread, ne_eq, Except.ok.injEq, forall_eq', false_or,
      exists_eq_left', generatorOfCache_eq, List.findSome?_eq_none_iff]
    exact forall₂_congr fun line _ => generatorOfLine_eq_none_iff line
  · rename_i e hread
    refine iff_of_true rfl (.inl fun cache hcache => ?_)
    rw [hread] at hcache
    cases hcache

/-! ## The test target -/

/-- the test command builds `RUN_TESTS` under a Visual Studio generator and Xcode, else `test` -/
theorem configuredTestCommand_eq (c : CMake) (t : FileTree) :
    c.configuredTestCommand t = c.buildCommand (some
      (if ∃ g, configuredGenerator t c.layout = some g ∧
          ("Visual Studio".toList <+: g.toList ∨ g = "Xcode") then "RUN_TESTS" else "test")) := by
  unfold CMake.configuredTestCommand CMake.testCommand
  cases configuredGenerator t c.layout with
  | none => simp [testTarget]
  | some g => simp [testTarget]

example : generatorOfCache "CMAKE_GENERATOR_PLATFORM:STRING=x64\nCMAKE_GENERATOR:INTERNAL= Xcode\n" =
    some "Xcode" := by
  decide +kernel

/-- **The configured generator and the test target.** For every file tree and CMake of a recipe:
- the build folder is configured with the generator `g` exactly when its cache file reads and the
  first line of it that records a generator records `g`: the text before the line's first `=` is
  `CMAKE_GENERATOR`, alone or followed by `:` and a type, and `g` is the rest of the line trimmed;
- it is configured with none exactly when the cache file cannot be read or no line of it records
  a generator;
- lines of `CMAKE_GENERATOR_PLATFORM`, `CMAKE_GENERATOR_TOOLSET` and `CMAKE_GENERATOR_INSTANCE`
  record no generator;
- the test command builds the target `RUN_TESTS` when that generator starts with
  `Visual Studio` or is `Xcode`, and the target `test` otherwise. -/
theorem configured_generator_and_test_target (t : FileTree) (c : CMake) :
    (∀ g, configuredGenerator t c.layout = some g ↔
      ∃ cache, t.read (c.layout.buildFolder.join cmakeCacheFileName) = .ok cache ∧
        ∃ before line after, Text.lines cache = before ++ line :: after ∧ RecordsGenerator line g ∧
          ∀ l ∈ before, ∀ g', ¬ RecordsGenerator l g') ∧
    (configuredGenerator t c.layout = none ↔
      (∀ cache, t.read (c.layout.buildFolder.join cmakeCacheFileName) ≠ .ok cache) ∨
      ∃ cache, t.read (c.layout.buildFolder.join cmakeCacheFileName) = .ok cache ∧
        ∀ line ∈ Text.lines cache, ∀ g, ¬ RecordsGenerator line g) ∧
    (∀ key ∈ ["CMAKE_GENERATOR_PLATFORM", "CMAKE_GENERATOR_TOOLSET", "CMAKE_GENERATOR_INSTANCE"],
      ∀ rest g, ¬ RecordsGenerator (key ++ rest) g) ∧
    c.configuredTestCommand t = c.buildCommand (some
      (if ∃ g, configuredGenerator t c.layout = some g ∧
          ("Visual Studio".toList <+: g.toList ∨ g = "Xcode") then "RUN_TESTS" else "test")) :=
  ⟨configuredGenerator_eq_some_iff t c.layout, configuredGenerator_eq_none_iff t c.layout,
    fun _ hkey => not_recordsGenerator_of_key hkey, configuredTestCommand_eq c t⟩

end BuildRecipe

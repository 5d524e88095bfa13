/-
The license report as text. It opens with a header paragraph naming the package. As a table
(`Manifest.render_table`) it has a heading line, a line of dashes, and then one line per row of
the manifest, package first: each cell follows `| ` and is padded with spaces to its width, 20
characters for the name and 30 for the license, a longer value being written whole. As a list
(`Manifest.render_list`) it has one `name: license` line per row.

Widths are counted in characters (Unicode scalar values). A table line is `5 + max 20 n + max 30 l`
characters long for a name of `n` and a license of `l` characters (`Manifest.length_cells`), so the
table keeps its columns, every line 55 characters with `|` at 0, 22 and 54, exactly when every
name fits in 20 characters and every license in 30 (`Manifest.aligned_tableLines_iff`).

Main statement: `License.Manifest.report_layout`.
-/
import BuildRecipe.License.Manifest

namespace BuildRecipe.License.Manifest

/-! ## The layout -/

/-- the paragraph a report opens with -/
def reportHeader (package : String) : String :=
  "Licenses for `" ++ package ++ "` and its dependencies are listed below.\n\n"

/-- a table line without its line end: each cell after `| `, filled with spaces up to its
width, never cut -/
def cells (name license : String) : String :=
  "| " ++ Text.padRight name 20 ++ "| " ++ Text.padRight license 30 ++ "|"

/-- the line under the heading: the cells' widths in dashes, one more each for the space -/
def separatorLine : String :=
  "|" ++ String.ofList (List.replicate 21 '-') ++ "|" ++ String.ofList (List.replicate 31 '-') ++
    "|"

/-- the lines of the table: the heading, the dashes, then one line per row in order -/
def tableLines (m : Manifest) : List String :=
  cells "Library" "License" :: separatorLine :: m.allRows.map fun r => cells r.1 r.2

/-- a line of the fixed layout: 55 characters, with `|` at 0, 22 and 54 -/
def Aligned (line : String) : Prop :=
  line.length = 55 ∧ line.toList[0]? = some '|' ∧ line.toList[22]? = some '|' ∧
    line.toList[54]? = some '|'

instance : DecidablePred Aligned := fun _ => inferInstanceAs (Decidable (_ ∧ _))

/-! ## Rendering follows the layout -/

theorem tableLine_eq (name license : String) :
    tableLine name license = cells name license ++ "\n" := by
  have hend : "|\n" = "|" ++ "\n" := by decide
  simp only [tableLine, cells, hend, String.append_assoc]

theorem render_table (m : Manifest) :
    m.render .table = reportHeader m.package ++ String.join ((tableLines m).map (· ++ "\n")) := by
  have hsep : "|" ++ String.ofList (List.replicate 21 '-') ++ "|" ++
      String.ofList (List.replicate 31 '-') ++ "|\n" = separatorLine ++ "\n" := by
    decide
  unfold render
  delta reportHeader
  simp only [tableLines, List.map_cons, List.map_map, Function.comp_def, String.join_cons,
    ← hsep, tableLine_eq, String.append_assoc]

theorem render_list (m : Manifest) :
    m.render .list =
      reportHeader m.package ++ String.join (m.allRows.map fun r => r.1 ++ ": " ++ r.2 ++ "\n") := by
  unfold render
  delta reportHeader
  rfl

/-! ## Widths -/

theorem toList_padRight (s : String) (width : Nat) :
    (Text.padRight s width).toList = s.toList ++ List.replicate (width - s.length) ' ' := by
  simp [Text.padRight]

example : cells "dds-fmu" "MPL-2.0" = "| dds-fmu             | MPL-2.0                       |" := by
  decide

/-- the characters of a line of cells: the name's cell ends just before the second `|` -/
theorem toList_cells (name license : String) :
    (cells name license).toList =
      (['|', ' '] ++ (Text.padRight name 20).toList) ++ '|' ::
        ((' ' :: (Text.padRight license 30).toList) ++ ['|']) := by
  have hbar : "| ".toList = ['|', ' '] := by decide
  have hend : "|".toList = ['|'] := by decide
  simp only [cells, String.toList_append, hbar, hend, List.append_assoc, List.cons_append,
    List.nil_append]

/-- a row is as wide as its padded cells, a longer value widening it -/
theorem length_cells (name license : String) :
    (cells name license).length = 5 + max 20 name.length + max 30 license.length := by
  rw [← String.length_toList, toList_cells]
  simp only [List.length_append, List.length_cons, String.length_toList, Text.padRight_length,
    List.length_nil]
  omega

/-- the character just past a prefix of known length -/
theorem getElem?_append_cons {xs ys : List Char} {c : Char} {i : Nat} (h : xs.length = i) :
    (xs ++ c :: ys)[i]? = some c := by
  subst h
  simp

/-- a line of cells keeps the columns exactly when both values fit -/
theorem aligned_cells_iff (name license : String) :
    Aligned (cells name license) ↔ name.length ≤ 20 ∧ license.length ≤ 30 := by
  constructor
  · rintro ⟨hlen, -⟩
    rw [length_cells] at hlen
    omega
  · rintro ⟨hn, hl⟩
    -- the padded name fills exactly 20 characters and the padded license 30
    have hname : (Text.padRight name 20).toList.length = 20 := by
      rw [String.length_toList, Text.padRight_length]; omega
    have hlic : (Text.padRight license 30).toList.length = 30 := by
      rw [String.length_toList, Text.padRight_length]; omega
    refine ⟨by rw [length_cells]; omega, by simp [toList_cells], ?_, ?_⟩
    · rw [toList_cells]
      exact getElem?_append_cons (by simp [hname])
    · rw [toList_cells, ← List.cons_append, ← List.append_assoc]
      exact getElem?_append_cons (by simp [hname, hlic])

theorem aligned_separatorLine : Aligned separatorLine := by
  decide

/-- the table keeps its columns exactly when every name fits in 20 characters and every license
in 30 -/
theorem aligned_tableLines_iff (m : Manifest) :
    (∀ line ∈ tableLines m, Aligned line) ↔
      ∀ r ∈ m.allRows, r.1.length ≤ 20 ∧ r.2.length ≤ 30 := by
  have hheading : Aligned (cells "Library" "License") :=
    (aligned_cells_iff _ _).mpr ⟨by decide, by decide⟩
  simp only [tableLines, List.forall_mem_cons, List.forall_mem_map, ← aligned_cells_iff]
  exact ⟨fun h => h.2.2, fun h => ⟨hheading, aligned_separatorLine, h⟩⟩

/-- **The license report.** For every manifest:
- as a table, the report is the header paragraph, then the table's lines, each ended by a line
  feed: the heading, the dashes, then one line per row, package first;
- a line of cells is `| `, the name and spaces up to 20 characters, `| `, the license and spaces up
  to 30 characters, then `|`: a longer value is written whole, so the line has
  `5 + max 20 n + max 30 l` characters for a name of `n` and a license of `l` characters;
- every table line has 55 characters with `|` at 0, 22 and 54 exactly when every name has at most
  20 characters and every license at most 30;
- as a list, the report is the header paragraph, then one `name: license` line per row. -/
theorem report_layout (m : Manifest) :
    m.render .table = reportHeader m.package ++ String.join ((tableLines m).map (· ++ "\n")) ∧
    (∀ name license, (cells name license).toList =
      "| ".toList ++ name.toList ++ List.replicate (20 - name.length) ' ' ++ "| ".toList ++
        license.toList ++ List.replicate (30 - license.length) ' ' ++ ['|']) ∧
    (∀ name license,
      (cells name license).length = 5 + max 20 name.length + max 30 license.length) ∧
    ((∀ line ∈ tableLines m, Aligned line) ↔
      ∀ r ∈ m.allRows, r.1.length ≤ 20 ∧ r.2.length ≤ 30) ∧
    m.render .list =
      reportHeader m.package ++ String.join (m.allRows.map fun r => r.1 ++ ": " ++ r.2 ++ "\n") := by
  have hbar : "|".toList = ['|'] := by decide
  refine ⟨render_table m, fun name license => ?_, length_cells, aligned_tableLines_iff m,
    render_list m⟩
  simp only [cells, String.toList_append, toList_padRight, hbar, List.append_assoc]

end BuildRecipe.License.Manifest

/-
References and requirement graphs as JSON. A reference is written in JSON as the string of its
written form, and the JSON reader gives that string back (`JsonData.parse?_quote`), so a
reference goes through JSON and back exactly when it goes through its written form: when it is
canonical. A requirement graph is written as an array of records, each the string of a
reference and the name of a role; the reader gives back one object per record
(`Cli.parse?_graphJson`), from which each canonical reference and each role is read back.

The records are read one by one: a record is read as the object of its two strings
(`Cli.value_recordText`), and the records between the brackets by induction on them
(`Cli.items_records`), with fuel to spare since a written graph holds at least one character
per record (`Cli.length_le_records`).

Main statement: `Package.Reference.written_form_roundtrip`.
-/
import BuildRecipe.Proofs.JsonText
import BuildRecipe.Proofs.PackageReference
import BuildRecipe.Cli.Commands

namespace BuildRecipe

namespace Cli

open JsonData

/-- a record of the written graph: a reference and a role, as the graph's JSON text holds them -/
def recordText (reference role : String) : String :=
  "  \x7b\n    \"reference\": " ++ quote reference ++ ",\n    \"role\": " ++ quote role ++ "\n  \x7d"

/-- the text of a record, on the character level -/
theorem toList_recordText_append (a b : String) (rest : List Char) :
    (recordText a b).toList ++ rest =
      [' ', ' '] ++ '{' :: (['\n', ' ', ' ', ' ', ' '] ++ ((quote "reference").toList ++ ':' ::
        ([' '] ++ ((quote a).toList ++ ',' :: (['\n', ' ', ' ', ' ', ' '] ++
          ((quote "role").toList ++ ':' :: ([' '] ++ ((quote b).toList ++
            (['\n', ' ', ' '] ++ '}' :: rest))))))))) := by
  have hkey : (quote "reference").toList = "\"reference\"".toList := by simp [toList_quote, escapeChar]
  have hrole : (quote "role").toList = "\"role\"".toList := by simp [toList_quote, escapeChar]
  unfold recordText
  simp [hkey, hrole]

/-- a record is read back as the object of its two strings -/
theorem value_recordText (fuel depth : Nat) (a b : String) (rest : List Char) :
    value (fuel + 4) (depth + 1) .whole ((recordText a b).toList ++ rest) =
      some (.object [("reference", .string a), ("role", .string b)], rest) := by
  have hindent : Spacing ['\n', ' ', ' ', ' ', ' '] := by simp [Spacing]
  have hspace : Spacing [' '] := by simp [Spacing]
  have hclose : Spacing ['\n', ' ', ' '] := by simp [Spacing]
  -- the second member, then the first, then the object around them
  have hrole : members (fuel + 2) depth .whole (['\n', ' ', ' ', ' ', ' '] ++ ((quote "role").toList ++
      ':' :: ([' '] ++ ((quote b).toList ++ (['\n', ' ', ' '] ++ '}' :: rest))))) =
        some ([("role", .string b)], rest) := by
    have hv := value_quote fuel depth b (['\n', ' ', ' '] ++ '}' :: rest)
    rw [← value_spacing hspace] at hv
    have hend : skipWs (['\n', ' ', ' '] ++ '}' :: rest) = '}' :: rest := by
      rw [skipWs_spacing hclose]
      rfl
    rw [members_spacing hindent, members_last "role" hv hend]
  have hv := value_quote (fuel + 1) depth a
    (',' :: (['\n', ' ', ' ', ' ', ' '] ++ ((quote "role").toList ++ ':' ::
      ([' '] ++ ((quote b).toList ++ (['\n', ' ', ' '] ++ '}' :: rest))))))
  rw [← value_spacing hspace] at hv
  rw [toList_recordText_append, value_spacing (by simp [Spacing])]
  refine value_object (by rw [skipWs_spacing hindent, skipWs_quote, toList_quote]; rfl) ?_
  rw [members_spacing hindent, members_next "reference" hv rfl, hrole]
  rfl

theorem graphJson_of_ne_nil {g : Requirement.Graph} (h : g.entries ≠ []) :
    graphJson g = "[\n" ++ ",\n".intercalate
      (g.entries.map fun e => recordText e.reference.display e.role.name) ++ "\n]" := by
  unfold graphJson
  split
  · contradiction
  · rfl

theorem items_records (depth : Nat) (rest : List Char) (es : List Requirement.Entry) (fuel : Nat)
    (hne : es ≠ []) (hfuel : es.length + 4 ≤ fuel) :
    items fuel (depth + 1) .whole
        ('\n' :: ((",\n".intercalate (es.map fun e => recordText e.reference.display e.role.name)).toList ++
          '\n' :: ']' :: rest)) =
      some (es.map fun e => .object [("reference", .string e.reference.display),
        ("role", .string e.role.name)], rest) := by
  have hnl : Spacing ['\n'] := by simp [Spacing]
  induction es generalizing fuel with
  | nil => contradiction
  | cons e es ih =>
    obtain ⟨f, rfl⟩ : ∃ f, fuel = f + 4 + 1 := ⟨fuel - 5, by simp at hfuel; omega⟩
    cases es with
    | nil =>
      have hv := value_recordText f depth e.reference.display e.role.name ('\n' :: ']' :: rest)
      rw [← value_spacing hnl] at hv
      rw [List.map_singleton, String.intercalate_singleton]
      rw [List.singleton_append] at hv
      exact items_last hv rfl
    | cons e' es =>
      have hv := value_recordText f depth e.reference.display e.role.name
        (',' :: '\n' :: ((",\n".intercalate
          ((e' :: es).map fun e => recordText e.reference.display e.role.name)).toList ++
            '\n' :: ']' :: rest))
      rw [← value_spacing hnl, List.singleton_append] at hv
      have htail := ih (f + 4) (List.cons_ne_nil _ _) (by simp at hfuel ⊢; omega)
      have hsep : ",\n".toList = [',', '\n'] := by simp
      simp only [List.map_cons] at htail hv ⊢
      rw [String.intercalate_cons_cons, String.toList_append, String.toList_append, hsep]
      simp only [List.append_assoc, List.cons_append, List.nil_append]
      rw [items_next hv rfl, htail]
      rfl

/-- a written graph holds at least one character per record -/
theorem length_le_records (es : List Requirement.Entry) :
    es.length ≤
      (",\n".intercalate (es.map fun e => recordText e.reference.display e.role.name)).toList.length := by
  induction es with
  | nil => simp
  | cons e es ih =>
    have hrecord := congrArg List.length (toList_recordText_append e.reference.display e.role.name [])
    simp only [List.append_nil, List.length_append, List.length_cons] at hrecord
    cases es with
    | nil =>
      simp only [List.map_cons, List.map_nil, String.intercalate_singleton, List.length_singleton]
      omega
    | cons e' es =>
      simp only [List.map_cons, String.intercalate_cons_cons, String.toList_append,
        List.length_append, List.length_cons] at ih ⊢
      omega

/-- the first characters of a written graph's records are those of its first record -/
theorem toList_intercalate_cons (t : String) (ts : List String) :
    ∃ more, (",\n".intercalate (t :: ts)).toList = t.toList ++ more := by
  cases ts with
  | nil => exact ⟨[], by simp⟩
  | cons t' ts => exact ⟨_, by rw [String.intercalate_cons_cons, String.toList_append,
      String.toList_append, List.append_assoc]⟩

/-- a written graph is read back as the array of its records, each the object of its reference's
written form and its role's name -/
theorem parse?_graphJson (g : Requirement.Graph) :
    parse? (graphJson g) = some (.array (g.entries.map fun e =>
      .object [("reference", .string e.reference.display), ("role", .string e.role.name)])) := by
  cases hes : g.entries with
  | nil =>
    simp only [graphJson, hes, List.map_nil]
    rfl
  | cons e es =>
    rw [graphJson_of_ne_nil (by simp [hes]), hes]
    have hlen := length_le_records (e :: es)
    obtain ⟨more, hmore⟩ := toList_intercalate_cons (recordText e.reference.display e.role.name)
      (es.map fun e => recordText e.reference.display e.role.name)
    have hnl : Spacing ['\n'] := by simp [Spacing]
    have hitem : (skipWs ('\n' :: ((",\n".intercalate ((e :: es).map fun e =>
        recordText e.reference.display e.role.name)).toList ++ ['\n', ']']))).head? = some '{' := by
      rw [List.map_cons, hmore, List.append_assoc, toList_recordText_append]
      rw [show ∀ l : List Char, '\n' :: l = ['\n'] ++ l from fun _ => rfl, skipWs_spacing hnl,
        skipWs_spacing (by simp [Spacing])]
      rfl
    have htext : ("[\n" ++ ",\n".intercalate ((e :: es).map fun e =>
        recordText e.reference.display e.role.name) ++ "\n]").toList =
        '[' :: '\n' :: ((",\n".intercalate ((e :: es).map fun e =>
          recordText e.reference.display e.role.name)).toList ++ ['\n', ']']) := by
      simp [String.toList_append]
    -- the array opens at the deepest level a document may have, its records one level deeper
    have hread : ∀ fuel, (e :: es).length + 5 ≤ fuel →
        value fuel maxDepth .whole ('[' :: '\n' :: ((",\n".intercalate ((e :: es).map fun e =>
          recordText e.reference.display e.role.name)).toList ++ ['\n', ']'])) =
        some (.array ((e :: es).map fun e =>
          .object [("reference", .string e.reference.display), ("role", .string e.role.name)]), []) := by
      intro fuel hfuel
      obtain ⟨f, rfl⟩ : ∃ f, fuel = f + 1 := ⟨fuel - 1, by omega⟩
      exact value_array hitem (items_records 125 [] (e :: es) f (List.cons_ne_nil _ _) (by omega))
    simp only [parse?, parseAs?, htext]
    rw [hread _ (by simp only [List.length_cons, List.length_append] at hlen ⊢; omega)]
    rfl

end Cli

/-- a role is read back from its name -/
theorem Requirement.Role.ofName?_name (role : Requirement.Role) : Requirement.Role.ofName? role.name = some role := by
  cases role <;> rfl

namespace Package.Reference

/-- **Reading and writing package references, as texts and in JSON.**
- A text reads as a reference exactly when it is `N/V` or `N/V@U/C` with `N` a valid package name,
  `V` not empty and without `@`, `U` not empty and without `/`, and `C` not empty.
- Writing a reference read from a text gives the text back.
- A reference whose name is valid, whose version is not empty and holds no `@`, and whose user and
  channel, when it has them, are not empty, the user holding no `/`, reads back from its written
  form, and its JSON string reads back as that written form.
- A requirement graph of such references is read back from its JSON text as one object per
  requirement, holding its reference's written form and its role's name, from which the
  reference and the role read back. -/
theorem written_form_roundtrip :
    (∀ s, (∃ r, parse s = .ok r) ↔
      (∃ n v, Name.Valid n ∧ v ≠ "" ∧ '@' ∉ v.toList ∧ s = n ++ "/" ++ v) ∨
      (∃ n v u c, Name.Valid n ∧ v ≠ "" ∧ '@' ∉ v.toList ∧ u ≠ "" ∧ '/' ∉ u.toList ∧ c ≠ "" ∧
        s = n ++ "/" ++ v ++ "@" ++ u ++ "/" ++ c)) ∧
    (∀ s r, parse s = .ok r → r.display = s) ∧
    (∀ r : Reference, Name.Valid r.name.val → r.version ≠ "" → '@' ∉ r.version.toList →
      (∀ u c, r.userChannel = some (u, c) → u ≠ "" ∧ '/' ∉ u.toList ∧ c ≠ "") →
      parse r.display = .ok r ∧ JsonData.parse? (JsonData.quote r.display) = some (.string r.display)) ∧
    (∀ g : Requirement.Graph, (∀ e ∈ g.entries, e.reference.Canonical) →
      JsonData.parse? (Cli.graphJson g) = some (.array (g.entries.map fun e =>
        .object [("reference", .string e.reference.display), ("role", .string e.role.name)])) ∧
      ∀ e ∈ g.entries, parse e.reference.display = .ok e.reference ∧
        Requirement.Role.ofName? e.role.name = some e.role) :=
  ⟨exists_parse_eq_ok_iff, fun _ _ h => (display_of_parse h).1,
    fun r hname hversion hat huc =>
      ⟨parse_display ⟨hname, hversion, hat, huc⟩, JsonData.parse?_quote r.display⟩,
    fun g hcanonical => ⟨Cli.parse?_graphJson g,
      fun e he => ⟨parse_display (hcanonical e he), Requirement.Role.ofName?_name e.role⟩⟩⟩

/-- a graph of one qualified reference goes through JSON and back -/
theorem qualified_reference_graph_reads_back :
    let r : Reference :=
      { name := ⟨"zlib", by decide⟩, version := "1.3.1", userChannel := some ("acme", "stable") }
    JsonData.parse? (Cli.graphJson ⟨[⟨r, .buildTool⟩]⟩) =
        some (.array [.object [("reference", .string r.display), ("role", .string "build-tool")]]) ∧
      parse r.display = .ok r := by
  intro r
  have hcanonical : r.Canonical :=
    ⟨Name.valid_val r.name, by decide, by decide, fun u c h => by cases h; exact ⟨by decide, by decide, by decide⟩⟩
  obtain ⟨hjson, hback⟩ := written_form_roundtrip.2.2.2 ⟨[⟨r, .buildTool⟩]⟩
    (fun e he => by rw [List.mem_singleton.mp he]; exact hcanonical)
  exact ⟨hjson, (hback _ (List.mem_singleton_self _)).1⟩

end Package.Reference

end BuildRecipe

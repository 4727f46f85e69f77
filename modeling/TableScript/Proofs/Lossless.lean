import TableScript.Proofs.Documents
import TableScript.Proofs.Members
import TableScript.Report

/-!
# Reports that machines read

A report in JSON is read as an object with the fields of the report and no others, whose strings and
lists are those of the report (`Written`); a logical type stands there by its tag name. The texts of
a report may hold anything, so in TOON they may look like anything else the notation has. Still the
text tells the sort of the report, by the keys of the first two entries, and with it the whole
document.

Results:
* `Report.written_toJson`, `Report.read_format_json`: a report in JSON is read back as what was
  written, which stands for the report.
* `Report.leftUnique_written`: no object stands for two reports.
* `Report.toToon_injective`: no two reports have the same document.
* `Report.outlines_toToon_eq`: the text in TOON tells the sort of the report.
* `Report.format_loses_nothing`: so a text in either format stands for one report only.

Out of scope: the text for people, which leaves out the dialect of a script.
-/

namespace TableScript

open Json (Value Plain)
open Description (TextWritten ListWritten Member textWritten_string listWritten_listJson
  plain_listJson)

theorem FieldType.name_injective : Function.Injective FieldType.name := by
  intro t u h
  have hname := ofName?_name t
  rw [h, ofName?_name] at hname
  exact (Option.some.inj hname).symm

namespace Report

/-! ## What stands for a report -/

/-- The objects that stand for a table and its statement. -/
inductive TableWritten (t : RenderedTable) : Value → Prop where
  | object {ms : List (String × Value)} : ms.map (·.1) = ["table", "ddl"] →
      Member ms "table" TextWritten t.table → Member ms "ddl" TextWritten t.statement →
      TableWritten t (.object ms)

/-- A string stands for the logical type with this tag name. -/
def LogicalWritten (t : FieldType) (v : Value) : Prop :=
  ∃ s, v = .string s ∧ FieldType.ofName? s = some t

/-- The objects that stand for a logical type and its column type. -/
inductive TypeWritten (row : FieldType × String) : Value → Prop where
  | object {ms : List (String × Value)} : ms.map (·.1) = ["logical", "physical"] →
      Member ms "logical" LogicalWritten row.1 → Member ms "physical" TextWritten row.2 →
      TypeWritten row (.object ms)

/-- The objects that stand for a report of each sort. -/
inductive Written : Report → Value → Prop where
  | tables {dialect : String} {ts : List RenderedTable} {ms : List (String × Value)} :
      ms.map (·.1) = ["dialect", "tables"] → Member ms "dialect" TextWritten dialect →
      Member ms "tables" (ListWritten TableWritten) ts → Written (.tables dialect ts) (.object ms)
  | script {dialect database : String} {statements : List String} {ms : List (String × Value)} :
      ms.map (·.1) = ["dialect", "database", "statements"] →
      Member ms "dialect" TextWritten dialect → Member ms "database" TextWritten database →
      Member ms "statements" (ListWritten TextWritten) statements →
      Written (.script dialect database statements) (.object ms)
  | types {dialect : String} {rows : List (FieldType × String)} {ms : List (String × Value)} :
      ms.map (·.1) = ["dialect", "types"] → Member ms "dialect" TextWritten dialect →
      Member ms "types" (ListWritten TypeWritten) rows → Written (.types dialect rows) (.object ms)

/-! ## JSON -/

/-- What is printed for a table. -/
def tableJson (t : RenderedTable) : Value :=
  .object [("table", .string t.table), ("ddl", .string t.statement)]

/-- What is printed for a row of a type table. -/
def typeJson (row : FieldType × String) : Value :=
  .object [("logical", .string row.1.name), ("physical", .string row.2)]

theorem tableWritten_tableJson (t : RenderedTable) : TableWritten t (tableJson t) :=
  .object rfl (.of_lookup? rfl rfl) (.of_lookup? rfl rfl)

theorem typeWritten_typeJson (row : FieldType × String) : TypeWritten row (typeJson row) :=
  .object rfl (.of_lookup? rfl ⟨_, rfl, FieldType.ofName?_name row.1⟩) (.of_lookup? rfl rfl)

/-- What is printed for a report stands for it. -/
theorem written_toJson (r : Report) : r.Written r.toJson := by
  cases r with
  | tables dialect ts =>
    exact .tables rfl (.of_lookup? rfl rfl)
      (.of_lookup? rfl (listWritten_listJson tableWritten_tableJson ts))
  | script dialect database statements =>
    exact .script rfl (.of_lookup? rfl rfl) (.of_lookup? rfl rfl)
      (.of_lookup? rfl (listWritten_listJson textWritten_string statements))
  | types dialect rows =>
    exact .types rfl (.of_lookup? rfl rfl)
      (.of_lookup? rfl (listWritten_listJson typeWritten_typeJson rows))

/-- What is printed for a report has no numbers in it and is not deep. -/
theorem plain_toJson (depth : Nat) (r : Report) : Plain (depth + 3) r.toJson := by
  have htable (t : RenderedTable) : Plain (depth + 1) (tableJson t) :=
    .object_cons (.string _) (.object_cons (.string _) .object_nil)
  have htype (row : FieldType × String) : Plain (depth + 1) (typeJson row) :=
    .object_cons (.string _) (.object_cons (.string _) .object_nil)
  cases r with
  | tables dialect ts =>
    exact .object_cons (.string _) (.object_cons (plain_listJson htable ts) .object_nil)
  | script dialect database statements =>
    exact .object_cons (.string _) <| .object_cons (.string _) <|
      .object_cons (plain_listJson .string statements) .object_nil
  | types dialect rows =>
    exact .object_cons (.string _) (.object_cons (plain_listJson htype rows) .object_nil)

/-- A report in JSON is read back. -/
theorem read_format_json (r : Report) : Json.read (r.format .json) = .ok r.toJson :=
  Json.read_pretty (plain_toJson 124 r)

/-! ### What stands for one report only -/

section Unique

variable {α : Type} {written : α → Value → Prop}

theorem leftUnique_textWritten : Relator.LeftUnique TextWritten := by
  rintro s t _ rfl h
  exact Value.string.inj h

theorem leftUnique_listWritten (h : Relator.LeftUnique written) :
    Relator.LeftUnique (ListWritten written) := by
  rintro xs ys _ ⟨vs, rfl, hxs⟩ ⟨ws, hws, hys⟩
  obtain rfl := Value.array.inj hws
  exact List.left_unique_forall₂' h hxs hys

/-- A member stands for one thing only. -/
theorem unique_of_member (h : Relator.LeftUnique written) {ms : List (String × Value)} {key : String}
    {x y : α} (hx : Member ms key written x) (hy : Member ms key written y) : x = y := by
  obtain ⟨v, hv, hx⟩ := hx
  obtain ⟨w, hw, hy⟩ := hy
  rw [← Json.lookup?_eq_some_iff] at hv hw
  obtain rfl := Option.some.inj (hv.symm.trans hw)
  exact h hx hy

end Unique

theorem leftUnique_tableWritten : Relator.LeftUnique TableWritten := by
  rintro ⟨table, statement⟩ ⟨table', statement'⟩ _ ⟨-, htable, hstatement⟩ ⟨-, htable', hstatement'⟩
  obtain rfl : table = table' := unique_of_member leftUnique_textWritten htable htable'
  obtain rfl : statement = statement' :=
    unique_of_member leftUnique_textWritten hstatement hstatement'
  rfl

theorem leftUnique_logicalWritten : Relator.LeftUnique LogicalWritten := by
  rintro t u _ ⟨s, rfl, ht⟩ ⟨s', hs, hu⟩
  obtain rfl := Value.string.inj hs
  exact Option.some.inj (ht.symm.trans hu)

theorem leftUnique_typeWritten : Relator.LeftUnique TypeWritten := by
  rintro ⟨logical, physical⟩ ⟨logical', physical'⟩ _ ⟨-, hlogical, hphysical⟩
    ⟨-, hlogical', hphysical'⟩
  obtain rfl : logical = logical' := unique_of_member leftUnique_logicalWritten hlogical hlogical'
  obtain rfl : physical = physical' :=
    unique_of_member leftUnique_textWritten hphysical hphysical'
  rfl

/-- **No object stands for two reports.** -/
theorem leftUnique_written : Relator.LeftUnique Written := by
  intro r r' v h h'
  cases h with
  | tables hkeys hdialect hts =>
    cases h' with
    | tables hkeys' hdialect' hts' =>
      rw [unique_of_member leftUnique_textWritten hdialect hdialect',
        unique_of_member (leftUnique_listWritten leftUnique_tableWritten) hts hts']
    | script hkeys' => exact absurd (hkeys.symm.trans hkeys') (by decide)
    | types hkeys' => exact absurd (hkeys.symm.trans hkeys') (by decide)
  | script hkeys hdialect hdatabase hstatements =>
    cases h' with
    | tables hkeys' => exact absurd (hkeys.symm.trans hkeys') (by decide)
    | script hkeys' hdialect' hdatabase' hstatements' =>
      rw [unique_of_member leftUnique_textWritten hdialect hdialect',
        unique_of_member leftUnique_textWritten hdatabase hdatabase',
        unique_of_member (leftUnique_listWritten leftUnique_textWritten) hstatements hstatements']
    | types hkeys' => exact absurd (hkeys.symm.trans hkeys') (by decide)
  | types hkeys hdialect hrows =>
    cases h' with
    | tables hkeys' => exact absurd (hkeys.symm.trans hkeys') (by decide)
    | script hkeys' => exact absurd (hkeys.symm.trans hkeys') (by decide)
    | types hkeys' hdialect' hrows' =>
      rw [unique_of_member leftUnique_textWritten hdialect hdialect',
        unique_of_member (leftUnique_listWritten leftUnique_typeWritten) hrows hrows']

/-! ## TOON -/

open Toon (documentText outlines)

theorem isPlainKey_toToon (r : Report) :
    ∀ o ∈ outlines r.toToon, Toon.isPlainKey o.1 = true := by
  have hplain : ∀ key ∈ ["dialect", "database", "tables", "statements", "types"],
      Toon.isPlainKey key = true := by
    decide
  have hmem : ∀ o ∈ outlines r.toToon,
      o.1 ∈ ["dialect", "database", "tables", "statements", "types"] := by
    cases r <;> simp [outlines, toToon]
  exact fun o ho => hplain o.1 (hmem o ho)

theorem toToon_ne_nil (r : Report) : r.toToon ≠ [] := by
  cases r <;> exact List.cons_ne_nil _ _

/-- Documents are different for different reports. -/
theorem toToon_injective : Function.Injective toToon := by
  have htable : Function.Injective fun t : RenderedTable => [t.statement, t.table] := by
    rintro ⟨table, statement⟩ ⟨table', statement'⟩ h
    obtain ⟨rfl, hrest⟩ := List.cons.inj h
    obtain ⟨rfl, -⟩ := List.cons.inj hrest
    rfl
  have htype : Function.Injective fun row : FieldType × String => [row.1.name, row.2] := by
    rintro ⟨logical, physical⟩ ⟨logical', physical'⟩ h
    obtain ⟨hname, hrest⟩ := List.cons.inj h
    obtain rfl := FieldType.name_injective hname
    obtain ⟨rfl, -⟩ := List.cons.inj hrest
    rfl
  intro r r' h
  -- Reports of two sorts have different keys, so three cases are left.
  cases r <;> cases r' <;> simp [toToon] at h
  case tables.tables =>
    obtain ⟨rfl, hts⟩ := h
    rw [List.map_injective_iff.mpr htable hts]
  case script.script =>
    obtain ⟨rfl, rfl, rfl⟩ := h
    rfl
  case types.types =>
    obtain ⟨rfl, hrows⟩ := h
    rw [List.map_injective_iff.mpr htype hrows]

/-- The first key tells a script from the reports that begin with their dialect. -/
theorem documentText_database_ne_dialect {x y : Toon.Entry} {d d' : Toon.Document} :
    documentText (("database", x) :: d) ≠ documentText (("dialect", y) :: d') := by
  intro h
  exact absurd (Toon.documentText_key_inj (by decide) (by decide) h) (by decide)

/-- The second key tells tables from types. -/
theorem documentText_tables_ne_types (dialect dialect' : String) (ts : List RenderedTable)
    (rows : List (FieldType × String)) :
    documentText (tables dialect ts).toToon ≠ documentText (types dialect' rows).toToon := by
  intro h
  have houtline : (Toon.Entry.text dialect).outline = (Toon.Entry.text dialect').outline := rfl
  obtain ⟨-, hrest⟩ := Toon.documentText_cons_inj houtline
    (List.forall_mem_cons.mp (isPlainKey_toToon (tables dialect ts))).2
    (List.forall_mem_cons.mp (isPlainKey_toToon (types dialect' rows))).2 h
  exact absurd (Toon.documentText_key_inj (by decide) (by decide) hrest) (by decide)

/-- **The text tells the sort of the report.** -/
theorem outlines_toToon_eq {r r' : Report} (h : documentText r.toToon = documentText r'.toToon) :
    outlines r.toToon = outlines r'.toToon := by
  cases r with
  | tables dialect ts =>
    cases r' with
    | tables => rfl
    | script => exact absurd h.symm documentText_database_ne_dialect
    | types dialect' rows => exact absurd h (documentText_tables_ne_types _ _ ts rows)
  | script =>
    cases r' with
    | tables => exact absurd h documentText_database_ne_dialect
    | script => rfl
    | types => exact absurd h documentText_database_ne_dialect
  | types dialect rows =>
    cases r' with
    | tables dialect' ts => exact absurd h.symm (documentText_tables_ne_types _ _ ts rows)
    | script => exact absurd h.symm documentText_database_ne_dialect
    | types => rfl

/-- **Reports lose nothing where machines read them.** The text of a report in JSON is read as an
object with the fields of the report and no others, which stands for this report alone; and no two
reports have the same text in TOON. -/
theorem format_loses_nothing :
    (∀ r : Report, ∃ v, Json.read (r.format .json) = .ok v ∧ r.Written v ∧
        ∀ r' : Report, r'.Written v → r' = r) ∧
      ∀ r r' : Report, r.format .toon = r'.format .toon → r = r' := by
  refine ⟨fun r => ⟨r.toJson, read_format_json r, written_toJson r,
    fun r' hr' => leftUnique_written hr' (written_toJson r)⟩, fun r r' h => toToon_injective ?_⟩
  have hencode : Toon.encode r.toToon = Toon.encode r'.toToon := String.ofList_injective h
  have htext := Toon.documentText_eq_of_encode_eq (toToon_ne_nil r) (toToon_ne_nil r') hencode
  exact Toon.encode_inj (outlines_toToon_eq htext) (isPlainKey_toToon r) hencode

/-- A report of one table, whose name goes on like a second row. -/
def oneRow : Report := tables "mysql" [⟨"b\n  c,d", "a"⟩]

/-- The report of two tables that it imitates. -/
def twoRows : Report := tables "mysql" [⟨"b", "a"⟩, ⟨"d", "c"⟩]

/-- The one table is told from the two, and its name is read back. -/
theorem imitated_row_told_apart :
    oneRow.format .toon ≠ twoRows.format .toon ∧
      ∃ v, Json.read (oneRow.format .json) = .ok v ∧ oneRow.Written v ∧ ¬ twoRows.Written v := by
  obtain ⟨hjson, htoon⟩ := format_loses_nothing
  have hne : oneRow ≠ twoRows := by decide
  obtain ⟨v, hread, hwritten, honly⟩ := hjson oneRow
  exact ⟨fun h => hne (htoon _ _ h), v, hread, hwritten, fun h => hne (honly _ h).symm⟩

end Report

end TableScript

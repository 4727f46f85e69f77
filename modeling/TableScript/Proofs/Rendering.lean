import TableScript.Proofs.Traversal
import TableScript.Proofs.Words
import TableScript.Statement

/-!
# Statements without failure

The only step of rendering that can fail is the look-up of a column type. Where the type table
`Covers` the type it succeeds, with the column type of the `FirstEntry` for the type; so a table
whose types are all covered has a statement, and this is given here as a text, without any failure
in it. A dialect whose type table is `Complete` has a column type for every logical type.

* `Flavor.literal` is the column type for a type that is covered.
* `Flavor.columnText` and `Flavor.clauseTexts` are the clauses as texts, in the order of the
  statement: columns, key, constraints.

Results:
* `TypeTable.lookup_eq_some_iff`, `TypeTable.lookup_eq_none_iff`: look-up finds the first entry, and
  fails exactly if there is none.
* `Flavor.columnClause_of_covers`, `Flavor.columnClause_of_not_covers`: a column is rendered exactly
  if its type is covered, and refused with the tag name of its type else.
* `Flavor.createTable_of_covers`: the statement of a table whose types are covered, clause by
  clause.
* `Flavor.Complete.createTable_eq`: a complete dialect renders every specification;
  `Flavor.Complete.createTableFrom_eq_ok_iff`, `Flavor.Complete.createTableFrom_eq_error_iff`: it
  renders whatever can be analyzed, and fails only where analysis does.
* `Flavor.complete_dialect`: the three dialects are complete, whatever their settings;
  `Flavor.literal_dialect_plain`: their column types hold no separator and no quote character.
-/

namespace TableScript

/-! ## Entries of a type table -/

namespace TypeTable

variable {types : TypeTable} {t : FieldType} {physical : String}

/-- The table has an entry for the type. -/
def Covers (types : TypeTable) (t : FieldType) : Prop := ∃ physical, (t, physical) ∈ types

/-- The first entry for the type has this column type. -/
def FirstEntry (types : TypeTable) (t : FieldType) (physical : String) : Prop :=
  ∃ pre post, types = pre ++ (t, physical) :: post ∧ ∀ entry ∈ pre, entry.1 ≠ t

theorem lookup_eq_some_iff : types.lookup t = some physical ↔ types.FirstEntry t physical := by
  rw [List.lookup_eq_some_iff]
  simp only [bne_iff_ne, ne_comm, FirstEntry]

theorem FirstEntry.mem (h : types.FirstEntry t physical) : (t, physical) ∈ types := by
  obtain ⟨pre, post, rfl, -⟩ := h
  exact List.mem_append_right pre List.mem_cons_self

theorem lookup_eq_none_iff : types.lookup t = none ↔ ¬ types.Covers t := by
  rw [List.lookup_eq_none_iff]
  constructor
  · rintro h ⟨physical, hmem⟩
    exact absurd (h _ hmem) (by simp)
  · rintro h ⟨t', physical⟩ hmem
    rw [bne_iff_ne]
    rintro rfl
    exact h ⟨physical, hmem⟩

theorem covers_iff_exists_lookup :
    types.Covers t ↔ ∃ physical, types.lookup t = some physical := by
  rw [← Option.ne_none_iff_exists', ne_eq, lookup_eq_none_iff, not_not]

end TypeTable

namespace Flavor

/-- Every logical type has an entry in the type table. -/
def Complete (f : Flavor) : Prop := ∀ t, ∃ physical, f.types.lookup t = some physical

/-- The column type of a logical type, or nothing where the dialect has none. -/
def literal (f : Flavor) (t : FieldType) : String := (f.types.lookup t).getD ""

/-- The clause of a column whose type the dialect has. -/
def columnText (f : Flavor) (c : Column) : String :=
  f.quoteName c.name ++ " " ++ f.literal c.type ++ " " ++ nullClause c.nullable

/-- The clauses of a table whose column types the dialect has, in order. -/
def clauseTexts (f : Flavor) (s : Specification) : List String :=
  s.columns.map f.columnText ++ f.keyClause s.key :: s.constraints.map f.constraintClause

variable {f : Flavor}

/-! ## Columns whose types are covered -/

theorem lookup_of_covers {t : FieldType} (h : f.types.Covers t) :
    f.types.lookup t = some (f.literal t) := by
  obtain ⟨physical, hp⟩ := TypeTable.covers_iff_exists_lookup.mp h
  rw [literal, hp, Option.getD_some]

theorem firstEntry_literal {t : FieldType} (h : f.types.Covers t) :
    f.types.FirstEntry t (f.literal t) :=
  TypeTable.lookup_eq_some_iff.mp (lookup_of_covers h)

theorem physicalType_of_covers {t : FieldType} (h : f.types.Covers t) :
    f.physicalType t = .ok (f.literal t) := by
  simp only [physicalType, lookup_of_covers h]

theorem physicalType_of_not_covers {t : FieldType} (h : ¬ f.types.Covers t) :
    f.physicalType t = .error (.unknownFieldType t.name) := by
  simp only [physicalType, TypeTable.lookup_eq_none_iff.mpr h]

theorem columnClause_of_covers {c : Column} (h : f.types.Covers c.type) :
    f.columnClause c = .ok (f.columnText c) := by
  rw [columnClause, physicalType_of_covers h]
  rfl

theorem columnClause_of_not_covers {c : Column} (h : ¬ f.types.Covers c.type) :
    f.columnClause c = .error (.unknownFieldType c.type.name) := by
  rw [columnClause, physicalType_of_not_covers h]
  rfl

/-- **A table whose types are covered is rendered**, clause by clause. -/
theorem clauses_of_covers {s : Specification} (h : ∀ c ∈ s.columns, f.types.Covers c.type) :
    f.clauses s = .ok (f.clauseTexts s) := by
  have hcolumns : s.columns.mapM f.columnClause = .ok (s.columns.map f.columnText) := by
    rw [mapM_eq_ok_iff, List.map_map]
    exact List.map_congr_left fun c hc => columnClause_of_covers (h c hc)
  rw [clauses, hcolumns]
  rfl

theorem createTable_of_covers {s : Specification} (h : ∀ c ∈ s.columns, f.types.Covers c.type) :
    f.createTable s = .ok (statement s.name (f.clauseTexts s)) := by
  rw [createTable, clauses_of_covers h]
  rfl

/-! ## Complete dialects -/

theorem Complete.covers (h : f.Complete) (t : FieldType) : f.types.Covers t :=
  TypeTable.covers_iff_exists_lookup.mpr (h t)

theorem Complete.physicalType_eq (h : f.Complete) (t : FieldType) :
    f.physicalType t = .ok (f.literal t) :=
  physicalType_of_covers (h.covers t)

theorem Complete.clauses_eq (h : f.Complete) (s : Specification) :
    f.clauses s = .ok (f.clauseTexts s) :=
  clauses_of_covers fun c _ => h.covers c.type

/-- **A complete dialect renders every specification.** -/
theorem Complete.createTable_eq (h : f.Complete) (s : Specification) :
    f.createTable s = .ok (statement s.name (f.clauseTexts s)) :=
  createTable_of_covers fun c _ => h.covers c.type

/-- A complete dialect renders exactly what can be analyzed. -/
theorem Complete.createTableFrom_eq_ok_iff (h : f.Complete) {source : TableSource} {text : String} :
    f.createTableFrom source = .ok text ↔
      ∃ s, source.analyze = .ok s ∧ statement s.name (f.clauseTexts s) = text := by
  unfold createTableFrom
  rw [bind_eq_ok_iff]
  refine exists_congr fun s => and_congr_right fun _ => ?_
  rw [h.createTable_eq, Except.ok.injEq]

/-- A complete dialect fails with nothing but what analysis fails with. -/
theorem Complete.createTableFrom_eq_error_iff (h : f.Complete) {source : TableSource} {e : Error} :
    f.createTableFrom source = .error e ↔ source.analyze = .error e := by
  unfold createTableFrom
  rw [bind_eq_error_iff, or_iff_left]
  rintro ⟨s, -, hs⟩
  rw [h.createTable_eq] at hs
  cases hs

/-! ## The three dialects -/

/-- The three dialects are complete, with any settings. -/
theorem complete_dialect (d : Dialect) : d.flavor.Complete := by
  intro t
  cases d <;> cases t <;> exact ⟨_, rfl⟩

theorem quote_dialect (d : Dialect) : d.flavor.quote ∈ ['\x60', '"'] := by
  cases d <;> simp [Dialect.flavor]

/-- A column type is an entry of the type table. -/
theorem Complete.literal_mem (h : f.Complete) (t : FieldType) : (t, f.literal t) ∈ f.types :=
  (firstEntry_literal (h.covers t)).mem

/-- The column types of the three dialects hold no separator and no quote character. -/
theorem literal_dialect_plain (d : Dialect) (t : FieldType) :
    ∀ c ∈ (d.flavor.literal t).toList, c ∉ [',', ';', '\x60', '"'] := by
  have htables : ∀ table ∈ [Dialect.mysqlTypes, Dialect.postgresTypes, Dialect.sqliteTypes],
      ∀ entry ∈ table, Text.avoids [',', ';', '\x60', '"'] entry.2.toList = true := by decide
  have htypes : d.flavor.types ∈
      [Dialect.mysqlTypes, Dialect.postgresTypes, Dialect.sqliteTypes] := by
    cases d <;> simp [Dialect.flavor]
  exact Text.avoids_iff.mp (htables _ htypes _ ((complete_dialect d).literal_mem t))

end Flavor

end TableScript

import TableScript.Proofs.Interleaving
import TableScript.Proofs.Rendering

/-!
# Type tables with gaps

The type table of a dialect may lack a type, or have several entries for it. Rendering a table fails
exactly when the type of some column is not covered, at the `FirstGap` among the columns, and else
takes the first entry for every type. A record meets an unknown type in two places, when its tag
names are read and when its columns are rendered; the three dialects have no gaps, so for them only
the first is left.

Results:
* `Flavor.createTable_eq_error_iff`: rendering fails at the first gap and with the tag name of its
  type, whatever the key and the constraints are.
* `Flavor.createTable_eq_ok_iff`: without a gap the statement lists columns, key and constraints,
  every column with the column type of the first entry for its type.
* `RecordDescription.exists_analyze_iff`: a record is analyzed exactly when columns that it
  `Describes` make a valid table with its key and its constraints.
* `RecordDescription.unknown_of_analyze_eq_error`: an unknown type that analysis reports is the tag
  name of a field and none of the eight.
* `Flavor.rendering_fails_at_first_gap`: all of this for any type table, and for the three dialects.
-/

namespace TableScript

/-! ## The first gap -/

namespace Flavor

/-- The first of the columns whose type the dialect does not cover. -/
def FirstGap (f : Flavor) (columns : List Column) (c : Column) : Prop :=
  ∃ pre post, columns = pre ++ c :: post ∧ (∀ b ∈ pre, f.types.Covers b.type) ∧
    ¬ f.types.Covers c.type

variable {f : Flavor} {s : Specification}

theorem exists_columnClause_iff {c : Column} :
    (∃ text, f.columnClause c = .ok text) ↔ f.types.Covers c.type := by
  constructor
  · rintro ⟨text, h⟩
    by_contra hgap
    rw [columnClause_of_not_covers hgap] at h
    cases h
  · intro h
    exact ⟨_, columnClause_of_covers h⟩

theorem columnClause_eq_error_iff {c : Column} {e : Error} :
    f.columnClause c = .error e ↔
      ¬ f.types.Covers c.type ∧ e = .unknownFieldType c.type.name := by
  by_cases h : f.types.Covers c.type
  · rw [columnClause_of_covers h]
    simp [h]
  · rw [columnClause_of_not_covers h]
    simp [h, eq_comm]

/-- **Rendering fails at the first gap**, whatever the key and the constraints are. -/
theorem createTable_eq_error_iff {e : Error} :
    f.createTable s = .error e ↔
      ∃ c, f.FirstGap s.columns c ∧ e = .unknownFieldType c.type.name := by
  rw [createTable, map_eq_error_iff, clauses, bind_pure_eq_error_iff, mapM_eq_error_iff]
  simp only [exists_columnClause_iff, columnClause_eq_error_iff]
  constructor
  · rintro ⟨pre, c, post, hsplit, hpre, hgap, rfl⟩
    exact ⟨c, ⟨pre, post, hsplit, hpre, hgap⟩, rfl⟩
  · rintro ⟨c, ⟨pre, post, hsplit, hpre, hgap⟩, rfl⟩
    exact ⟨pre, c, post, hsplit, hpre, hgap, rfl⟩

theorem exists_createTable_error_iff :
    (∃ e, f.createTable s = .error e) ↔ ∃ c ∈ s.columns, ¬ f.types.Covers c.type := by
  constructor
  · rintro ⟨e, h⟩
    obtain ⟨c, ⟨pre, post, hsplit, -, hgap⟩, -⟩ := createTable_eq_error_iff.mp h
    exact ⟨c, hsplit ▸ List.mem_append_right pre List.mem_cons_self, hgap⟩
  · rintro ⟨c, hc, hgap⟩
    cases h : f.createTable s with
    | error e => exact ⟨e, rfl⟩
    | ok text =>
      obtain ⟨clauses, hclauses, -⟩ := map_eq_ok_iff.mp h
      obtain ⟨columns, hcolumns, -⟩ := bind_eq_ok_iff.mp hclauses
      have hall := exists_mapM_eq_ok_iff.mp ⟨columns, hcolumns⟩
      exact absurd (exists_columnClause_iff.mp (hall c hc)) hgap

/-- Without a gap, every column has the column type of the first entry for its type. -/
theorem createTable_eq_ok_iff {text : String} :
    f.createTable s = .ok text ↔
      (∀ c ∈ s.columns, f.types.FirstEntry c.type (f.literal c.type)) ∧
        text = statement s.name (f.clauseTexts s) := by
  constructor
  · intro h
    have hcovers : ∀ c ∈ s.columns, f.types.Covers c.type := by
      by_contra hgap
      push Not at hgap
      obtain ⟨e, he⟩ := exists_createTable_error_iff.mpr hgap
      rw [h] at he
      cases he
    refine ⟨fun c hc => firstEntry_literal (hcovers c hc), ?_⟩
    rw [createTable_of_covers hcovers] at h
    exact (Except.ok.inj h).symm
  · rintro ⟨hentries, rfl⟩
    exact createTable_of_covers fun c hc => ⟨_, (hentries c hc).mem⟩

end Flavor

/-! ## Records -/

namespace RecordDescription

/-- The column is the one that the field describes. -/
structure Describes (f : FieldDescription) (c : Column) : Prop where
  name_eq : c.name = f.name
  type_eq : c.type.name = f.type
  nullable_eq : c.nullable = f.nullable

theorem Describes.hasKnownType {f : FieldDescription} {c : Column} (h : Describes f c) :
    HasKnownType f :=
  List.mem_map.mpr ⟨c.type, FieldType.mem_all c.type, h.type_eq⟩

theorem column_eq_ok_iff {f : FieldDescription} {c : Column} :
    column f = .ok c ↔ Describes f c := by
  constructor
  · intro h
    by_cases hknown : HasKnownType f
    · obtain ⟨type, htype⟩ := FieldType.exists_ofName?_eq hknown
      rw [column_of_ofName? htype] at h
      obtain rfl := Except.ok.inj h
      exact ⟨rfl, FieldType.name_of_ofName? htype, rfl⟩
    · rw [column_of_unknown hknown] at h
      cases h
  · rintro ⟨hname, htype, hnull⟩
    have hof : FieldType.ofName? f.type = some c.type := by
      rw [← htype, FieldType.ofName?_name]
    rw [column_of_ofName? hof, ← hname, ← hnull]

theorem column_eq_error_iff {f : FieldDescription} {e : Error} :
    column f = .error e ↔ ¬ HasKnownType f ∧ e = .unknownFieldType f.type := by
  by_cases hknown : HasKnownType f
  · obtain ⟨type, htype⟩ := FieldType.exists_ofName?_eq hknown
    rw [column_of_ofName? htype]
    simp [hknown]
  · rw [column_of_unknown hknown]
    simp [hknown, eq_comm]

theorem mapM_column_eq_ok_iff {fields : List FieldDescription} {columns : List Column} :
    fields.mapM column = .ok columns ↔ List.Forall₂ Describes fields columns := by
  rw [mapM_eq_ok_iff_forall₂]
  simp only [column_eq_ok_iff]

variable {r : RecordDescription}

/-- **A record is analyzed exactly when its columns can be read and make a valid table.** -/
theorem exists_analyze_iff :
    (∃ s, r.analyze = .ok s) ↔
      ∃ columns, List.Forall₂ Describes r.fields columns ∧
        Draft.Valid ⟨r.name, columns, r.key, r.constraints⟩ := by
  constructor
  · rintro ⟨s, h⟩
    obtain ⟨columns, hcolumns, hbuild⟩ := exists_build_of_analyze h
    exact ⟨columns, mapM_column_eq_ok_iff.mp hcolumns, (Draft.build_eq_ok_iff.mp hbuild).1⟩
  · rintro ⟨columns, hdescribed, hvalid⟩
    refine ⟨⟨_, hvalid⟩, ?_⟩
    unfold analyze
    rw [mapM_column_eq_ok_iff.mpr hdescribed, ok_bind]
    exact Draft.build_eq_ok_iff.mpr ⟨hvalid, rfl⟩

/-- A type that analysis does not know is the tag name of a field, and not one of the known. -/
theorem unknown_of_analyze_eq_error {name : String}
    (h : r.analyze = .error (.unknownFieldType name)) :
    ∃ f ∈ r.fields, f.type = name ∧ ¬ HasKnownType f := by
  unfold analyze at h
  rcases bind_eq_error_iff.mp h with hcolumns | ⟨columns, -, hbuild⟩
  · obtain ⟨f, hf, hfails⟩ := exists_of_mapM_eq_error hcolumns
    obtain ⟨hunknown, hname⟩ := column_eq_error_iff.mp hfails
    cases hname
    exact ⟨f, hf, rfl, hunknown⟩
  · obtain ⟨fault, -, hfault⟩ := mapError_eq_error_iff.mp hbuild
    cases hfault

end RecordDescription

/-! ## Rendering as a whole -/

namespace Flavor

open RecordDescription

variable {d : Dialect} {r : RecordDescription}

theorem exists_createTableFrom_record_iff :
    (∃ text, d.flavor.createTableFrom (.record r) = .ok text) ↔
      (∀ field ∈ r.fields, HasKnownType field) ∧
        ∃ columns, List.Forall₂ Describes r.fields columns ∧
          Draft.Valid ⟨r.name, columns, r.key, r.constraints⟩ := by
  have hanalyze : (∃ text, d.flavor.createTableFrom (.record r) = .ok text) ↔
      ∃ s, r.analyze = .ok s := by
    simp only [(complete_dialect d).createTableFrom_eq_ok_iff]
    constructor
    · rintro ⟨_, s, hs, -⟩
      exact ⟨s, hs⟩
    · rintro ⟨s, hs⟩
      exact ⟨_, s, hs, rfl⟩
  rw [hanalyze, exists_analyze_iff, iff_and_self]
  rintro ⟨columns, hdescribed, -⟩ field hfield
  obtain ⟨c, hc⟩ := exists_mapM_eq_ok_iff.mp ⟨columns, mapM_column_eq_ok_iff.mpr hdescribed⟩
    field hfield
  exact (column_eq_ok_iff.mp hc).hasKnownType

/-- **Rendering fails at the first column whose type has no entry**, whatever the key and the
constraints are, and with the tag name of that type; when it succeeds, the statement lists the
columns, the key and the constraints, and every column has the column type of the first entry for its
type. The three dialects have an entry for every type, so they render every table, and a record
exactly when its tag names are known and its table is valid; an unknown type that they report is none
of the known. -/
theorem rendering_fails_at_first_gap (f : Flavor) (s : Specification) :
    ((∃ e, f.createTable s = .error e) ↔ ∃ c ∈ s.columns, ¬ f.types.Covers c.type) ∧
      (∀ e, f.createTable s = .error e ↔
        ∃ c, f.FirstGap s.columns c ∧ e = .unknownFieldType c.type.name) ∧
      (∀ text, f.createTable s = .ok text ↔
        (∀ c ∈ s.columns, f.types.FirstEntry c.type (f.literal c.type)) ∧
          text = "CREATE TABLE " ++ s.name ++ " (" ++ ", ".intercalate
            ((s.columns.map fun c => f.quoteName c.name ++ " " ++ f.literal c.type ++ " " ++
                if c.nullable then "NULL DEFAULT NULL" else "NOT NULL") ++
              ("PRIMARY KEY (" ++ f.quoteNames s.key ++ ")") ::
                s.constraints.map f.constraintClause) ++ ")") ∧
      ∀ d : Dialect,
        (∃ text, d.flavor.createTable s = .ok text) ∧
          ∀ r : RecordDescription,
            ((∃ text, d.flavor.createTableFrom (.record r) = .ok text) ↔
              (∀ field ∈ r.fields, HasKnownType field) ∧
                ∃ columns, List.Forall₂ Describes r.fields columns ∧
                  Draft.Valid ⟨r.name, columns, r.key, r.constraints⟩) ∧
              ∀ name, d.flavor.createTableFrom (.record r) = .error (.unknownFieldType name) →
                name ∉ FieldType.all.map FieldType.name := by
  refine ⟨exists_createTable_error_iff, fun e => createTable_eq_error_iff,
    fun text => createTable_eq_ok_iff, fun d => ?_⟩
  have hcomplete := complete_dialect d
  refine ⟨⟨_, hcomplete.createTable_eq s⟩, fun r => ⟨exists_createTableFrom_record_iff, ?_⟩⟩
  intro name h
  obtain ⟨field, -, rfl, hunknown⟩ :=
    unknown_of_analyze_eq_error (hcomplete.createTableFrom_eq_error_iff.mp h)
  exact hunknown

/-- A dialect with two entries for one type and none for most. -/
def gappy : Flavor :=
  { name := "gappy", types := [(.uuid, "CHAR(36)"), (.string, "CLOB"), (.uuid, "RAW(16)")] }

/-- A table whose second column has no column type there, and neither has its third. -/
def noted : Specification :=
  ⟨⟨"notes", [⟨"id", .uuid, false⟩, ⟨"line", .text, false⟩, ⟨"done", .boolean, true⟩], ["id"], []⟩,
    Draft.valid_of_fault?_eq_none (by decide)⟩

/-- The same table without these two columns, but with one of a type that is covered. -/
def titled : Specification :=
  ⟨⟨"notes", [⟨"id", .uuid, false⟩, ⟨"title", .string, true⟩], ["id"], []⟩,
    Draft.valid_of_fault?_eq_none (by decide)⟩

/-- The earlier of two gaps is reported; a record is refused for a tag name in small letters. Without
a gap, the first of two entries for a type is taken. -/
theorem rendering_fails_at_text_column :
    gappy.createTable noted = .error (.unknownFieldType "Text") ∧
      (∃ name, Dialect.sqlite.flavor.createTableFrom
          (.record ⟨"notes", [⟨"id", "uuid", false, true⟩], none, []⟩) =
            .error (.unknownFieldType name) ∧
        name ∉ FieldType.all.map FieldType.name) ∧
      gappy.createTable titled =
        .ok ("CREATE TABLE notes (\x60id\x60 CHAR(36) NOT NULL, " ++
          "\x60title\x60 CLOB NULL DEFAULT NULL, PRIMARY KEY (\x60id\x60))") := by
  obtain ⟨-, hgap, -, hdialects⟩ := rendering_fails_at_first_gap gappy noted
  obtain ⟨-, -, hrendered, -⟩ := rendering_fails_at_first_gap gappy titled
  have hcovers : ∀ b ∈ [(⟨"id", .uuid, false⟩ : Column)], gappy.types.Covers b.type :=
    List.forall_mem_singleton.mpr ⟨"CHAR(36)", List.mem_cons_self⟩
  have htext : ¬ gappy.types.Covers .text := by
    rw [← TypeTable.lookup_eq_none_iff]
    rfl
  have hrecord : Dialect.sqlite.flavor.createTableFrom
      (.record ⟨"notes", [⟨"id", "uuid", false, true⟩], none, []⟩) =
        .error (.unknownFieldType "uuid") := rfl
  have huuid : gappy.types.FirstEntry .uuid "CHAR(36)" := ⟨[], _, rfl, nofun⟩
  have hstring : gappy.types.FirstEntry .string "CLOB" :=
    ⟨[(.uuid, "CHAR(36)")], _, rfl, by decide⟩
  refine ⟨(hgap _).mpr ⟨⟨"line", .text, false⟩, ⟨_, _, rfl, hcovers, htext⟩, rfl⟩,
    ⟨"uuid", hrecord, ((hdialects .sqlite).2 _).2 "uuid" hrecord⟩, (hrendered _).mpr ⟨?_, rfl⟩⟩
  exact List.forall_mem_cons.mpr ⟨huuid, List.forall_mem_singleton.mpr hstring⟩

end Flavor

end TableScript

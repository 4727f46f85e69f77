import TableScript.Proofs.Loading
import TableScript.Proofs.Reporting

/-!
# Scripts and tables agree

A script that creates a database and the tables that are rendered one by one come from the same
files in two ways. Both load the same records and render the same tables, so they fail with the same
error or show the same statements.

Results:
* `Report.toText_tables`, `Report.toText_script`: with at least one statement, the text of a report
  is a script.
* `Report.toText_script_append`: with at least one table, the two texts differ by the line for the
  database alone, which is there only if the dialect has a statement for it.
* `init_agrees_with_createTable`: the two commands fail alike, or their reports agree in this way.
-/

namespace TableScript

/-! ## Their texts -/

theorem scriptText_cons {statement : String} {rest : List String} (h : rest ≠ []) :
    scriptText (statement :: rest) = statement ++ ";\n" ++ scriptText rest := by
  have hrest : rest.map (· ++ ";") ≠ [] := mt List.map_eq_nil_iff.mp h
  unfold scriptText
  rw [List.map_cons, String.intercalate_cons_of_ne_nil hrest]
  simp only [String.append_assoc]
  rfl

namespace Report

variable {dialect database : String} {creation? : Option String} {tables : List RenderedTable}
  {statements : List String}

theorem toText_tables (h : tables ≠ []) :
    (Report.tables dialect tables).toText = scriptText (tables.map RenderedTable.statement) := by
  cases tables with
  | nil => exact absurd rfl h
  | cons t ts => rfl

theorem toText_script (h : statements ≠ []) :
    (Report.script dialect database statements).toText = scriptText statements := by
  cases statements with
  | nil => exact absurd rfl h
  | cons s ss => rfl

/-- With at least one table, a script is the statement of the database on a line of its own, if
there is one, and then the tables. -/
theorem toText_script_append (h : tables ≠ []) :
    (Report.script dialect database
        (creation?.toList ++ tables.map RenderedTable.statement)).toText =
      creation?.elim "" (· ++ ";\n") ++ (Report.tables dialect tables).toText := by
  have htables : tables.map RenderedTable.statement ≠ [] := mt List.map_eq_nil_iff.mp h
  rw [toText_script (List.append_ne_nil_of_right_ne_nil _ htables), toText_tables h]
  cases creation? with
  | none => simp
  | some creation => exact scriptText_cons htables

end Report

/-! ## Agreement -/

/-- **A script holds the tables that are rendered one by one, or fails as they do.** Both name the
same dialect; the script has the statement of the database, if there is one, in front of the tables,
and every table begins with its name. With at least one table, the texts differ by that statement
alone, and the text of the script is that of an executor which was given its statements. -/
theorem init_agrees_with_createTable {ctx : Context} {asked : Option String} {name : String}
    (hsettings : ctx.dialect.flavor.checkSettings = .ok ())
    (hname : ctx.databaseName asked = .ok name) (hplain : Identifier.isPlain name = true)
    (files : Files) (paths : List String) :
    let init := (Command.run ctx files (.init asked paths)).result
    let createTable := (Command.run ctx files (.createTable paths)).result
    (∃ e, init = .error e ∧ createTable = .error e) ∨
      ∃ (tables : List RenderedTable) (statements : List String),
        let script := Report.script ctx.dialect.name name statements
        let rendered := Report.tables ctx.dialect.name tables
        let creation? := ctx.dialect.flavor.createDatabase? name
        init = .ok script ∧ createTable = .ok rendered ∧
          statements = creation?.toList ++ tables.map RenderedTable.statement ∧
          (∀ t ∈ tables, ∃ rest, t.statement = "CREATE TABLE " ++ t.table ++ " (" ++ rest) ∧
          (tables ≠ [] →
            script.format .table =
                creation?.elim "" (· ++ ";\n") ++ rendered.format .table ∧
              script.format .table =
                scriptText (Recorder.faithful.executeAll statements .empty).2.statements) := by
  intro init createTable
  obtain ⟨db, hdb⟩ := Database.exists_named_of_isPlain hsettings hplain
  have hinit := Command.result_runInit ctx files paths asked
  rw [hname, ok_bind] at hinit
  have htable := Command.result_runCreateTable ctx files paths
  cases hrecords : (Description.loadAll files paths).result with
  | error e =>
    rw [hrecords] at hinit htable
    exact .inl ⟨e, hinit, htable⟩
  | ok records =>
    rw [hrecords, ok_bind] at hinit htable
    rw [hdb, ok_bind] at hinit
    cases htables : records.mapM ctx.dialect.flavor.renderedTable with
    | error e =>
      rw [htables] at hinit htable
      exact .inl ⟨e, hinit, htable⟩
    | ok tables =>
      rw [htables] at hinit htable
      refine .inr ⟨tables, _, hinit, htable, rfl, ?_, fun hne => ⟨?_, ?_⟩⟩
      · exact (forall_mem_iff_of_mapM_eq_ok htables).mpr
          fun r _ t ht => Flavor.exists_statement_eq ht
      · exact Report.toText_script_append hne
      · rw [Recorder.executeAll_faithful]
        have hmap : tables.map RenderedTable.statement ≠ [] := mt List.map_eq_nil_iff.mp hne
        exact Report.toText_script (List.append_ne_nil_of_right_ne_nil _ hmap)

/-- A file with one record. -/
def singleRecord : String :=
  "\x7b\"name\":\"a\",\"fields\":[\x7b\"name\":\"id\",\"type\":\"UUID\",\"primary_key\":true\x7d]\x7d"

theorem parse_singleRecord (source : String) :
    Description.parse source singleRecord =
      .ok [⟨"a", [⟨"id", "UUID", false, true⟩], none, []⟩] := rfl

/-- One record, given twice, on a dialect with a statement for the database. -/
theorem init_agrees_on_repeated_record :
    let files : Files := fun _ => .file singleRecord.toUTF8
    let ctx : Context := ⟨.postgres "UTF8", some "app"⟩
    let table := "CREATE TABLE a (\"id\" UUID NOT NULL, PRIMARY KEY (\"id\"))"
    (Command.run ctx files (.createTable ["a.json", "a.json"])).result =
        .ok (.tables "postgres" [⟨"a", table⟩, ⟨"a", table⟩]) ∧
      (Command.run ctx files (.init none ["a.json", "a.json"])).result =
        .ok (.script "postgres" "app" ["CREATE DATABASE app ENCODING 'UTF8'", table, table]) := by
  intro files ctx table
  have hread : files.read "a.json" = .ok singleRecord := Files.read_of_text rfl
  have hload : (Description.load files "a.json").result =
      .ok [⟨"a", [⟨"id", "UUID", false, true⟩], none, []⟩] := by
    rw [Description.result_load, hread]
    exact parse_singleRecord "a.json"
  have htables : (Command.run ctx files (.createTable ["a.json", "a.json"])).result =
      .ok (.tables "postgres" [⟨"a", table⟩, ⟨"a", table⟩]) := by
    rw [Command.run, Command.result_runCreateTable, Description.result_loadAll]
    simp only [List.mapM_cons, hload]
    rfl
  refine ⟨htables, ?_⟩
  have hsettings : ctx.dialect.flavor.checkSettings = .ok () := rfl
  have hname : ctx.databaseName none = .ok "app" := rfl
  have hagree := init_agrees_with_createTable hsettings hname (by decide) files
    ["a.json", "a.json"]
  obtain ⟨e, -, h⟩ | ⟨tables, statements, hinit, h, rfl, -, -⟩ := hagree
  · rw [htables] at h
    cases h
  · rw [htables] at h
    cases h
    exact hinit

end TableScript

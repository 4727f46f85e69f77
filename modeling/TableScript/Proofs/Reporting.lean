import TableScript.Command
import TableScript.Proofs.Acceptance
import TableScript.Proofs.Creation
import TableScript.Proofs.Traversal

/-!
# What the commands report

The results of the commands as plain steps, without their logs: which names, files and databases are
looked at, in which order, and what the report then holds.

Results:
* `Flavor.mapM_createTableFrom_record`: tables that are rendered for a script and tables that are
  rendered with their names (`Flavor.renderedTable`) come out the same.
* `Flavor.exists_statement_eq`: the statement of a record begins with the name of the record.
* `Command.result_runCreateTable`, `Command.result_runInit`, `Command.result_runDrop`: the three
  commands whose reports hold statements.
-/

namespace TableScript

/-! ## Tables with their names -/

/-- Working through a list with a label for every result changes neither the results nor the first
failure. -/
theorem mapM_labelled {α β γ ε : Type} {g : α → Except ε β} {label : α → β → γ} {view : γ → β}
    (hview : ∀ a b, view (label a b) = b) (xs : List α) :
    xs.mapM g = (xs.mapM fun a => (g a).map (label a)).map (List.map view) := by
  induction xs with
  | nil => rfl
  | cons x xs ih =>
    rw [List.mapM_cons, List.mapM_cons, ih]
    cases g x with
    | error e => rfl
    | ok b =>
      cases xs.mapM fun a => (g a).map (label a) with
      | error e => rfl
      | ok cs =>
        show Except.ok (b :: cs.map view) = Except.ok (view (label x b) :: cs.map view)
        rw [hview]

namespace Flavor

/-- The table of a record, rendered. -/
def renderedTable (f : Flavor) (r : RecordDescription) : Except Error RenderedTable :=
  (f.createTableFrom (.record r)).map (RenderedTable.mk r.name)

/-- Records are rendered with their names or without, to the same statements. -/
theorem mapM_createTableFrom_record (f : Flavor) (records : List RecordDescription) :
    (records.map TableSource.record).mapM f.createTableFrom =
      (records.mapM f.renderedTable).map (List.map RenderedTable.statement) := by
  rw [List.mapM_map]
  exact mapM_labelled (fun _ _ => rfl) records

/-- The statement of a record begins with the name of the record. -/
theorem exists_statement_eq {f : Flavor} {r : RecordDescription} {t : RenderedTable}
    (h : f.renderedTable r = .ok t) :
    ∃ rest, t.statement = "CREATE TABLE " ++ t.table ++ " (" ++ rest := by
  obtain ⟨text, htext, rfl⟩ := map_eq_ok_iff.mp h
  obtain ⟨s, hs, htable⟩ := bind_eq_ok_iff.mp htext
  obtain ⟨clauses, -, rfl⟩ := map_eq_ok_iff.mp htable
  obtain ⟨hname, -, -⟩ := RecordDescription.parts_of_analyze hs
  refine ⟨", ".intercalate clauses ++ ")", ?_⟩
  rw [← hname]
  exact String.append_assoc

end Flavor

/-! ## The commands -/

namespace Command

variable (ctx : Context) (files : Files) (paths : List String)

/-- The tables, one for every record in the files. -/
theorem result_runCreateTable :
    (runCreateTable ctx files paths).result = do
      let records ← (Description.loadAll files paths).result
      let tables ← records.mapM ctx.dialect.flavor.renderedTable
      return .tables ctx.dialect.name tables := by
  have heach : ∀ r : RecordDescription,
      (do
        let statement ← ctx.dialect.flavor.renderTable (.record r)
        return (⟨r.name, statement⟩ : RenderedTable) : Logged Error RenderedTable).result =
        ctx.dialect.flavor.renderedTable r := by
    intro r
    rw [Logged.result_bind, Flavor.result_renderTable, Flavor.renderedTable]
    cases ctx.dialect.flavor.createTableFrom (.record r) <;> rfl
  unfold runCreateTable
  simp only [Logged.result_bind, Logged.result_mapM, Logged.result_pure] at heach ⊢
  simp only [heach]
  rfl

/-- The script, of the statement for the database and one for every record in the files. The name is
looked at when the files are loaded, and before any table is rendered. -/
theorem result_runInit (asked : Option String) :
    (runInit ctx files asked paths).result = do
      let name ← ctx.databaseName asked
      let records ← (Description.loadAll files paths).result
      let _ ← Database.named ctx.dialect name
      let tables ← records.mapM ctx.dialect.flavor.renderedTable
      return .script ctx.dialect.name name
        ((ctx.dialect.flavor.createDatabase? name).toList ++ tables.map RenderedTable.statement) := by
  unfold runInit
  simp only [Logged.result_bind, Logged.result_of]
  refine bind_congr fun name => bind_congr fun records => ?_
  cases hdb : Database.named ctx.dialect name with
  | error e => rfl
  | ok db =>
    obtain ⟨hdialect, hdbname⟩ := Database.named_eq_ok hdb
    have hflavor : db.flavor = ctx.dialect.flavor := congrArg Dialect.flavor hdialect
    have htables := db.flavor.mapM_createTableFrom_record records
    simp only [ok_bind, ← hflavor]
    cases hrendered : records.mapM db.flavor.renderedTable with
    | error e =>
      rw [hrendered] at htables
      obtain ⟨hresult, -⟩ := db.create_of_error Recorder.faithful .empty htables
      rw [scriptReport, hresult]
      rfl
    | ok tables =>
      rw [hrendered] at htables
      obtain ⟨hresult, hstate⟩ := db.create_of_ok Recorder.faithful .empty htables
      rw [Recorder.executeAll_faithful] at hresult hstate
      rw [scriptReport, hresult, hstate, hdialect, hdbname]
      rfl

/-- The script of the statement that drops the database, or of none. -/
theorem result_runDrop (asked : Option String) :
    (runDrop ctx asked).result = do
      let name ← ctx.databaseName asked
      let _ ← Database.named ctx.dialect name
      return .script ctx.dialect.name name (ctx.dialect.flavor.dropDatabase? name).toList := by
  unfold runDrop
  simp only [Logged.result_bind, Logged.result_of]
  refine bind_congr fun name => ?_
  cases hdb : Database.named ctx.dialect name with
  | error e => rfl
  | ok db =>
    obtain ⟨hdialect, hdbname⟩ := Database.named_eq_ok hdb
    have hflavor : db.flavor = ctx.dialect.flavor := congrArg Dialect.flavor hdialect
    have hdrop : (scriptReport db (db.drop Recorder.faithful Recorder.empty)).result =
        .ok (.script ctx.dialect.name name (ctx.dialect.flavor.dropDatabase? name).toList) := by
      unfold scriptReport Database.drop
      rw [hflavor, hdialect, hdbname]
      cases ctx.dialect.flavor.dropDatabase? name <;> rfl
    rw [ok_bind, ok_bind, hdrop, ok_bind]
    split <;> rfl

end Command

end TableScript

import TableScript.Log
import TableScript.Script
import TableScript.Statement

/-!
# Creating and dropping a database

A `Database` is a database that statements may name: its name and the settings of its dialect are
plain. Creating it renders every table before the first statement is executed, so a table that
cannot be rendered leaves the executor as it was.

* `Database.named` looks at the settings before it looks at the name.
* `Database.create` executes the statement of the database, where the dialect has one, and then
  those of the tables; `Database.drop` executes the statement that drops it and tells whether there
  is one.
* `Database.Step` is what either leaves: a result, the state of the executor, and the log.
-/

namespace TableScript

/-- The statement of a table, with a record of it. -/
def Flavor.renderTable (f : Flavor) (source : TableSource) : Logged Error String := do
  let s ← Logged.of source.analyze
  let clauses ← Logged.of (f.clauses s)
  Logged.note .debug .statements
    ("Rendered " ++ f.name ++ " table '" ++ s.name ++ "' (" ++ clauses.length.repr ++ " clauses)")
  return Flavor.statement s.name clauses

@[simp] theorem Flavor.result_renderTable (f : Flavor) (source : TableSource) :
    (f.renderTable source).result = f.createTableFrom source := by
  unfold Flavor.renderTable Flavor.createTableFrom Flavor.createTable
  simp only [Logged.result_bind, Logged.result_of, Logged.result_note, Logged.result_pure]
  cases source.analyze with
  | error e => rfl
  | ok s => cases h : f.clauses s <;> simp [bind, Except.bind, Except.map, h]

structure Database where
  dialect : Dialect
  name : String
  settings_plain : dialect.flavor.unplainSetting? = none
  name_plain : Identifier.isPlain name = true

namespace Database

/-- The database of that name, if the dialect's settings and the name are plain. -/
def named (d : Dialect) (name : String) : Except Error Database :=
  match hs : d.flavor.unplainSetting? with
  | some s => .error (.invalidSetting s.1 s.2)
  | none =>
    if hn : Identifier.isPlain name = true then .ok ⟨d, name, hs, hn⟩
    else .error (.invalidDatabaseName name)

def flavor (db : Database) : Flavor := db.dialect.flavor

/-- What a step did: its result, the executor after it, and the records it made. -/
structure Step (σ α : Type) where
  result : Except Error α
  state : σ
  log : List Log.Record

/-- Create the database, if the dialect has a statement for it, and the tables in order. The result
is the number of tables. -/
def create {σ : Type} (db : Database) (execute : Executor σ) (sources : List TableSource)
    (state : σ) : Step σ Nat :=
  let rendered := sources.mapM db.flavor.renderTable
  match rendered.result with
  | .error e => ⟨.error e, state, rendered.log⟩
  | .ok tables =>
    let creation := (db.flavor.createDatabase? db.name).toList
    let log := rendered.log ++
      creation.map fun _ => ⟨.info, .database, "Creating database " ++ db.name⟩
    match execute.executeAll (creation ++ tables) state with
    | (.error e, state) => ⟨.error e, state, log⟩
    | (.ok (), state) =>
      let done := "Created " ++ tables.length.repr ++ " table(s) in " ++ db.name ++
        " (" ++ db.flavor.name ++ ")"
      ⟨.ok tables.length, state, log ++ [⟨.info, .database, done⟩]⟩

/-- Drop the database. The result is whether the dialect has a statement for it. -/
def drop {σ : Type} (db : Database) (execute : Executor σ) (state : σ) : Step σ Bool :=
  match db.flavor.dropDatabase? db.name with
  | none => ⟨.ok false, state, []⟩
  | some statement =>
    let log := [⟨.info, .database, "Dropping database " ++ db.name⟩]
    match execute statement state with
    | (.error e, state) => ⟨.error e, state, log⟩
    | (.ok (), state) => ⟨.ok true, state, log⟩

end Database

end TableScript

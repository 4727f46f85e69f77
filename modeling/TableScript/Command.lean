import TableScript.Load
import TableScript.Report

/-!
# Commands

The four commands and what each reports. Every command works in a `Context`: the dialect to use and
the name of the configured database.

* `Context.ofConfiguration` takes the context from a configuration, or from the defaults where there
  is none; a dialect that is asked for comes before the configured one.
* `Command.runCreateTable` loads all files before it renders any table.
* `Command.runInit` wants a name for the database before it loads any file, and looks whether this
  is plain before it renders any table. The statements are executed on a recorder, and reported.
  `Command.runDrop` does so for the statement that drops the database.
* `Command.runTypes` reads no files and cannot fail where every logical type has a column type.
* `Command.run` picks among them. What they log stands beside the result and does not decide it.
-/

namespace TableScript

inductive Command where
  | createTable (files : List String)
  | init (database : Option String) (files : List String)
  | drop (database : Option String)
  | types
  deriving DecidableEq

/-- What flags and configuration settle for every command. -/
structure Context where
  dialect : Dialect := default
  database : Option String := none
  deriving DecidableEq

namespace Context

/-- The name of the database: the one that is asked for, else the configured one. -/
def databaseName (ctx : Context) (asked : Option String) : Except Error String :=
  match asked.or ctx.database with
  | some name => .ok name
  | none => .error .noDatabaseName

/-- The context that a configuration and an asked-for dialect make. -/
def ofConfiguration (c? : Option Configuration) (asked : Option DialectKind) : Context :=
  ⟨Configuration.resolveDialect c? asked, c?.bind (·.database)⟩

end Context

namespace Command

/-- Tables one by one, as soon as every file is loaded. -/
def runCreateTable (ctx : Context) (files : Files) (paths : List String) :
    Logged Error Report := do
  let records ← Description.loadAll files paths
  let tables ← records.mapM fun r => do
    let statement ← ctx.dialect.flavor.renderTable (.record r)
    return (⟨r.name, statement⟩ : RenderedTable)
  return .tables ctx.dialect.name tables

/-- The report of the statements that a step of a database gave a recorder. -/
def scriptReport {α : Type} (db : Database) (step : Database.Step Recorder α) :
    Logged Error Report :=
  ⟨step.result.map fun _ => .script db.dialect.name db.name step.state.statements, step.log⟩

/-- The script that creates the database and all tables. -/
def runInit (ctx : Context) (files : Files) (asked : Option String) (paths : List String) :
    Logged Error Report := do
  let name ← Logged.of (ctx.databaseName asked)
  let records ← Description.loadAll files paths
  let db ← Logged.of (Database.named ctx.dialect name)
  scriptReport db (db.create Recorder.faithful (records.map .record) Recorder.empty)

/-- The script that drops the database, with a warning when there is no statement for it. -/
def runDrop (ctx : Context) (asked : Option String) : Logged Error Report := do
  let name ← Logged.of (ctx.databaseName asked)
  let db ← Logged.of (Database.named ctx.dialect name)
  let step := db.drop Recorder.faithful Recorder.empty
  let report ← scriptReport db step
  if step.result.toOption = some false then
    Logged.note .warn .dropping
      (ctx.dialect.name ++ " has no drop statement for " ++ name)
  return report

/-- The column type of every logical type. -/
def runTypes (ctx : Context) : Except Error Report := do
  let rows ← FieldType.all.mapM fun type => do
    return (type, ← ctx.dialect.flavor.physicalType type)
  return .types ctx.dialect.name rows

def run (ctx : Context) (files : Files) : Command → Logged Error Report
  | createTable paths => runCreateTable ctx files paths
  | init asked paths => runInit ctx files asked paths
  | drop asked => runDrop ctx asked
  | types => Logged.of (runTypes ctx)

end Command

end TableScript

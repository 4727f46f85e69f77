import TableScript.Configuration.Decode
import TableScript.Database
import TableScript.Description.Decode

/-!
# Loading files

Record descriptions and the configuration come from files. A description file must be there; without
a configuration file the defaults hold.

* `Description.load` reads and decodes one file, `Description.loadAll` several in their order, up to
  the first that is refused.
* `Configuration.load` reads, decodes and checks the configuration (`Configuration.ofText`), so that
  the settings of a loaded configuration are plain.

All of them note in the log what they do.
-/

namespace TableScript

/-- The descriptions in the file at a path, with a record of how many there are. -/
def Description.load (files : Files) (path : String) : Logged Error (List RecordDescription) := do
  let content ← Logged.of ((files.read path).mapError (.unreadableFile path))
  let records ← Logged.of (Description.parse path content)
  Logged.note .debug .descriptions
    ("Loaded " ++ records.length.repr ++ " record description(s) from " ++ path)
  return records

/-- The descriptions in several files, in the order of the files and of each file. -/
def Description.loadAll (files : Files) (paths : List String) :
    Logged Error (List RecordDescription) :=
  List.flatten <$> paths.mapM (Description.load files)

namespace Configuration

/-- Where the configuration is unless it is said to be elsewhere. -/
def defaultPath : String := ".schema_ddl.json"

/-- The text of a configuration file, read and checked: its settings must be plain. -/
def ofText (path content : String) : Except Error Configuration := do
  let c ← (parse content).mapError (.invalidConfiguration path)
  c.dialect.check
  return c

/-- The configuration in the file at a path, if there is one. -/
def load (files : Files) (path : String) : Logged Error (Option Configuration) :=
  if files.has path then
    Logged.of do
      let content ← (files.read path).mapError (.unreadableFile path)
      some <$> ofText path content
  else do
    Logged.note .debug .configuration ("No config file at " ++ path ++ ", using defaults")
    return none

end Configuration

end TableScript

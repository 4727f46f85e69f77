import TableScript.FieldType
import TableScript.Json.Printer
import TableScript.Script
import TableScript.Toon

/-!
# Reports

What a command has to say: rendered tables, a script for a database, or the type table of a dialect.
A report is written for people, as JSON, or as TOON. JSON has the fields in the order of the report,
TOON in the order of the alphabet.

* `Report.toText` is a script that can be executed as it stands, except for the type table, which is
  set in two columns. A report without statements says so in a sentence.
* `Report.toJson` and `Report.toToon` have an entry for every field of the report, the texts as they
  are.
* `Report.format` picks among the three.
-/

namespace TableScript

inductive OutputFormat where
  | table
  | json
  | toon
  deriving DecidableEq

namespace OutputFormat

def all : List OutputFormat := [.table, .json, .toon]

def name : OutputFormat → String
  | .table => "table"
  | .json => "json"
  | .toon => "toon"

def ofName? (s : String) : Option OutputFormat := all.find? fun f => f.name == s

end OutputFormat

/-- One table and its statement. -/
structure RenderedTable where
  table : String
  statement : String
  deriving DecidableEq

inductive Report where
  | tables (dialect : String) (tables : List RenderedTable)
  | script (dialect database : String) (statements : List String)
  | types (dialect : String) (rows : List (FieldType × String))
  deriving DecidableEq

namespace Report

/-! ## For people -/

/-- The width of the column of logical types: of its head, or of the longest name. -/
def typeWidth (rows : List (FieldType × String)) : Nat :=
  rows.foldl (fun width row => max width row.1.name.utf8ByteSize) "Logical".utf8ByteSize

/-- A line of the type table. -/
def typeLine (width : Nat) (logical physical : String) : String :=
  "  " ++ logical ++ "".pushn ' ' (width - logical.length) ++ "  " ++ physical

/-- Tables and scripts are scripts, with a comment in place of an empty one. -/
def toText : Report → String
  | tables _ [] => "-- No record descriptions found."
  | tables _ ts => scriptText (ts.map (·.statement))
  | script dialect database [] =>
    "-- " ++ dialect ++ " has no statements for database " ++ database
  | script _ _ statements => scriptText statements
  | types dialect rows =>
    let width := typeWidth rows
    "\n".intercalate
      (["Types (" ++ dialect ++ "):", "", typeLine width "Logical" "Column"] ++
        rows.map fun row => typeLine width row.1.name row.2)

/-! ## For machines -/

def toJson : Report → Json.Value
  | tables dialect ts =>
    .object [("dialect", .string dialect),
      ("tables", .array (ts.map fun t =>
        .object [("table", .string t.table), ("ddl", .string t.statement)]))]
  | script dialect database statements =>
    .object [("dialect", .string dialect), ("database", .string database),
      ("statements", .array (statements.map .string))]
  | types dialect rows =>
    .object [("dialect", .string dialect),
      ("types", .array (rows.map fun row =>
        .object [("logical", .string row.1.name), ("physical", .string row.2)]))]

def toToon : Report → Toon.Document
  | tables dialect ts =>
    [("dialect", .text dialect),
      ("tables", .table ["ddl", "table"] (ts.map fun t => [t.statement, t.table]))]
  | script dialect database statements =>
    [("database", .text database), ("dialect", .text dialect), ("statements", .list statements)]
  | types dialect rows =>
    [("dialect", .text dialect),
      ("types", .table ["logical", "physical"] (rows.map fun row => [row.1.name, row.2]))]

def format (r : Report) : OutputFormat → String
  | .table => r.toText
  | .json => String.ofList (Json.pretty 0 r.toJson)
  | .toon => String.ofList (Toon.encode r.toToon)

end Report

end TableScript

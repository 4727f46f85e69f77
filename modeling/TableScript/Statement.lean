import TableScript.Description
import TableScript.Dialect
import TableScript.Text.Uppercase

/-!
# CREATE TABLE statements

The statement of a table lists its clauses: every column in order, the primary key, every constraint
in order. Columns are the only clauses that can fail, when the dialect has no column type for a
logical type.

* `columnClause` is the quoted name, the column type, and the NULL clause.
* `keyClause` is the key in its order, in quotes. There is one in every statement.
* `constraintClause` is the kind in upper case, the quoted columns and the extras, trimmed as a
  whole. The kind and the extras stand as they were given, and are not quoted.
* `statement` joins the clauses behind the name of the table, which is not quoted either.
* `createTable` renders a specification, and `createTableFrom` whatever can be analyzed into one.
-/

namespace TableScript.Flavor

/-- What follows the type of a column. -/
def nullClause (nullable : Bool) : String := if nullable then "NULL DEFAULT NULL" else "NOT NULL"

def columnClause (f : Flavor) (c : Column) : Except Error String := do
  let physical ← f.physicalType c.type
  return f.quoteName c.name ++ " " ++ physical ++ " " ++ nullClause c.nullable

def keyClause (f : Flavor) (key : List String) : String :=
  "PRIMARY KEY (" ++ f.quoteNames key ++ ")"

/-- Kind in upper case, columns, extras; then without the white space at either end. -/
def constraintClause (f : Flavor) (c : Constraint) : String :=
  String.ofList <| Text.trim <|
    Text.upper c.kind.toList ++ (" (" ++ f.quoteNames c.fields ++ ") ").toList ++
      (c.extras.getD "").toList

/-- Every clause of the table, in order. -/
def clauses (f : Flavor) (s : Specification) : Except Error (List String) := do
  let columns ← s.columns.mapM f.columnClause
  return columns ++ f.keyClause s.key :: s.constraints.map f.constraintClause

/-- The statement with these clauses. The table name stands as it is. -/
def statement (table : String) (clauses : List String) : String :=
  "CREATE TABLE " ++ table ++ " (" ++ ", ".intercalate clauses ++ ")"

def createTable (f : Flavor) (s : Specification) : Except Error String :=
  (f.clauses s).map (statement s.name)

/-- The statement of whatever a table can be made from. -/
def createTableFrom (f : Flavor) (source : TableSource) : Except Error String := do
  f.createTable (← source.analyze)

end TableScript.Flavor

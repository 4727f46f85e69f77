import TableScript.Error

/-!
# Record descriptions

A record description is what a user writes about one table: its fields with the tag names of their
types, and perhaps its key and constraints. `RecordDescription.analyze` makes it a table
specification: tag names become types (`FieldType.parse`), and the parts are built (`Draft.build`).

* `RecordDescription.key` is the key as given, else the fields that are marked as parts of it.
* A `TableSource` is anything that can be analyzed into a specification: a description
  (`TableSource.record`), a finished specification (`TableSource.specification`), or something else
  with an analysis of its own.
-/

namespace TableScript

/-- The type with a tag name, as given by a user. -/
def FieldType.parse (name : String) : Except Error FieldType :=
  match FieldType.ofName? name with
  | some type => .ok type
  | none => .error (.unknownFieldType name)

/-- The draft as a specification. -/
def Draft.build (d : Draft) : Except Error Specification :=
  (Specification.ofDraft d).mapError (.invalidSpecification d.name)

structure FieldDescription where
  name : String
  type : String
  nullable : Bool
  primaryKey : Bool
  deriving DecidableEq

/-- One record, described. Without a key of its own it has the fields marked `primaryKey`. -/
structure RecordDescription where
  name : String
  fields : List FieldDescription
  key? : Option (List String)
  constraints : List Constraint
  deriving DecidableEq

namespace RecordDescription

/-- The column of a field. -/
def column (f : FieldDescription) : Except Error Column := do
  let type ← FieldType.parse f.type
  return ⟨f.name, type, f.nullable⟩

/-- The key as given, else the marked fields in order. -/
def key (r : RecordDescription) : List String :=
  match r.key? with
  | some names => names
  | none => (r.fields.filter (·.primaryKey)).map (·.name)

/-- The specification of the record's table. Unknown types are found before anything else. -/
def analyze (r : RecordDescription) : Except Error Specification := do
  let columns ← r.fields.mapM column
  Draft.build ⟨r.name, columns, r.key, r.constraints⟩

end RecordDescription

/-- Something that a table can be made from. All that is known of it is what its analysis gives. -/
structure TableSource where
  analyze : Except Error Specification

namespace TableSource

def record (r : RecordDescription) : TableSource := ⟨r.analyze⟩

/-- A finished specification is analyzed as itself. -/
def specification (s : Specification) : TableSource := ⟨.ok s⟩

end TableSource

end TableScript

import TableScript.Specification

/-!
# Building a draft call by call

A draft grows by calls: columns and constraints are added at the end, and the key is replaced. Calls
are values, so that a run of them is `Draft.run`.

* `Draft.field` and `Draft.nullableField` add a column that takes no NULL, or takes it.
* `Draft.Call` names the calls, and `Draft.apply` carries one out. No call can fail: whatever is
  wrong with a draft is found when it is built.
-/

namespace TableScript

namespace Draft

/-- A table with a name and nothing else. -/
def start (name : String) : Draft := ⟨name, [], [], []⟩

def addColumn (d : Draft) (c : Column) : Draft := { d with columns := d.columns ++ [c] }

/-- One more column that does not take NULL. -/
def field (d : Draft) (name : String) (type : FieldType) : Draft :=
  d.addColumn ⟨name, type, false⟩

/-- One more column that takes NULL. -/
def nullableField (d : Draft) (name : String) (type : FieldType) : Draft :=
  d.addColumn ⟨name, type, true⟩

/-- Another key instead of the one before. -/
def keyedBy (d : Draft) (key : List String) : Draft := { d with key := key }

def addConstraint (d : Draft) (c : Constraint) : Draft :=
  { d with constraints := d.constraints ++ [c] }

/-- One step of building. -/
inductive Call where
  | field (name : String) (type : FieldType)
  | nullableField (name : String) (type : FieldType)
  | column (c : Column)
  | key (names : List String)
  | constraint (c : Constraint)
  deriving DecidableEq

def apply (d : Draft) : Call → Draft
  | .field name type => d.field name type
  | .nullableField name type => d.nullableField name type
  | .column c => d.addColumn c
  | .key names => d.keyedBy names
  | .constraint c => d.addConstraint c

/-- The draft after some more calls. -/
def run (d : Draft) (calls : List Call) : Draft := calls.foldl apply d

end Draft

end TableScript

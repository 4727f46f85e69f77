/-!
# Logical column types

The eight types that a table specification may give a column. Each dialect has its own column type
for each of them; here they have only a tag name.

Results:
* `FieldType.mem_all`: the list of types has all of them.
* `FieldType.ofName?_name` and `FieldType.name_of_ofName?`: looking a tag name up gives the type of
  that name and nothing else.
-/

namespace TableScript

inductive FieldType where
  | uuid
  | boolean
  | dateTime
  | integer
  | float
  | string
  | text
  | longText
  deriving DecidableEq

namespace FieldType

/-- Every logical type, in the order of the type tables. -/
def all : List FieldType :=
  [.uuid, .boolean, .dateTime, .integer, .float, .string, .text, .longText]

/-- The tag name in descriptions, type tables and errors. -/
def name : FieldType → String
  | .uuid => "UUID"
  | .boolean => "Boolean"
  | .dateTime => "DateTime"
  | .integer => "Integer"
  | .float => "Float"
  | .string => "String"
  | .text => "Text"
  | .longText => "LongText"

/-- The type with this tag name, letter case included. -/
def ofName? (s : String) : Option FieldType := all.find? fun t => t.name == s

theorem mem_all (t : FieldType) : t ∈ all := by cases t <;> decide

theorem ofName?_name (t : FieldType) : ofName? t.name = some t := by cases t <;> decide

theorem name_of_ofName? {s : String} {t : FieldType} (h : ofName? s = some t) : t.name = s := by
  simpa using List.find?_some h

end FieldType

end TableScript

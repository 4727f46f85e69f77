import TableScript.Files
import TableScript.Json.Error
import TableScript.Specification

/-!
# Everything that can go wrong

One constructor for every cause. `Error.message` is the sentence that the user reads;
`Error.diagnostic` is the form that the program leaves on the error stream when it gives up, with
its texts as literals, so that nothing in them can be mistaken for something else.

A draft that is refused carries its fault (`Draft.Fault`), and a text that is refused the reason why
it is, so that a cause is known by more than its sentence. An executor may fail with a sentence of
its own (`executionFailed`).
-/

namespace TableScript

inductive Error where
  | unknownFieldType (name : String)
  | invalidSpecification (table : String) (fault : Draft.Fault)
  | invalidDescription (source : String) (error : Json.Error)
  | invalidSetting (setting value : String)
  | invalidDatabaseName (name : String)
  | noDatabaseName
  | unreadableFile (path : String) (fault : ReadFault)
  | invalidConfiguration (path : String) (error : Json.Error)
  | executionFailed (reason : String)

namespace Error

/-! ## Sentences -/

def unknownFieldTypeText (name : String) : String := "Unknown field type: " ++ name

def invalidSpecificationText (table message : String) : String :=
  "Invalid specification for table '" ++ table ++ "': " ++ message

def invalidDescriptionText (source message : String) : String :=
  "Invalid record description in " ++ source ++ ": " ++ message

/-- What a plain name is made of, for whoever gave another. -/
def plainNameAdvice : String := "use letters, digits and underscores only"

def invalidSettingText (setting value : String) : String :=
  "Invalid " ++ setting ++ " '" ++ value ++ "': " ++ plainNameAdvice

def message : Error → String
  | unknownFieldType name => unknownFieldTypeText name
  | invalidSpecification table fault => invalidSpecificationText table fault.message
  | invalidDescription source error => invalidDescriptionText source error.message
  | invalidSetting setting value => invalidSettingText setting value
  | invalidDatabaseName name => "Invalid database name '" ++ name ++ "': " ++ plainNameAdvice
  | noDatabaseName =>
    "No database name given. Pass --database or set \"database\" in .schema_ddl.json"
  | unreadableFile path fault => "Failed to read " ++ path ++ ": " ++ fault.message
  | invalidConfiguration path error => "Invalid JSON in " ++ path ++ ": " ++ error.message
  | executionFailed reason => reason

/-! ## Diagnostics -/

/-- A named group of fields, each a literal. -/
def record (name : String) (fields : List (String × String)) : String :=
  name ++ " \x7b " ++
    ", ".intercalate (fields.map fun f => f.1 ++ ": " ++ Text.literal f.2) ++ " \x7d"

/-- Errors about tables and settings show their parts; any other shows its sentence as a literal. -/
def diagnostic : Error → String
  | unknownFieldType name => "UnknownFieldType(" ++ Text.literal name ++ ")"
  | invalidSpecification table fault =>
    record "InvalidSpecification" [("table", table), ("message", fault.message)]
  | invalidDescription source error =>
    record "InvalidDescription" [("source_name", source), ("message", error.message)]
  | invalidSetting setting value =>
    record "InvalidSetting" [("setting", setting), ("value", value)]
  | error => Text.literal error.message

end Error

end TableScript

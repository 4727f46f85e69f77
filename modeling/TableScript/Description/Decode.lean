import TableScript.Description
import TableScript.Json.Reader

/-!
# Record descriptions in JSON

A description is an object with the keys `name`, `fields`, `id_fields` and `constraints`, or the
array of these parts; a text holds one description or an array of them. Unknown keys are passed
over, and of a repeated key the last counts. Members are decoded in the order of their keys, and
only then is a missing one noticed.

* A `Decoder` takes a value and gives the thing, or a reason why not. `string`, `boolean`, `list`
  and `optional` are the plain ones.
* `member?` looks a member up and decodes it, `part` and `part?` do so with an element of an array.
* `field`, `constraint` and `record` decode the three kinds of objects, each in both forms.
* `parse` decodes a text. Whatever is wrong with it is reported together with the source.
-/

namespace TableScript.Description

open Json (Value Reason lookup?)

/-- What a value says, or why it says nothing. -/
abbrev Decoder (α : Type) := Value → Except Reason α

def string : Decoder String
  | .string s => .ok s
  | v => .error (.wrongType v.found "a string")

def boolean : Decoder Bool
  | .boolean b => .ok b
  | v => .error (.wrongType v.found "a boolean")

/-- A list of things of one kind. -/
def list {α : Type} (item : Decoder α) : Decoder (List α)
  | .array vs => vs.mapM item
  | v => .error (.wrongType v.found "a sequence")

/-- Something, or null. -/
def optional {α : Type} (item : Decoder α) : Decoder (Option α)
  | .null => .ok none
  | v => some <$> item v

/-- The member with the key, if the object has one. -/
def member? {α : Type} (ms : List (String × Value)) (key : String) (item : Decoder α) :
    Except Reason (Option α) :=
  match lookup? key ms with
  | none => .ok none
  | some v => some <$> item v

/-- The part at a place of an array, if it is that long. -/
def part? {α : Type} (vs : List Value) (i : Nat) (item : Decoder α) : Except Reason (Option α) :=
  match vs[i]? with
  | none => .ok none
  | some v => some <$> item v

/-- The part at a place of an array that must be that long. -/
def part {α : Type} (wanted : String) (vs : List Value) (i : Nat) (item : Decoder α) :
    Except Reason α :=
  match vs[i]? with
  | none => .error (.wrongLength i wanted)
  | some v => item v

/-- An array has no parts beyond the known ones. -/
def noMore (vs : List Value) (known : Nat) : Except Reason Unit :=
  if known < vs.length then .error (.wrongLength vs.length "fewer elements in array") else .ok ()

/-- A member that must be there. -/
def required {α : Type} (key : String) : Option α → Except Reason α
  | some a => .ok a
  | none => .error (.missingField key)

/-! ## Fields -/

def fieldOfMembers (ms : List (String × Value)) : Except Reason FieldDescription := do
  let name ← member? ms "name" string
  let nullable ← member? ms "nullable" boolean
  let primaryKey ← member? ms "primary_key" boolean
  let type ← member? ms "type" string
  let name ← required "name" name
  let type ← required "type" type
  return ⟨name, type, nullable.getD false, primaryKey.getD false⟩

def fieldOfParts (vs : List Value) : Except Reason FieldDescription := do
  let wanted := "struct FieldDescription with 4 elements"
  let name ← part wanted vs 0 string
  let type ← part wanted vs 1 string
  let nullable ← part? vs 2 boolean
  let primaryKey ← part? vs 3 boolean
  noMore vs 4
  return ⟨name, type, nullable.getD false, primaryKey.getD false⟩

def field : Decoder FieldDescription
  | .object ms => fieldOfMembers ms
  | .array vs => fieldOfParts vs
  | v => .error (.wrongType v.found "struct FieldDescription")

/-! ## Constraints -/

def constraintOfMembers (ms : List (String × Value)) : Except Reason Constraint := do
  let extras ← member? ms "extras" (optional string)
  let fields ← member? ms "fields" (list string)
  let kind ← member? ms "type" string
  let kind ← required "type" kind
  let fields ← required "fields" fields
  return ⟨kind, fields, extras.join⟩

def constraintOfParts (vs : List Value) : Except Reason Constraint := do
  let wanted := "struct ConstraintDescription with 3 elements"
  let kind ← part wanted vs 0 string
  let fields ← part wanted vs 1 (list string)
  let extras ← part? vs 2 (optional string)
  noMore vs 3
  return ⟨kind, fields, extras.join⟩

def constraint : Decoder Constraint
  | .object ms => constraintOfMembers ms
  | .array vs => constraintOfParts vs
  | v => .error (.wrongType v.found "struct ConstraintDescription")

/-! ## Records -/

def recordOfMembers (ms : List (String × Value)) : Except Reason RecordDescription := do
  let constraints ← member? ms "constraints" (list constraint)
  let fields ← member? ms "fields" (list field)
  let key ← member? ms "id_fields" (optional (list string))
  let name ← member? ms "name" string
  let name ← required "name" name
  let fields ← required "fields" fields
  return ⟨name, fields, key.join, constraints.getD []⟩

def recordOfParts (vs : List Value) : Except Reason RecordDescription := do
  let wanted := "struct RecordDescription with 4 elements"
  let name ← part wanted vs 0 string
  let fields ← part wanted vs 1 (list field)
  let key ← part? vs 2 (optional (list string))
  let constraints ← part? vs 3 (list constraint)
  noMore vs 4
  return ⟨name, fields, key.join, constraints.getD []⟩

def record : Decoder RecordDescription
  | .object ms => recordOfMembers ms
  | .array vs => recordOfParts vs
  | v => .error (.wrongType v.found "struct RecordDescription")

/-- An array holds a description in every place; any other value is one description. -/
def records : Decoder (List RecordDescription)
  | .array vs => vs.mapM record
  | v => (fun r => [r]) <$> record v

/-- The descriptions in a text; the source is only named in errors. -/
def parse (source content : String) : Except Error (List RecordDescription) :=
  match Json.read content with
  | .error e => .error (.invalidDescription source e)
  | .ok v => (records v).mapError fun reason => .invalidDescription source ⟨reason, none⟩

end TableScript.Description

import TableScript.Json.Value
import TableScript.Text.Literal

/-!
# What can be wrong with a JSON text

A `Reason` is a fault of the text itself (`trailingComma`) or of the value it holds (`wrongType`). A
fault of the text has a position, counted in lines from 1 and bytes of the line; a fault found after
the whole text was read has none.

* `Value.found` is what a message shows of a value: of an array or an object only that it is one, of
  any other value all of it (`Found.describe`).
* `Reason.message` is the sentence for a reason, and `Error.message` puts the position behind it.
-/

namespace TableScript.Json

/-- What stands where something else was wanted. -/
inductive Found where
  | null
  | boolean (b : Bool)
  | number (n : Number)
  | text (s : String)
  | sequence
  | map

/-- The sort of a value, as far as a diagnostic shows it. -/
def Value.found : Value → Found
  | .null => .null
  | .boolean b => .boolean b
  | .number n => .number n
  | .string s => .text s
  | .array _ => .sequence
  | .object _ => .map

def Found.describe : Found → String
  | .null => "null"
  | .boolean b => "boolean `" ++ (if b then "true" else "false") ++ "`"
  | .number n => n.describe
  | .text s => "string " ++ Text.literal s
  | .sequence => "sequence"
  | .map => "map"

inductive Reason where
  | endInValue
  | endInList
  | endInObject
  | endInString
  | colonExpected
  | listEndExpected
  | objectEndExpected
  | wordExpected
  | valueExpected
  | invalidEscape
  | invalidNumber
  | numberOutOfRange
  | controlCharacter
  | keyNotString
  | loneSurrogate
  | escapeCutShort
  | trailingComma
  | trailingCharacters
  | tooDeep
  | wrongType (found : Found) (wanted : String)
  | wrongLength (length : Nat) (wanted : String)
  | missingField (name : String)
  | duplicateField (name : String)
  | unknownVariant (name : String) (known : List String)

def Reason.message : Reason → String
  | .endInValue => "EOF while parsing a value"
  | .endInList => "EOF while parsing a list"
  | .endInObject => "EOF while parsing an object"
  | .endInString => "EOF while parsing a string"
  | .colonExpected => "expected `:`"
  | .listEndExpected => "expected `,` or `]`"
  | .objectEndExpected => "expected `,` or `\x7d`"
  | .wordExpected => "expected ident"
  | .valueExpected => "expected value"
  | .invalidEscape => "invalid escape"
  | .invalidNumber => "invalid number"
  | .numberOutOfRange => "number out of range"
  | .controlCharacter =>
    "control character (\\u0000-\\u001F) found while parsing a string"
  | .keyNotString => "key must be a string"
  | .loneSurrogate => "lone leading surrogate in hex escape"
  | .escapeCutShort => "unexpected end of hex escape"
  | .trailingComma => "trailing comma"
  | .trailingCharacters => "trailing characters"
  | .tooDeep => "recursion limit exceeded"
  | .wrongType found wanted => "invalid type: " ++ found.describe ++ ", expected " ++ wanted
  | .wrongLength length wanted => "invalid length " ++ length.repr ++ ", expected " ++ wanted
  | .missingField name => "missing field `" ++ name ++ "`"
  | .duplicateField name => "duplicate field `" ++ name ++ "`"
  | .unknownVariant name known =>
    "unknown variant `" ++ name ++ "`, expected one of " ++
      ", ".intercalate (known.map fun k => "`" ++ k ++ "`")

/-- Line, from 1, and number of bytes of that line before the place. -/
structure Position where
  line : Nat
  column : Nat
  deriving DecidableEq

structure Error where
  reason : Reason
  position : Option Position

def Error.message (e : Error) : String :=
  match e.position with
  | none => e.reason.message
  | some p =>
    e.reason.message ++ " at line " ++ p.line.repr ++ " column " ++ p.column.repr

end TableScript.Json

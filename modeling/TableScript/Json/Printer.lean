import TableScript.Json.Value

/-!
# Writing JSON

Two layouts of one text: `compact` without any blanks, and `pretty` with a line for every item and
two blanks of indentation for every level. A string escapes quotes, backslashes and controls, and
nothing else.

* `stringChar` writes one character of a string: controls that have a letter by that letter, other
  controls by their number in four digits.
* An empty array and an empty object are a pair of brackets in both layouts.
-/

namespace TableScript.Json

/-- The digit of a number below sixteen. -/
def hexDigit (n : Nat) : Char := Nat.digitChar n

/-- A character inside a string. -/
def stringChar (c : Char) : List Char :=
  match c with
  | '"' => ['\\', '"']
  | '\\' => ['\\', '\\']
  | '\x08' => ['\\', 'b']
  | '\x0c' => ['\\', 'f']
  | '\n' => ['\\', 'n']
  | '\r' => ['\\', 'r']
  | '\t' => ['\\', 't']
  | c =>
    if c.toNat < 0x20 then
      ['\\', 'u', '0', '0', hexDigit (c.toNat / 16), hexDigit (c.toNat % 16)]
    else [c]

/-- A string in its quotes. -/
def quoted (s : String) : List Char := '"' :: s.toList.flatMap stringChar ++ ['"']

/-- A number; a decimal is written by its significand and exponent. -/
def Number.text : Number → List Char
  | .natural n => Nat.toDigits 10 n
  | .negative n => '-' :: Nat.toDigits 10 n
  | .decimal neg significand exponent =>
    (if neg then ['-'] else []) ++ Nat.toDigits 10 significand ++
      'e' :: (if exponent < 0 then ['-'] else []) ++ Nat.toDigits 10 exponent.natAbs

mutual

/-- Without blanks. -/
def compact : Value → List Char
  | .null => "null".toList
  | .boolean b => (if b then "true" else "false").toList
  | .number n => n.text
  | .string s => quoted s
  | .array items => '[' :: compactItems items ++ [']']
  | .object members => '\x7b' :: compactMembers members ++ ['\x7d']

/-- Values with commas between them. -/
def compactItems : List Value → List Char
  | [] => []
  | [v] => compact v
  | v :: w :: rest => compact v ++ ',' :: compactItems (w :: rest)

/-- Members with commas between them. -/
def compactMembers : List (String × Value) → List Char
  | [] => []
  | [(k, v)] => quoted k ++ ':' :: compact v
  | (k, v) :: m :: rest => quoted k ++ ':' :: compact v ++ ',' :: compactMembers (m :: rest)

end

/-- The line break before an item `level` levels deep. -/
def newline (level : Nat) : List Char := '\n' :: List.replicate (2 * level) ' '

mutual

/-- With a line for every item; `level` is the depth of the line that the value starts on. -/
def pretty (level : Nat) : Value → List Char
  | .null => "null".toList
  | .boolean b => (if b then "true" else "false").toList
  | .number n => n.text
  | .string s => quoted s
  | .array [] => ['[', ']']
  | .array (v :: rest) =>
    '[' :: newline (level + 1) ++ prettyItems (level + 1) (v :: rest) ++ newline level ++ [']']
  | .object [] => ['\x7b', '\x7d']
  | .object (m :: rest) =>
    '\x7b' :: newline (level + 1) ++ prettyMembers (level + 1) (m :: rest) ++
      newline level ++ ['\x7d']

/-- Values on lines of their own. -/
def prettyItems (level : Nat) : List Value → List Char
  | [] => []
  | [v] => pretty level v
  | v :: w :: rest => pretty level v ++ ',' :: newline level ++ prettyItems level (w :: rest)

/-- Members on lines of their own. -/
def prettyMembers (level : Nat) : List (String × Value) → List Char
  | [] => []
  | [(k, v)] => quoted k ++ ':' :: ' ' :: pretty level v
  | (k, v) :: m :: rest =>
    quoted k ++ ':' :: ' ' :: pretty level v ++ ',' :: newline level ++
      prettyMembers level (m :: rest)

end

end TableScript.Json

import TableScript.Json.Reader

/-!
# Passing over a value

A value that nobody asks for is passed over without being built. Its brackets must match and its
words, numerals and strings must have the right form, but it may be nested as deep as it likes, a
numeral may be as large as it likes, and a hexadecimal escape need not name a character.

* `skipString` and `skipNumber` pass over what has no parts.
* `skipStep` goes past one scalar or opening bracket and past what closes there. The brackets that
  are still open are a list, so that depth costs no recursion.
* `skipValue` repeats it, on a fuel that the length of the text bounds.
-/

namespace TableScript.Json

/-- Past a string whose opening quote is already read. -/
def skipString : List Char → Except Fault (List Char)
  | [] => faultBefore .endInString []
  | '"' :: rest => .ok rest
  | '\\' :: 'u' :: a :: b :: c :: d :: rest =>
    match hexUnit? a b c d with
    | none => badUnit (a :: b :: c :: d :: rest)
    | some _ => skipString rest
  | '\\' :: 'u' :: rest => badUnit rest
  | '\\' :: c :: rest =>
    match escaped? c with
    | some _ => skipString rest
    | none => faultPast .invalidEscape (c :: rest)
  | '\\' :: [] => faultBefore .endInString []
  | c :: rest =>
    if c.toNat < 0x20 then faultBefore .controlCharacter (c :: rest) else skipString rest

/-- Past the exponent of a numeral, after its `e`. -/
def skipExponent (cs : List Char) : Except Fault (List Char) :=
  let cs :=
    match cs with
    | '+' :: cs => cs
    | '-' :: cs => cs
    | cs => cs
  match cs with
  | c :: rest => if isDigit c then .ok (rest.dropWhile isDigit) else faultPast .invalidNumber cs
  | [] => faultBefore .invalidNumber []

/-- Past what may follow the digits of a numeral. -/
def skipAfterDigits : List Char → Except Fault (List Char)
  | 'e' :: cs => skipExponent cs
  | 'E' :: cs => skipExponent cs
  | cs => .ok cs

/-- Past what may follow the whole digits of a numeral. -/
def skipAfterWhole : List Char → Except Fault (List Char)
  | '.' :: cs =>
    match cs with
    | c :: _ =>
      if isDigit c then skipAfterDigits (cs.dropWhile isDigit) else faultPast .invalidNumber cs
    | [] => faultPast .invalidNumber []
  | cs => skipAfterDigits cs

/-- Past a numeral, from its first digit on. -/
def skipNumber : List Char → Except Fault (List Char)
  | [] => faultBefore .invalidNumber []
  | c :: cs =>
    if c = '0' then
      match cs with
      | d :: _ => if isDigit d then faultPast .invalidNumber cs else skipAfterWhole cs
      | [] => .ok []
    else if isDigit c then skipAfterWhole (cs.dropWhile isDigit)
    else faultPast .invalidNumber (c :: cs)

/-- A list or an object that is still open. -/
inductive Bracket where
  | list
  | object
  deriving DecidableEq

def Bracket.closing : Bracket → Char
  | .list => ']'
  | .object => '\x7d'

/-- How passing over goes on: the value is complete, or another value follows inside the brackets
that are still open, innermost first. -/
inductive Pending where
  | complete (rest : List Char)
  | inside (brackets : List Bracket) (rest : List Char)

/-- After a complete value: past the brackets that close here, up to a comma. -/
def closeBrackets : List Bracket → List Char → Except Fault Pending
  | [], cs => .ok (.complete cs)
  | b :: outer, cs =>
    match skipBlanks cs with
    | [] => faultPast (match b with | .list => .endInList | .object => .endInObject) []
    | c :: rest =>
      if c = ',' then .ok (.inside (b :: outer) rest)
      else if c = b.closing then closeBrackets outer rest
      else
        faultPast (match b with | .list => .listEndExpected | .object => .objectEndExpected)
          (c :: rest)

/-- After an opening bracket: it may close at once. -/
def openBracket (b : Bracket) (outer : List Bracket) (cs : List Char) : Except Fault Pending :=
  match skipBlanks cs with
  | [] => faultPast (match b with | .list => .endInList | .object => .endInObject) []
  | c :: rest =>
    if c = b.closing then closeBrackets outer rest else .ok (.inside (b :: outer) (c :: rest))

/-- Past the first scalar or opening bracket, and past what closes after it. -/
def skipStep (brackets : List Bracket) (cs : List Char) : Except Fault Pending :=
  match skipBlanks cs with
  | [] => faultPast .endInValue []
  | '[' :: rest => openBracket .list brackets rest
  | '\x7b' :: rest => openBracket .object brackets rest
  | 'n' :: rest => do
    let ((), rest) ← word ['u', 'l', 'l'] rest
    closeBrackets brackets rest
  | 't' :: rest => do
    let ((), rest) ← word ['r', 'u', 'e'] rest
    closeBrackets brackets rest
  | 'f' :: rest => do
    let ((), rest) ← word ['a', 'l', 's', 'e'] rest
    closeBrackets brackets rest
  | '"' :: rest => do closeBrackets brackets (← skipString rest)
  | '-' :: rest => do closeBrackets brackets (← skipNumber rest)
  | c :: rest =>
    if isDigit c then do closeBrackets brackets (← skipNumber (c :: rest))
    else faultPast .valueExpected (c :: rest)

/-- Past the key of a member and its colon. -/
def skipKey (cs : List Char) : Except Fault (List Char) := do
  match skipBlanks cs with
  | [] => faultPast .endInObject []
  | '"' :: rest => do
    let ((), rest) ← colon (← skipString rest)
    .ok rest
  | rest => faultPast .keyNotString rest

/-- Past a value inside the given brackets. Every step takes a character, so the fuel may be the
length of the text. -/
def skipInside : Nat → List Bracket → List Char → Except Fault (List Char)
  | 0, _, cs => faultPast .endInValue cs
  | fuel + 1, brackets, cs => do
    match ← skipStep brackets cs with
    | .complete rest => .ok rest
    | .inside (.object :: outer) rest => skipInside fuel (.object :: outer) (← skipKey rest)
    | .inside brackets rest => skipInside fuel brackets rest

/-- Past one value. -/
def skipValue (cs : List Char) : Except Fault (List Char) := skipInside (cs.length + 1) [] cs

end TableScript.Json

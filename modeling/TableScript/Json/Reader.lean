import TableScript.Json.Error

/-!
# Reading by the character

A `Reader` takes the text that is left and gives back what it read and what is left then. A `Fault`
remembers the text that was left where it was noticed, so that its position can be told once the
whole text is at hand (`Fault.locate`).

* `string` undoes escapes; two hexadecimal escapes may stand for one character, and no half of such
  a pair may stand alone.
* `number` keeps whole numbers that fit 64 bits. Any other number keeps as many digits as fit, and
  is refused if it is too large for a double.
* `elements` and `members` read the inside of an array and of an object with any reader for the
  items, on a fuel that the length of the text bounds.
* `value` reads a value of bounded depth (`depthLimit`), and `read` a text that holds one value and
  nothing behind it.
-/

namespace TableScript.Json

/-- A fault at the place where `rest` is left of the text, `past` bytes further on. -/
structure Fault where
  reason : Reason
  rest : List Char
  past : Nat

abbrev Reader (α : Type) := List Char → Except Fault (α × List Char)

/-- The next character is at fault: the position counts its first byte as read. -/
def faultPast {α : Type} (reason : Reason) (rest : List Char) : Except Fault α :=
  .error ⟨reason, rest, 1⟩

/-- What was read so far is at fault. -/
def faultBefore {α : Type} (reason : Reason) (rest : List Char) : Except Fault α :=
  .error ⟨reason, rest, 0⟩

/-! ## Positions -/

/-- Size of a text in bytes. -/
def byteSize (cs : List Char) : Nat := cs.foldl (fun size c => size + c.utf8Size) 0

/-- The position after the first `count` bytes of the text. -/
def positionFrom (line column : Nat) : Nat → List Char → Position
  | _, [] => ⟨line, column⟩
  | count, c :: cs =>
    if count = 0 then ⟨line, column⟩
    else if c = '\n' then positionFrom (line + 1) 0 (count - 1) cs
    else if count ≤ c.utf8Size then ⟨line, column + count⟩
    else positionFrom line (column + c.utf8Size) (count - c.utf8Size) cs

/-- The position of a fault in the text that it was found in. -/
def Fault.position (text : List Char) (f : Fault) : Position :=
  positionFrom 1 0 (byteSize text - byteSize f.rest + f.past) text

def Fault.locate (text : List Char) (f : Fault) : Error :=
  ⟨f.reason, some (f.position text)⟩

/-! ## Blanks and words -/

def isBlank (c : Char) : Bool := c = ' ' || c = '\n' || c = '\t' || c = '\r'

def skipBlanks (cs : List Char) : List Char := cs.dropWhile isBlank

/-- The rest of a word whose first character is already read. -/
def word : List Char → Reader Unit
  | [], cs => .ok ((), cs)
  | _ :: _, [] => faultBefore .endInValue []
  | e :: es, c :: cs => if c = e then word es cs else faultPast .wordExpected (c :: cs)

/-! ## Strings -/

/-- The value of a hexadecimal digit of either case. -/
def hexDigit? (c : Char) : Option Nat :=
  let n := c.toNat
  if '0'.toNat ≤ n ∧ n ≤ '9'.toNat then some (n - '0'.toNat)
  else if 'a'.toNat ≤ n ∧ n ≤ 'f'.toNat then some (n - 'a'.toNat + 10)
  else if 'A'.toNat ≤ n ∧ n ≤ 'F'.toNat then some (n - 'A'.toNat + 10)
  else none

/-- The value of four hexadecimal digits. -/
def hexUnit? (a b c d : Char) : Option Nat := do
  let a ← hexDigit? a
  let b ← hexDigit? b
  let c ← hexDigit? c
  let d ← hexDigit? d
  return ((a * 16 + b) * 16 + c) * 16 + d

/-- The character that a backslash and this character stand for. -/
def escaped? (c : Char) : Option Char :=
  match c with
  | '"' => some '"'
  | '\\' => some '\\'
  | '/' => some '/'
  | 'b' => some '\x08'
  | 'f' => some '\x0c'
  | 'n' => some '\n'
  | 'r' => some '\r'
  | 't' => some '\t'
  | _ => none

def isLeading (unit : Nat) : Bool := decide (0xD800 ≤ unit) && decide (unit ≤ 0xDBFF)

def isTrailing (unit : Nat) : Bool := decide (0xDC00 ≤ unit) && decide (unit ≤ 0xDFFF)

/-- The character of a pair of surrogates. -/
def pairChar (leading trailing : Nat) : Char :=
  Char.ofNat (0x10000 + (leading - 0xD800) * 0x400 + (trailing - 0xDC00))

/-- Four bytes that are not all hexadecimal digits are passed before they are refused; with fewer
than four left, the text has ended. -/
def badUnit {α : Type} (rest : List Char) : Except Fault α :=
  if byteSize rest < 4 then faultBefore .endInString [] else .error ⟨.invalidEscape, rest, 4⟩

/-- The characters of a string up to its closing quote, and the text after that. -/
def stringChars : List Char → Except Fault (List Char × List Char)
  | [] => faultBefore .endInString []
  | '"' :: rest => .ok ([], rest)
  | '\\' :: 'u' :: a :: b :: c :: d :: rest =>
    match hexUnit? a b c d with
    | none => badUnit (a :: b :: c :: d :: rest)
    | some unit =>
      if isTrailing unit then faultBefore .loneSurrogate rest
      else if isLeading unit then
        match rest with
        | '\\' :: 'u' :: e :: f :: g :: h :: rest =>
          match hexUnit? e f g h with
          | none => badUnit (e :: f :: g :: h :: rest)
          | some second =>
            if isTrailing second then do
              let (cs, rest) ← stringChars rest
              .ok (pairChar unit second :: cs, rest)
            else faultBefore .loneSurrogate rest
        | '\\' :: 'u' :: rest => badUnit rest
        | '\\' :: [] => faultBefore .endInString []
        | '\\' :: rest => faultPast .escapeCutShort rest
        | [] => faultBefore .endInString []
        | rest => faultPast .escapeCutShort rest
      else do
        let (cs, rest) ← stringChars rest
        .ok (Char.ofNat unit :: cs, rest)
  | '\\' :: 'u' :: rest => badUnit rest
  | '\\' :: c :: rest =>
    match escaped? c with
    | some e => do
      let (cs, rest) ← stringChars rest
      .ok (e :: cs, rest)
    | none => faultPast .invalidEscape (c :: rest)
  | '\\' :: [] => faultBefore .endInString []
  | c :: rest =>
    if c.toNat < 0x20 then faultPast .controlCharacter (c :: rest)
    else do
      let (cs, rest) ← stringChars rest
      .ok (c :: cs, rest)

/-- A string whose opening quote is already read. -/
def string : Reader String := fun cs => do
  let (cs, rest) ← stringChars cs
  .ok (String.ofList cs, rest)

/-! ## Numbers -/

def isDigit (c : Char) : Bool := decide ('0' ≤ c) && decide (c ≤ '9')

def digitValue (c : Char) : Nat := c.toNat - '0'.toNat

/-- The largest significand that is kept exactly. -/
def largestSignificand : Nat := Nat.pow 2 64 - 1

/-- The largest exponent that a numeral may spell out. -/
def largestExponent : Nat := Nat.pow 2 31 - 1

/-- Digits taken into the significand as long as it stays within `limit`: the new significand, how
many digits were taken, and the text from the first other character or digit too many. -/
def takeDigits (limit : Nat) : Nat → List Char → Nat × Nat × List Char
  | value, [] => (value, 0, [])
  | value, c :: cs =>
    if isDigit c && decide (value * 10 + digitValue c ≤ limit) then
      let (value, count, rest) := takeDigits limit (value * 10 + digitValue c) cs
      (value, count + 1, rest)
    else (value, 0, c :: cs)

/-- A decimal that is not too large for a double. -/
def decimal (neg : Bool) (significand : Nat) (exponent : Int) : Reader Number := fun rest =>
  match toFloat? neg significand exponent with
  | some _ => .ok (.decimal neg significand exponent, rest)
  | none => faultBefore .numberOutOfRange rest

/-- The exponent of a numeral, after its `e`. An exponent too long to keep leaves zero as it is,
makes a number with a negative exponent zero, and is refused otherwise. -/
def exponent (neg : Bool) (significand : Nat) (start : Int) : Reader Number := fun cs =>
  let (down, cs) :=
    match cs with
    | '+' :: cs => (false, cs)
    | '-' :: cs => (true, cs)
    | cs => (false, cs)
  match cs with
  | [] => faultBefore .endInValue []
  | c :: rest =>
    if isDigit c then
      let (size, _, rest) := takeDigits largestExponent (digitValue c) rest
      match rest with
      | d :: after =>
        if isDigit d then
          if significand ≠ 0 ∧ down = false then faultBefore .numberOutOfRange after
          else .ok (.decimal neg 0 0, after.dropWhile isDigit)
        else decimal neg significand (if down then start - size else start + size) rest
      | [] => decimal neg significand (if down then start - size else start + size) rest
    else faultPast .invalidNumber cs

/-- What may follow the digits of a numeral: an exponent, or nothing. -/
def afterDigits (neg : Bool) (significand : Nat) (start : Int) : Reader Number
  | 'e' :: cs => exponent neg significand start cs
  | 'E' :: cs => exponent neg significand start cs
  | cs => decimal neg significand start cs

/-- The fraction of a numeral, after its point. Digits beyond the largest significand are dropped. -/
def fraction (neg : Bool) (significand : Nat) (start : Int) : Reader Number := fun cs =>
  let (value, count, rest) := takeDigits largestSignificand significand cs
  match rest with
  | [] => if count = 0 then faultPast .endInValue [] else decimal neg value (start - count) []
  | c :: _ =>
    if isDigit c then afterDigits neg value (start - count) (rest.dropWhile isDigit)
    else if count = 0 then faultPast .invalidNumber rest
    else afterDigits neg value (start - count) rest

/-- A numeral whose whole digits have the value `significand`, with `dropped` further digits that
did not fit. -/
def afterWhole (neg : Bool) (significand dropped : Nat) : Reader Number
  | '.' :: cs => fraction neg significand dropped cs
  | 'e' :: cs => exponent neg significand dropped cs
  | 'E' :: cs => exponent neg significand dropped cs
  | cs =>
    if dropped ≠ 0 then decimal neg significand dropped cs
    else if neg = false then .ok (.natural significand, cs)
    else if significand = 0 ∨ Nat.pow 2 63 < significand then .ok (.decimal true significand 0, cs)
    else .ok (.negative significand, cs)

/-- A numeral from its first digit on. -/
def number (neg : Bool) : Reader Number
  | [] => faultBefore .endInValue []
  | c :: cs =>
    if c = '0' then
      match cs with
      | d :: _ => if isDigit d then faultPast .invalidNumber cs else afterWhole neg 0 0 cs
      | [] => afterWhole neg 0 0 cs
    else if isDigit c then
      let (value, _, rest) := takeDigits largestSignificand (digitValue c) cs
      let more := rest.takeWhile isDigit
      afterWhole neg value more.length (rest.drop more.length)
    else faultPast .invalidNumber (c :: cs)

/-! ## Lists and objects -/

/-- What comes next in a list or an object: its end, with the text after the bracket, or another
item, with the text from its first character on. -/
inductive Next where
  | finished (rest : List Char)
  | item (rest : List Char)

/-- The next element of a list, before the first or after one. -/
def nextElement (first : Bool) (cs : List Char) : Except Fault Next :=
  match skipBlanks cs with
  | [] => faultPast .endInList []
  | ']' :: rest => .ok (.finished rest)
  | c :: rest =>
    if first then .ok (.item (c :: rest))
    else if c = ',' then
      match skipBlanks rest with
      | [] => faultPast .endInValue []
      | ']' :: rest => faultPast .trailingComma (']' :: rest)
      | rest => .ok (.item rest)
    else faultPast .listEndExpected (c :: rest)

/-- The next member of an object, before the first or after one; its text starts after the opening
quote of the key. -/
def nextMember (first : Bool) (cs : List Char) : Except Fault Next :=
  match skipBlanks cs with
  | [] => faultPast .endInObject []
  | '\x7d' :: rest => .ok (.finished rest)
  | c :: rest =>
    if first then
      if c = '"' then .ok (.item rest) else faultPast .keyNotString (c :: rest)
    else if c = ',' then
      match skipBlanks rest with
      | [] => faultPast .endInValue []
      | '"' :: rest => .ok (.item rest)
      | '\x7d' :: rest => faultPast .trailingComma ('\x7d' :: rest)
      | rest => faultPast .keyNotString rest
    else faultPast .objectEndExpected (c :: rest)

/-- The colon after a key. -/
def colon : Reader Unit := fun cs =>
  match skipBlanks cs with
  | ':' :: rest => .ok ((), rest)
  | [] => faultPast .endInObject []
  | rest => faultPast .colonExpected rest

/-- The elements of a list up to its bracket. Every element takes a character, so the fuel may be
the length of the text. -/
def elements {α : Type} (item : Reader α) : Nat → Bool → Reader (List α)
  | 0, _, cs => faultPast .endInList cs
  | fuel + 1, first, cs => do
    match ← nextElement first cs with
    | .finished rest => .ok ([], rest)
    | .item rest =>
      let (x, rest) ← item rest
      let (xs, rest) ← elements item fuel false rest
      .ok (x :: xs, rest)

/-- The members of an object up to its bracket. -/
def members {α : Type} (item : Reader α) : Nat → Bool → Reader (List (String × α))
  | 0, _, cs => faultPast .endInObject cs
  | fuel + 1, first, cs => do
    match ← nextMember first cs with
    | .finished rest => .ok ([], rest)
    | .item rest =>
      let (key, rest) ← string rest
      let ((), rest) ← colon rest
      let (x, rest) ← item rest
      let (xs, rest) ← members item fuel false rest
      .ok ((key, x) :: xs, rest)

/-! ## Values -/

/-- A value that is neither a list nor an object; the text starts with it. -/
def scalar : Reader Value
  | [] => faultPast .endInValue []
  | 'n' :: cs => do
    let ((), rest) ← word ['u', 'l', 'l'] cs
    .ok (.null, rest)
  | 't' :: cs => do
    let ((), rest) ← word ['r', 'u', 'e'] cs
    .ok (.boolean true, rest)
  | 'f' :: cs => do
    let ((), rest) ← word ['a', 'l', 's', 'e'] cs
    .ok (.boolean false, rest)
  | '"' :: cs => do
    let (s, rest) ← string cs
    .ok (.string s, rest)
  | '-' :: cs => do
    let (n, rest) ← number true cs
    .ok (.number n, rest)
  | c :: cs =>
    if isDigit c then do
      let (n, rest) ← number false (c :: cs)
      .ok (.number n, rest)
    else faultPast .valueExpected (c :: cs)

/-- A value in which at most `depth` lists and objects enclose one another. -/
def value : (depth : Nat) → Reader Value
  | 0, cs =>
    match skipBlanks cs with
    | '[' :: rest => faultPast .tooDeep ('[' :: rest)
    | '\x7b' :: rest => faultPast .tooDeep ('\x7b' :: rest)
    | cs => scalar cs
  | depth + 1, cs =>
    match skipBlanks cs with
    | '[' :: rest => do
      let (items, rest) ← elements (value depth) (rest.length + 1) true rest
      .ok (.array items, rest)
    | '\x7b' :: rest => do
      let (items, rest) ← members (value depth) (rest.length + 1) true rest
      .ok (.object items, rest)
    | cs => scalar cs

/-- How many lists and objects may enclose one another. -/
def depthLimit : Nat := 127

/-- Nothing but blanks is left. -/
def finish {α : Type} (x : α) (cs : List Char) : Except Fault α :=
  match skipBlanks cs with
  | [] => .ok x
  | rest => faultPast .trailingCharacters rest

/-- The value that a whole text holds. -/
def read (text : String) : Except Error Value :=
  let outcome : Except Fault Value := do
    let (v, rest) ← value depthLimit text.toList
    finish v rest
  outcome.mapError (Fault.locate text.toList)

end TableScript.Json

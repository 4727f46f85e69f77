/-!
# Text without terminal controls

The error stream is plain text: whatever would only steer a terminal is left out of it. That is
every control character apart from line breaks, tabs and form feeds, and every escape sequence: an
escape character with what belongs to it.

* `Steering` is the kind of sequence that a character stands in, and `Steering.step` what becomes of
  it with one more character.
* `shownFrom` goes through a text once and keeps what stands in no sequence; `shown` begins outside.
-/

namespace TableScript.Text

/-- A control character that is text all the same: tab, line feed, form feed, carriage return. -/
def isBreak (c : Char) : Bool := c = '\t' || c = '\n' || c = '\x0c' || c = '\r'

/-- A character that text may hold outside escape sequences. -/
def isShown (c : Char) : Bool := isBreak c || (' ' ≤ c && c ≠ '\x7f')

/-- Where in an escape sequence a text stands. -/
inductive Steering where
  /-- Outside of any. -/
  | none
  /-- Behind the escape character. -/
  | escape
  /-- Behind characters that one more character completes. -/
  | designation
  /-- Among the parameters behind `[`. -/
  | parameters
  /-- In a string that the next escape character ends, or perhaps a bell. -/
  | string (endsAtBell : Bool)
  deriving DecidableEq

/-- Where the text stands behind one more character of an escape sequence. -/
def Steering.step : Steering → Char → Steering
  | none, _ => none
  | escape, c =>
    if ' ' ≤ c ∧ c ≤ '/' then designation
    else if c = '[' then parameters
    else if c = ']' then string true
    else if c ∈ ['P', 'X', '^', '_'] then string false
    else if '0' ≤ c ∧ c ≤ '~' then none
    else escape
  | designation, c => if '0' ≤ c ∧ c ≤ '~' then none else designation
  | parameters, c => if '@' ≤ c ∧ c ≤ '~' then none else parameters
  | string endsAtBell, c => if endsAtBell ∧ c = '\x07' then none else string endsAtBell

/-- What is left of a text from somewhere in an escape sequence on. An escape character starts
another sequence wherever it stands, and the characters `18` and `1A` break one off. -/
def shownFrom : Steering → List Char → List Char
  | _, [] => []
  | s, c :: cs =>
    if c = '\x1b' then shownFrom .escape cs
    else if c = '\x18' ∨ c = '\x1a' then shownFrom .none cs
    else
      match s with
      | .none => if isShown c then c :: shownFrom .none cs else shownFrom .none cs
      | .string endsAtBell => shownFrom (Steering.step (.string endsAtBell) c) cs
      | s => if isBreak c then c :: shownFrom .none cs else shownFrom (s.step c) cs

/-- The text without what would steer a terminal. -/
def shown (s : String) : String := String.ofList (shownFrom .none s.toList)

end TableScript.Text

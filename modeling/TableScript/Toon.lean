import TableScript.Text.DigitTable
import TableScript.Text.White

/-!
# TOON

A line-oriented notation for documents of texts, lists of texts and tables. A list gives its length
in its header, and a table its column names as well, so rows need only their values, one comma
between them. A text is written bare where that cannot be mistaken for anything else, and in quotes
otherwise.

* `needsQuotes` decides this: a text goes in quotes if it is empty, has white space at its ends or
  special characters in it, or reads like a word, a numeral (`isNumeral`) or an item of a list.
* `linesOf` gives the lines of an entry, and `encode` the text of a document.

Out of scope: numbers, nested documents, and lists of anything but texts. No report has any.
-/

namespace TableScript.Toon

inductive Entry where
  | text (s : String)
  | list (items : List String)
  | table (columns : List String) (rows : List (List String))
  deriving DecidableEq

/-- The entries of a document, in order, by key. -/
abbrev Document := List (String × Entry)

/-! ## Texts that look like numbers -/

def skipDigits (cs : List Char) : List Char := cs.dropWhile Text.isDecimalDigit

/-- Some digits and nothing else. -/
def areDigits (cs : List Char) : Bool := !cs.isEmpty && cs.all Text.isDecimalDigit

/-- An exponent up to the end, sign and all, or nothing. -/
def isExponentEnd : List Char → Bool
  | [] => true
  | 'e' :: '+' :: cs => areDigits cs
  | 'e' :: '-' :: cs => areDigits cs
  | 'e' :: cs => areDigits cs
  | _ => false

/-- A fraction and an exponent up to the end, each of which may be missing. -/
def isFractionEnd : List Char → Bool
  | '.' :: c :: cs => Text.isDecimalDigit c && isExponentEnd (skipDigits cs)
  | cs => isExponentEnd cs

/-- A numeral: digits of any script, perhaps with a sign, a fraction and an exponent. -/
def isNumeral (cs : List Char) : Bool :=
  let cs := match cs with
    | '-' :: cs => cs
    | cs => cs
  match cs with
  | c :: cs => Text.isDecimalDigit c && isFractionEnd (skipDigits cs)
  | [] => false

/-! ## Writing texts -/

/-- Characters that have a meaning in the notation. -/
def isSpecial (c : Char) : Bool :=
  c ∈ [':', '"', '\\', '[', ']', '\x7b', '\x7d', ',', '\n', '\r', '\t']

/-- A text that could be mistaken if it stood bare. -/
def needsQuotes (cs : List Char) : Bool :=
  cs.isEmpty || Text.trim cs != cs || cs == "true".toList || cs == "false".toList ||
    cs == "null".toList || isNumeral cs || cs.any isSpecial || "- ".toList.isPrefixOf cs

/-- A character inside quotes. -/
def quotedChar (c : Char) : List Char :=
  match c with
  | '\\' => ['\\', '\\']
  | '"' => ['\\', '"']
  | '\n' => ['\\', 'n']
  | '\r' => ['\\', 'r']
  | '\t' => ['\\', 't']
  | c => [c]

def quoted (cs : List Char) : List Char := '"' :: cs.flatMap quotedChar ++ ['"']

/-- A text, bare or in quotes. -/
def textOf (s : String) : List Char := if needsQuotes s.toList then quoted s.toList else s.toList

/-- Texts with commas between them. -/
def rowOf (texts : List String) : List Char := [','].intercalate (texts.map textOf)

/-! ## Writing documents -/

/-- The length of a list in its header. -/
def countOf (n : Nat) : List Char := '[' :: Nat.toDigits 10 n ++ [']']

/-- The lines of an entry. -/
def linesOf (key : String) : Entry → List (List Char)
  | .text s => [key.toList ++ ':' :: ' ' :: textOf s]
  | .list [] => [key.toList ++ countOf 0 ++ [':']]
  | .list items => [key.toList ++ countOf items.length ++ ':' :: ' ' :: rowOf items]
  | .table _ [] => [key.toList ++ countOf 0 ++ [':']]
  | .table columns rows =>
    (key.toList ++ countOf rows.length ++ '\x7b' :: [','].intercalate (columns.map String.toList) ++
        ['\x7d', ':']) ::
      rows.map fun row => ' ' :: ' ' :: rowOf row

/-- The document, line by line. -/
def encode (d : Document) : List Char :=
  ['\n'].intercalate (d.flatMap fun e => linesOf e.1 e.2)

end TableScript.Toon

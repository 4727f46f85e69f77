import TableScript.Text.HiddenTable
import TableScript.Text.White

/-!
# String literals in diagnostics

A diagnostic that shows a piece of input writes it as a literal in double quotes, so that every
character can be seen: quotes and backslashes are escaped, and a character without a glyph of its
own is written by its code, as in `"\u{7f}"`.

* `isHidden` looks a character up among the ranges of those without a glyph.
* `literalChar` writes one character, and `literal` a text.
-/

namespace TableScript.Text

/-- A character that a literal writes by its code. -/
def isHidden (c : Char) : Bool := inRanges hiddenRanges c.toNat

/-- One character inside a literal. -/
def literalChar (c : Char) : List Char :=
  match c with
  | '\x00' => ['\\', '0']
  | '\t' => ['\\', 't']
  | '\n' => ['\\', 'n']
  | '\r' => ['\\', 'r']
  | '"' => ['\\', '"']
  | '\\' => ['\\', '\\']
  | c =>
    if isHidden c then
      ['\\', 'u', '\x7b'] ++ Nat.toDigits 16 c.toNat ++ ['\x7d']
    else [c]

/-- The literal of a text. -/
def literal (s : String) : String :=
  String.ofList ('"' :: s.toList.flatMap literalChar ++ ['"'])

end TableScript.Text

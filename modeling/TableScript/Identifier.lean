/-!
# Names in statements

A plain name may stand in a statement as it is. Any other name is quoted: the quote character around
it, and twice for every one inside.

* `isPlain` lets in the texts of ASCII letters, digits and underscores that have at least one
  character.
* `quoted` quotes a name with a given character, and `quotedList` several, with commas between them.
  Neither asks anything of the names.
-/

namespace TableScript.Identifier

def isPlainChar (c : Char) : Bool :=
  ('a' ≤ c && c ≤ 'z') || ('A' ≤ c && c ≤ 'Z') || ('0' ≤ c && c ≤ '9') || c == '_'

/-- Letters, digits and underscores of the Latin alphabet, at least one. -/
def isPlain (s : String) : Bool := !s.toList.isEmpty && s.toList.all isPlainChar

/-- The name with the quote character doubled wherever it occurs. -/
def doubled (quote : Char) (name : List Char) : List Char :=
  name.flatMap fun c => if c = quote then [quote, c] else [c]

/-- The name in quotes. -/
def quoted (quote : Char) (name : String) : String :=
  String.ofList (quote :: doubled quote name.toList ++ [quote])

/-- The names in quotes, separated by comma and blank. -/
def quotedList (quote : Char) (names : List String) : String :=
  ", ".intercalate (names.map (quoted quote))

end TableScript.Identifier

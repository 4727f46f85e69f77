import TableScript.Text.CaseTable

/-!
# Upper case

The full upper-case form of a text: a character may become two or three (`ß` becomes `SS`), and
neither the place in the word nor a language matters. So `upper` works character by character
(`upperChar`), and a character that is in neither table stays as it is.
-/

namespace TableScript.Text

/-- The upper-case form of one character. -/
def upperChar (c : Char) : List Char :=
  match upperExpansions.lookup c.toNat with
  | some codes => codes.map Char.ofNat
  | none =>
    match upperRuns.find? (·.covers c.toNat) with
    | some run => [Char.ofNat (run.target + (c.toNat - run.first))]
    | none => [c]

/-- The upper-case form of a text, character by character. -/
def upper (cs : List Char) : List Char := cs.flatMap upperChar

end TableScript.Text

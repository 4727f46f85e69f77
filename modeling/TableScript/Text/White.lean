/-!
# White space

The white space of names and clauses is the Unicode property White_Space, 25 characters in ten
ranges. `trim` takes it off both ends of a text and never from the middle.

* `trimStart` and `trimEnd` are its two halves; each stops at the first character that is not white.
* `isBlank` tells the texts of which nothing would be left, the empty text included.
-/

namespace TableScript.Text

/-- The number lies in one of the ranges, ends included. -/
def inRanges (ranges : List (Nat × Nat)) (n : Nat) : Bool :=
  ranges.any fun r => decide (r.1 ≤ n) && decide (n ≤ r.2)

/-- The property White_Space. -/
def whiteRanges : List (Nat × Nat) := [
  (0x9, 0xD), (0x20, 0x20), (0x85, 0x85), (0xA0, 0xA0), (0x1680, 0x1680), (0x2000, 0x200A),
  (0x2028, 0x2029), (0x202F, 0x202F), (0x205F, 0x205F), (0x3000, 0x3000)]

/-- A character of the property White_Space. -/
def isWhite (c : Char) : Bool := inRanges whiteRanges c.toNat

/-- Without the white space at the front. -/
def trimStart (cs : List Char) : List Char := cs.dropWhile isWhite

/-- Without the white space at the end. -/
def trimEnd (cs : List Char) : List Char := (cs.reverse.dropWhile isWhite).reverse

/-- Without the white space at either end. -/
def trim (cs : List Char) : List Char := trimEnd (trimStart cs)

/-- Nothing but white space. -/
def isBlank (s : String) : Bool := s.toList.all isWhite

theorem isWhite_space : isWhite ' ' = true := by decide

end TableScript.Text

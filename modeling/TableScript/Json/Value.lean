import TableScript.Decimal.Shortest

/-!
# JSON values

A number is kept as it was read: a whole number that fits 64 bits, or a decimal with its significand
and exponent. An object keeps its members in the order of the text, repeated keys included; a member
is looked up by its key, and the last one of that key counts.

* `lookup?` is this look-up.
* `toFloat?` is the double of a decimal, or nothing if there is none so large. It scales the
  significand by powers of ten, so it may be off in the last place; messages show what it gives.
* `Number.describe` is a number as messages write it.
-/

namespace TableScript.Json

/-- A number: `n`, `-n`, or `± significand · 10 ^ exponent`. -/
inductive Number where
  | natural (n : Nat)
  | negative (n : Nat)
  | decimal (isNegative : Bool) (significand : Nat) (exponent : Int)
  deriving DecidableEq

inductive Value where
  | null
  | boolean (b : Bool)
  | number (n : Number)
  | string (s : String)
  | array (items : List Value)
  | object (members : List (String × Value))

/-- The value of the last member with this key. -/
def lookup? (key : String) (members : List (String × Value)) : Option Value :=
  members.reverse.lookup key

/-! ## Decimals as floating point numbers -/

/-- The largest power of ten that is a double. -/
def largestPower : Nat := 308

/-- `10 ^ n` as a double, for `n` up to `largestPower`. -/
def tenTo (n : Nat) : Float := Float.ofScientific 1 false n

/-- `x · 10 ^ exponent`, in steps of `largestPower` downwards and in one step upwards; nothing when
it is too large for a double. -/
def scale : Nat → Float → Int → Option Float
  | 0, x, _ => some x
  | fuel + 1, x, exponent =>
    if exponent.natAbs ≤ largestPower then
      if 0 ≤ exponent then
        let scaled := x * tenTo exponent.natAbs
        if scaled.isInf then none else some scaled
      else some (x / tenTo exponent.natAbs)
    else if x == 0 then some x
    else if 0 ≤ exponent then none
    else scale fuel (x / tenTo largestPower) (exponent + largestPower)

/-- The double that a decimal stands for. A significand has at most 64 bits, so two downward steps
reach zero. -/
def toFloat? (isNegative : Bool) (significand : Nat) (exponent : Int) : Option Float :=
  (scale 4 (UInt64.ofNat significand).toFloat exponent).map fun x => if isNegative then -x else x

/-- Floating point numbers in diagnostics: positional from `10 ^ -5` up to `10 ^ 15`. -/
def floatLayout : Decimal.Layout := ⟨-5, 15⟩

/-- The text of a number in a diagnostic, after the word for its sort. -/
def Number.describe : Number → String
  | .natural n => "integer `" ++ n.repr ++ "`"
  | .negative n => "integer `-" ++ n.repr ++ "`"
  | .decimal neg significand exponent =>
    "floating point `" ++
      String.ofList (floatLayout.writeFloat ((toFloat? neg significand exponent).getD 0)) ++ "`"

end TableScript.Json

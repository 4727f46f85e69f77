/-!
# The shortest decimal of a binary fraction

A binary fraction `m · 2 ^ q` stands for every real that rounds to it. `shortest` gives the decimal
with the fewest digits among those reals, and of several the nearest: the first of the grids with 1,
2, … 17 digits that holds one, where it is enough to look at the two neighbours of the fraction on
each grid.

* `Binary.ofBits` takes a double apart, and `Binary.holds` decides whether a decimal rounds to it,
  in whole numbers throughout.
* `Layout.write` sets the digits down, with a point or with an exponent, by the size of the number.

Only messages about a number that stands in the wrong place write a double.
-/

namespace TableScript.Decimal

/-- A positive binary fraction `mantissa · 2 ^ exponent`, and whether the fractions below it lie
twice as dense as those above. -/
structure Binary where
  mantissa : Nat
  exponent : Int
  denserBelow : Bool

/-- The decimal `digits · 10 ^ exponent`. -/
structure Digits where
  digits : Nat
  exponent : Int

/-- The positive double with these bits, sign left out. -/
def Binary.ofBits (bits : UInt64) : Binary :=
  let fraction : Nat := bits.toNat % Nat.pow 2 52
  let field : Nat := bits.toNat / Nat.pow 2 52 % Nat.pow 2 11
  if field = 0 then ⟨fraction, -1074, false⟩
  else ⟨fraction + Nat.pow 2 52, (field : Int) - 1075, fraction == 0 && decide (1 < field)⟩

/-- Numerator and denominator of `mantissa · 2 ^ exponent` in quarters of the last place. -/
def Binary.quarters (b : Binary) : Nat × Nat :=
  (4 * b.mantissa * Nat.pow 2 b.exponent.toNat, 4 * Nat.pow 2 (-b.exponent).toNat)

/-- `10 ^ n`, as numerator and denominator. -/
def power (n : Int) : Nat × Nat := (Nat.pow 10 n.toNat, Nat.pow 10 (-n).toNat)

/-- The largest power of ten that is at most `num / den`, searched downwards from `10 ^ from`. -/
def leadingPower (num den : Nat) : Nat → Int → Int
  | 0, n => n
  | fuel + 1, n =>
    let (pn, pd) := power n
    if pn * den ≤ num * pd then n else leadingPower num den fuel (n - 1)

/-- The reals that round to the fraction reach half a place up and half or a quarter of a place
down, and hold their ends when the mantissa is even. The decimal `d · 10 ^ n` is one of them. -/
def Binary.holds (b : Binary) (d : Nat) (n : Int) : Bool :=
  let (num, den) := b.quarters
  let unit := Nat.pow 2 b.exponent.toNat
  let (pn, pd) := power n
  let here := d * pn * den
  let low := (num - (if b.denserBelow then unit else 2 * unit)) * pd
  let high := (num + 2 * unit) * pd
  if b.mantissa % 2 = 0 then decide (low ≤ here) && decide (here ≤ high)
  else decide (low < here) && decide (here < high)

/-- The better neighbour on the grid of multiples of `10 ^ n`, if one of the two rounds back. -/
def Binary.onGrid (b : Binary) (n : Int) : Option Digits :=
  let (num, den) := b.quarters
  let (pn, pd) := power n
  let below := num * pd / (den * pn)
  let above := below + 1
  match b.holds below n, b.holds above n with
  | true, false => some ⟨below, n⟩
  | false, true => some ⟨above, n⟩
  | false, false => none
  | true, true =>
    let twice := 2 * num * pd
    let middle := (below + above) * pn * den
    if twice < middle then some ⟨below, n⟩
    else if middle < twice then some ⟨above, n⟩
    else if below % 2 = 0 then some ⟨below, n⟩ else some ⟨above, n⟩

/-- The decimal without its trailing zeros. -/
def Digits.strip : Nat → Digits → Digits
  | 0, d => d
  | fuel + 1, d =>
    if d.digits ≠ 0 ∧ d.digits % 10 = 0 then strip fuel ⟨d.digits / 10, d.exponent + 1⟩ else d

/-- The shortest decimal that rounds to the fraction, nearest first. -/
def Binary.shortest (b : Binary) : Digits :=
  let (num, den) := b.quarters
  let lead := leadingPower num den 700 309
  let found := (List.range 17).findSome? fun (i : Nat) => b.onGrid (lead - (i : Int))
  (found.getD ⟨0, 0⟩).strip 20

/-- How a decimal is written: positional for a leading power from `10 ^ low` to `10 ^ high`, with
`.0` after a whole number; beyond, with an exponent that always has its sign. -/
structure Layout where
  low : Int
  high : Int

/-- The digits with the point after the first, and no point after a single one. -/
def pointed : List Char → List Char
  | [] => []
  | [c] => [c]
  | c :: cs => c :: '.' :: cs

/-- The positive decimal in the layout. -/
def Layout.write (l : Layout) (d : Digits) : List Char :=
  let ds := Nat.toDigits 10 d.digits
  let lead : Int := d.exponent + ds.length - 1
  if l.low ≤ lead ∧ lead ≤ l.high then
    if 0 ≤ d.exponent then
      ds ++ List.replicate d.exponent.toNat '0' ++ ['.', '0']
    else if 0 ≤ lead then
      ds.take (lead.toNat + 1) ++ '.' :: ds.drop (lead.toNat + 1)
    else
      '0' :: '.' :: List.replicate (-lead - 1).toNat '0' ++ ds
  else
    pointed ds ++ ['e', if lead < 0 then '-' else '+'] ++ Nat.toDigits 10 lead.natAbs

/-- A finite double in the layout; zero keeps its sign. -/
def Layout.writeFloat (l : Layout) (x : Float) : List Char :=
  let bits := x.toBits
  let sign : List Char := if bits.toNat / Nat.pow 2 63 = 1 then ['-'] else []
  if bits.toNat % Nat.pow 2 63 = 0 then sign ++ ['0', '.', '0']
  else sign ++ l.write (Binary.ofBits bits).shortest

end TableScript.Decimal

import ReplicaSetOperator.Number.Binary

/-!
# Shortest decimals

The decimal with the fewest digits that rounds back to a given number of a binary format
(`BinaryFormat.shortest`), and its text (`Decimal.text`). Of the decimals of least length the
nearest one is taken, and of two equally near the one with the even last digit.

The text is positional for the magnitudes that a `Layout` names, with at least one digit after the
point, and scientific with a signed exponent outside.
-/

namespace ReplicaSetOperator

/-- Which decimals are written positionally: the least and the greatest place of the point, counted
in digits from the first one that is not zero. -/
structure Layout where
  least : Int
  greatest : Int

/-- Doubles are positional from `10 ^ -5` up to but not including `10 ^ 16`. -/
def Layout.double : Layout := ⟨-4, 16⟩

/-- The numbers of the 32-bit format are positional from `10 ^ -6` up to but not including
`10 ^ 13`. -/
def Layout.single : Layout := ⟨-5, 13⟩

/-- The decimal `± digits · 10 ^ exponent`. -/
structure Decimal where
  negative : Bool
  digits : Nat
  exponent : Int
deriving DecidableEq, Inhabited

namespace Decimal

/-- Drops at most `steps` trailing zeros of the digits. -/
def dropZeros : Nat → Nat → Int → Nat × Int
  | 0, digits, exponent => (digits, exponent)
  | steps + 1, digits, exponent =>
    if digits ≠ 0 ∧ digits % 10 = 0 then dropZeros steps (digits / 10) (exponent + 1)
    else (digits, exponent)

/-- The text of the digits with the point after the first `point` of them. -/
def positional (ds : List Char) (point : Int) : List Char :=
  match point with
  | .ofNat 0 => ['0', '.'] ++ ds
  | .ofNat k =>
    if k < ds.length then ds.take k ++ '.' :: ds.drop k
    else ds ++ List.replicate (k - ds.length) '0' ++ ['.', '0']
  | .negSucc k => ['0', '.'] ++ List.replicate (k + 1) '0' ++ ds

/-- The text of the digits with one of them before the point and a power of ten behind. -/
def scientific (ds : List Char) (point : Int) : List Char :=
  let exponent := point - 1
  let sign := if exponent < 0 then '-' else '+'
  let fraction := if ds.length ≤ 1 then [] else '.' :: ds.drop 1
  ds.take 1 ++ fraction ++ 'e' :: sign :: (toString exponent.natAbs).toList

/-- The text of a decimal in a layout. -/
def text (layout : Layout) (x : Decimal) : List Char :=
  let sign := if x.negative then ['-'] else []
  if x.digits = 0 then sign ++ ['0', '.', '0']
  else
    let ds := (toString x.digits).toList
    let point : Int := ds.length + x.exponent
    sign ++
      if layout.least ≤ point ∧ point ≤ layout.greatest then positional ds point
      else scientific ds point

end Decimal

/-- Numerator and denominator of `n / d · 10 ^ -t`, both natural numbers. -/
def scaleQuotient (n d : Nat) (t : Int) : Nat × Nat :=
  match t with
  | .ofNat k => (n, d * Nat.pow 10 k)
  | .negSucc k => (n * Nat.pow 10 (k + 1), d)

/-- The least `k` with `n / d < 10 ^ k`, for positive `n` and `d`. The first guess comes from the
binary logarithm and is off by one at most. -/
def pointPlace (n d : Nat) : Int :=
  let guess := (floorLog2 n d * 30103) / 100000
  let below (k : Int) : Bool :=
    let (a, b) := scaleQuotient n d k
    decide (a < b)
  if below guess then guess
  else if below (guess + 1) then guess + 1
  else guess + 2

namespace BinaryFormat

/-- The decimals that round to a number: from `low` to `high` in quarters of the last place,
the ends included when the mantissa is even. -/
structure Interval where
  value : Nat
  low : Nat
  high : Nat
  closed : Bool
  unit : Int

/-- The decimals that round to the positive number `mantissa · 2 ^ exponent` of the format. -/
def interval (f : BinaryFormat) (mantissa : Nat) (exponent : Int) : Interval :=
  let (n, d) := shiftQuotient mantissa 1 (-exponent)
  let e := f.lastPlace n d
  let (a, b) := shiftQuotient n d e
  let m := a / b
  let gapBelow := if m = 1 <<< (f.precision - 1) ∧ f.minExponent < e then 1 else 2
  ⟨4 * m, 4 * m - gapBelow, 4 * m + 2, m % 2 = 0, e - 2⟩

/-- The point of the decimal grid of step `10 ^ t` that lies in the interval, the nearest one if
there are several. -/
def Interval.onGrid? (i : Interval) (t : Int) : Option Nat :=
  let (n, d) := shiftQuotient 1 1 (-i.unit)
  let (a, b) := scaleQuotient n d t
  let below := i.value * a / b
  let r := i.value * a % b
  let down := if i.closed then i.low * a ≤ below * b else i.low * a < below * b
  let up := if i.closed then (below + 1) * b ≤ i.high * a else (below + 1) * b < i.high * a
  if down ∧ up then
    if 2 * r < b ∨ (2 * r = b ∧ below % 2 = 0) then some below else some (below + 1)
  else if down then some below
  else if up then some (below + 1)
  else none

/-- The shortest decimal that rounds to `± mantissa · 2 ^ exponent`: grids are tried from the
coarsest, and seventeen digits always suffice. -/
def shortest (f : BinaryFormat) (negative : Bool) (mantissa : Nat) (exponent : Int) : Decimal :=
  if mantissa = 0 then ⟨negative, 0, 0⟩
  else
    let i := f.interval mantissa exponent
    let (n, d) := shiftQuotient mantissa 1 (-exponent)
    let point := pointPlace n d
    let found := (List.range 17).findSome? fun (k : Nat) =>
      let t := point - (k + 1)
      (i.onGrid? t).map fun digits => (digits, t)
    match found with
    | some (digits, t) =>
      let (digits, t) := Decimal.dropZeros 20 digits t
      ⟨negative, digits, t⟩
    | none => ⟨negative, 0, 0⟩

end BinaryFormat

end ReplicaSetOperator

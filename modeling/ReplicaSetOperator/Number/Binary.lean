/-!
# Binary fractions

The numbers of a floating-point format, as exact values. `Binary` is a fraction
`± mantissa · 2 ^ exponent` kept reduced, or an infinity, or what stands where there is no
number; `BinaryFormat` says which fractions a format holds, and `BinaryFormat.round` takes a
quotient of natural numbers to the nearest of them, ties to the even mantissa. Everything is
computed in exact integer arithmetic, so that a rounding can be evaluated inside a proof.

`Binary.unsigned` forgets the sign of zero: two numbers are numerically equal when they agree
after it. What is not a number is not equal to anything, itself included (`Binary.isNumber`).
-/

namespace ReplicaSetOperator

/-- A binary fraction `± mantissa · 2 ^ exponent`, or an infinity, or no number. Fractions are
kept reduced: the mantissa is odd, or both it and the exponent are zero. -/
inductive Binary where
  | finite (negative : Bool) (mantissa : Nat) (exponent : Int)
  | infinite (negative : Bool)
  | undefined
deriving DecidableEq, Inhabited

/-- A format of binary fractions: the bits of a mantissa, the exponent of the least
positive number, and the exponent of the last place of the greatest. -/
structure BinaryFormat where
  precision : Nat
  minExponent : Int
  maxExponent : Int

/-- The 64-bit format. -/
def BinaryFormat.double : BinaryFormat := ⟨53, -1074, 971⟩

/-- The 32-bit format. -/
def BinaryFormat.single : BinaryFormat := ⟨24, -149, 104⟩

namespace Binary

/-- The number zero, with its sign. -/
def zero (negative : Bool) : Binary := .finite negative 0 0

/-- Halves an even mantissa at most `steps` times, moving the twos to the exponent. -/
def halve : Nat → Nat → Int → Nat × Int
  | 0, mantissa, exponent => (mantissa, exponent)
  | steps + 1, mantissa, exponent =>
    if mantissa % 2 = 0 then halve steps (mantissa / 2) (exponent + 1) else (mantissa, exponent)

/-- The reduced fraction of a given value. -/
def reduced (negative : Bool) (mantissa : Nat) (exponent : Int) : Binary :=
  if mantissa = 0 then zero negative
  else
    let (m, e) := halve (mantissa.log2 + 1) mantissa exponent
    .finite negative m e

/-- The number with the sign of zero forgotten. -/
def unsigned : Binary → Binary
  | .finite _ 0 _ => zero false
  | x => x

/-- Whether it is a number, and so equal to itself. -/
def isNumber : Binary → Bool
  | .undefined => false
  | _ => true

/-- Whether the number is zero, of either sign. -/
def isZero : Binary → Bool
  | .finite _ 0 _ => true
  | _ => false

/-- The number with its sign turned over. -/
def negate : Binary → Binary
  | .finite negative mantissa exponent => .finite (!negative) mantissa exponent
  | .infinite negative => .infinite (!negative)
  | .undefined => .undefined

end Binary

/-! ### Rounding -/

/-- Numerator and denominator of `n / d · 2 ^ -e`, both natural numbers. -/
def shiftQuotient (n d : Nat) (e : Int) : Nat × Nat :=
  match e with
  | .ofNat k => (n, d <<< k)
  | .negSucc k => (n <<< (k + 1), d)

/-- The integer nearest to `n / d`; of two equally near the even one. -/
def roundQuotient (n d : Nat) : Nat :=
  let q := n / d
  let r := n % d
  if d < 2 * r ∨ (2 * r = d ∧ q % 2 = 1) then q + 1 else q

/-- The greatest `k` with `2 ^ k ≤ n / d`, for positive `n` and `d`. -/
def floorLog2 (n d : Nat) : Int :=
  let k : Int := (n.log2 : Int) - d.log2
  let (a, b) := shiftQuotient n d k
  if a < b then k - 1 else k

namespace BinaryFormat

/-- The exponent of the last place that the format keeps of `n / d`. -/
def lastPlace (f : BinaryFormat) (n d : Nat) : Int :=
  max f.minExponent (floorLog2 n d - (f.precision - 1))

/-- The number of the format that is nearest to `± n / d`; beyond the greatest it is infinite. -/
def round (f : BinaryFormat) (negative : Bool) (n d : Nat) : Binary :=
  if n = 0 then .zero negative
  else
    let e := f.lastPlace n d
    let (a, b) := shiftQuotient n d e
    let m := roundQuotient a b
    if f.maxExponent < e ∨ (e = f.maxExponent ∧ 1 <<< f.precision ≤ m) then .infinite negative
    else .reduced negative m e

/-- The number of the format that is nearest to another binary fraction. -/
def convert (f : BinaryFormat) : Binary → Binary
  | .undefined => .undefined
  | .infinite negative => .infinite negative
  | .finite negative m (.ofNat k) => f.round negative (m <<< k) 1
  | .finite negative m (.negSucc k) => f.round negative m (1 <<< (k + 1))

/-- The number of the format that is nearest to an integer. -/
def ofInt (f : BinaryFormat) (i : Int) : Binary :=
  f.round (decide (i < 0)) i.natAbs 1

/-- The rounded product of two magnitudes. -/
def mul (f : BinaryFormat) : Binary → Binary → Binary
  | .finite s m e, .finite _ m' e' => f.convert (.finite s (m * m') (e + e'))
  | .undefined, _ | _, .undefined => .undefined
  | .infinite s, _ => .infinite s
  | .finite s _ _, .infinite _ => .infinite s

/-- The rounded quotient of two magnitudes, the second one not zero. -/
def div (f : BinaryFormat) : Binary → Binary → Binary
  | .finite s m e, .finite _ m' e' =>
    match e - e' with
    | .ofNat k => f.round s (m <<< k) m'
    | .negSucc k => f.round s m (m' <<< (k + 1))
  | .undefined, _ | _, .undefined => .undefined
  | .infinite s, _ => .infinite s
  | .finite s _ _, .infinite _ => .zero s

end BinaryFormat

end ReplicaSetOperator

import ReplicaSetOperator.Json.Basic
import ReplicaSetOperator.Number.Shortest

/-!
# Number literals

How the characters of a number become a `Number`. A literal without fraction and exponent that
fits 64 bits is an integer, with the exception of `-0`. Every other literal is a double: its
digits are taken into a 64-bit significand as long as they fit, and the significand is multiplied
or divided by a power of ten, each step rounded. A magnitude beyond the greatest double is out of
range.
-/

namespace ReplicaSetOperator

/-- The parts of a number literal. Digits are in the order in which they stand. -/
structure Literal where
  negative : Bool := false
  whole : List Nat := []
  fraction : List Nat := []
  isReal : Bool := false
  exponentNegative : Bool := false
  exponent : Nat := 0
deriving DecidableEq, Inhabited

namespace Literal

/-- Takes digits into a significand until one does not fit 64 bits; gives the significand and how
many digits are left. -/
def absorb (significand : Nat) : List Nat → Nat × Nat
  | [] => (significand, 0)
  | d :: rest =>
    if significand * 10 + d < 0x10000000000000000 then absorb (significand * 10 + d) rest
    else (significand, rest.length + 1)

/-- The value of a list of decimal digits. -/
def digitsValue (ds : List Nat) : Nat :=
  ds.foldl (fun n d => n * 10 + d) 0

/-- The double nearest to a power of ten. -/
def powerOfTen (k : Nat) : Binary :=
  BinaryFormat.double.round false (Nat.pow 10 k) 1

/-- Multiplies a double by `10 ^ exponent`, in steps that the table of powers up to `10 ^ 308`
allows; none beyond the greatest double. -/
def scale : Nat → Binary → Int → Option Binary
  | 0, x, _ => some x
  | steps + 1, x, exponent =>
    if x.isZero then some x
    else if 308 < exponent then none
    else if 0 ≤ exponent then
      match BinaryFormat.double.mul x (powerOfTen exponent.toNat) with
      | .infinite _ => none
      | y => some y
    else if -308 ≤ exponent then
      some (BinaryFormat.double.div x (powerOfTen (-exponent).toNat))
    else scale steps (BinaryFormat.double.div x (powerOfTen 308)) (exponent + 308)

/-- The double that the literal stands for; none if it is out of range. -/
def real? (l : Literal) : Option Binary :=
  let (significand, dropped) := absorb 0 l.whole
  let (significand, left) := absorb significand l.fraction
  let given : Int := if l.exponentNegative then -(l.exponent : Int) else l.exponent
  let exponent := given + dropped - ((l.fraction.length - left : Nat) : Int)
  let x := BinaryFormat.double.round false significand 1
  (scale 4 x exponent).map fun y => if l.negative then y.negate else y

/-- The number that the literal stands for; none if it is out of range. -/
def number? (l : Literal) : Option Number :=
  let n := digitsValue l.whole
  if l.isReal then l.real?.map .real
  else if l.negative then
    if n ≠ 0 ∧ n ≤ 0x8000000000000000 then some (.integer (-(n : Int))) else l.real?.map .real
  else if n < 0x10000000000000000 then some (.integer n)
  else l.real?.map .real

end Literal

/-- The text of a number. -/
def Number.text : Number → List Char
  | .integer i => (toString i).toList
  | .real (.finite negative mantissa exponent) =>
    (BinaryFormat.double.shortest negative mantissa exponent).text .double
  | .single (.finite negative mantissa exponent) =>
    (BinaryFormat.single.shortest negative mantissa exponent).text .single
  | .real _ | .single _ => ['n', 'u', 'l', 'l']

end ReplicaSetOperator

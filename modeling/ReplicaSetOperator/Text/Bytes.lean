/-!
# Bytes and text

Bytes are lists of octets. `Bytes.ofText` is the UTF-8 form of a text, `Bytes.text?` reads it
back, and `Bytes.chars` reads what there is of characters in bytes that are no text. `Bytes.hex`
writes two lower-case digits an octet, and `Bytes.ofHex?` reads digits of either case.
-/

namespace ReplicaSetOperator

/-- A sequence of octets. -/
abbrev Bytes := List UInt8

namespace Bytes

/-- The UTF-8 form of a text. -/
def ofText (s : String) : Bytes :=
  s.toUTF8.data.toList

/-- The text whose UTF-8 form the bytes are. -/
def text? (b : Bytes) : Option String :=
  String.fromUTF8? ⟨b.toArray⟩

/-- The character whose UTF-8 form stands at the front of the bytes, with the length of that. -/
def firstChar? (b : Bytes) : Option (Char × Nat) :=
  [1, 2, 3, 4].findSome? fun n =>
    ((text? (b.take n)).bind fun s => s.toList.head?).map (·, n)

/-- The first `n` characters of the bytes; an octet that belongs to none counts as one. -/
def firstChars : Nat → Bytes → List (Option Char)
  | 0, _ | _, [] => []
  | n + 1, x :: b =>
    match firstChar? (x :: b) with
    | some (c, k) => some c :: firstChars n (b.drop (k - 1))
    | none => none :: firstChars n b

/-- The characters of the bytes, and nothing for every octet that belongs to none. -/
def chars (b : Bytes) : List (Option Char) := firstChars b.length b

/-- A hexadecimal digit in lower case. -/
def hexDigit (n : Nat) : Char :=
  if n < 10 then Char.ofNat ('0'.toNat + n) else Char.ofNat ('a'.toNat + (n - 10))

/-- The value of a hexadecimal digit of either case. -/
def hexValue? (c : Char) : Option Nat :=
  if '0' ≤ c ∧ c ≤ '9' then some (c.toNat - '0'.toNat)
  else if 'a' ≤ c ∧ c ≤ 'f' then some (c.toNat - 'a'.toNat + 10)
  else if 'A' ≤ c ∧ c ≤ 'F' then some (c.toNat - 'A'.toNat + 10)
  else none

/-- Two lower-case hexadecimal digits an octet. -/
def hex (b : Bytes) : List Char :=
  b.flatMap fun x => [hexDigit (x.toNat / 16), hexDigit (x.toNat % 16)]

/-- The bytes that pairs of hexadecimal digits stand for. -/
def ofHex? : List Char → Option Bytes
  | [] => some []
  | c :: d :: rest => do
    let high ← hexValue? c
    let low ← hexValue? d
    let bytes ← ofHex? rest
    pure (UInt8.ofNat (high * 16 + low) :: bytes)
  | [_] => none

end Bytes

end ReplicaSetOperator

import ReplicaSetOperator.Text.Bytes

/-!
# Fingerprints

The fingerprint of bytes is a number of 64 bits that takes in one octet after another: the octet is
added bit by bit, and the sum is multiplied by a prime. It does not see where one text ends and the
next begins if both are taken in, as `fingerprint_append` shows.
-/

namespace ReplicaSetOperator

namespace Bytes

/-- The fingerprint after one more octet. -/
def takeIn (h : UInt64) (octet : UInt8) : UInt64 := (h ^^^ octet.toUInt64) * 0x100000001b3

/-- The fingerprint of bytes. -/
def fingerprint (b : Bytes) : UInt64 := b.foldl takeIn 0xcbf29ce484222325

/-- The fingerprint goes on from that of what came before. -/
theorem fingerprint_append (a b : Bytes) :
    (a ++ b).fingerprint = b.foldl takeIn a.fingerprint := by
  simp [fingerprint, List.foldl_append]

end Bytes

end ReplicaSetOperator

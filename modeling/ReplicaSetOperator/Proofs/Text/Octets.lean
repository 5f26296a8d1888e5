import ReplicaSetOperator.Text.Base64

/-!
# Octets of texts and texts of octets

Reading undoes writing for the two forms in which octets and texts stand for each other: the UTF-8
form of a text (`Bytes.text?_ofText`) and the base 64 text of octets (`Base64.decode?_encode`).
-/

namespace ReplicaSetOperator

namespace Bytes

/-- The UTF-8 form of a text is read back as the text. -/
theorem text?_ofText (s : String) : text? (ofText s) = some s := by
  have octets : (⟨(ofText s).toArray⟩ : ByteArray) = s.toByteArray := by
    simp [ofText]
  rw [text?, octets, String.fromUTF8?, dif_pos s.isValidUTF8]
  rfl

end Bytes

namespace Base64

/-- A digit is read as itself, and none of them is the padding. -/
theorem value?_digit {n : Nat} (h : n < 64) : value? (digit n) = some n ∧ digit n ≠ '=' := by
  have all : ∀ n < 64, value? (digit n) = some n ∧ digit n ≠ '=' := by decide
  exact all n h

/-- An octet is its number. -/
theorem ofNat_eq {x : UInt8} {n : Nat} (h : n = x.toNat) : UInt8.ofNat n = x := by
  rw [h, UInt8.ofNat_toNat]

/-- Octets that are written in base 64 are read back. -/
theorem decode?_encode (b : Bytes) : decode? (encode b) = some b := by
  -- by the length of the last group, which has one, two or three octets
  induction b using encode.induct with
  | case1 => rfl
  | case2 a =>
    have ha := a.toNat_lt
    obtain ⟨p, -⟩ := value?_digit (n := a.toNat / 4) (by omega)
    obtain ⟨q, -⟩ := value?_digit (n := a.toNat % 4 * 16) (by omega)
    simp only [encode, decode?, p, q, Option.bind_eq_bind, Option.bind_some, Nat.mul_mod_left,
      if_true, Option.some.injEq, List.cons.injEq, and_true]
    exact ofNat_eq (by omega)
  | case3 a b =>
    have ha := a.toNat_lt
    have hb := b.toNat_lt
    obtain ⟨p, -⟩ := value?_digit (n := a.toNat / 4) (by omega)
    obtain ⟨q, -⟩ := value?_digit (n := a.toNat % 4 * 16 + b.toNat / 16) (by omega)
    obtain ⟨r, apart⟩ := value?_digit (n := b.toNat % 16 * 4) (by omega)
    -- the third digit is no padding, so this is not the shortest group
    rw [encode, decode?]
    · simp only [p, q, r, Option.bind_eq_bind, Option.bind_some, Nat.mul_mod_left, if_true,
        Option.some.injEq, List.cons.injEq, and_true]
      exact ⟨ofNat_eq (by omega), ofNat_eq (by omega)⟩
    · exact fun padding => absurd padding apart
  | case4 a b c rest ih =>
    have ha := a.toNat_lt
    have hb := b.toNat_lt
    have hc := c.toNat_lt
    obtain ⟨p, -⟩ := value?_digit (n := a.toNat / 4) (by omega)
    obtain ⟨q, -⟩ := value?_digit (n := a.toNat % 4 * 16 + b.toNat / 16) (by omega)
    obtain ⟨r, -⟩ := value?_digit (n := b.toNat % 16 * 4 + c.toNat / 64) (by omega)
    obtain ⟨s, apart⟩ := value?_digit (n := c.toNat % 64) (by omega)
    have group : decode? (encode (a :: b :: c :: rest)) =
        some (UInt8.ofNat (a.toNat / 4 * 4 + (a.toNat % 4 * 16 + b.toNat / 16) / 16) ::
          UInt8.ofNat ((a.toNat % 4 * 16 + b.toNat / 16) % 16 * 16 +
            (b.toNat % 16 * 4 + c.toNat / 64) / 4) ::
          UInt8.ofNat ((b.toNat % 16 * 4 + c.toNat / 64) % 4 * 64 + c.toNat % 64) :: rest) := by
      -- the last digit is no padding, so this is not one of the shorter groups
      rw [encode, decode?]
      · simp only [p, q, r, s, ih, Option.bind_eq_bind, Option.bind_some]
      · exact fun _ last => absurd last apart
      · exact fun last => absurd last apart
    rw [group, ofNat_eq (x := a) (by omega), ofNat_eq (x := b) (by omega),
      ofNat_eq (x := c) (by omega)]

end Base64

end ReplicaSetOperator

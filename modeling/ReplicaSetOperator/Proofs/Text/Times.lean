import ReplicaSetOperator.Text.Timestamp

/-!
# Times and their texts

The text of a valid timestamp is read back as the timestamp (`Timestamp.parse?_text`), and what is
read from any text is valid (`Timestamp.valid_of_parse?`).
-/

namespace ReplicaSetOperator

namespace Timestamp

/-! ### Numbers -/

/-- The value of decimal digits. -/
def digitsValue (ds : List Char) : Nat :=
  ds.foldl (fun n d => n * 10 + (d.toNat - '0'.toNat)) 0

/-- The digits of a number have its value. -/
theorem digitsValue_toDigits (n : Nat) : digitsValue (Nat.toDigits 10 n) = n := by
  have folded := Nat.ofDigitChars_ten_toDigits (n := n)
  rw [Nat.ofDigitChars_eq_foldl] at folded
  simpa only [digitsValue, Nat.mul_comm] using folded

/-- Zeros in front change no value. -/
theorem digitsValue_zeros (k : Nat) (ds : List Char) :
    digitsValue (List.replicate k '0' ++ ds) = digitsValue ds := by
  induction k with
  | zero => rfl
  | succ k ih => exact ih

/-- Padding puts zeros in front of the digits. -/
theorem padded_eq (width n : Nat) :
    padded width n =
      List.replicate (width - (Nat.toDigits 10 n).length) '0' ++ Nat.toDigits 10 n := by
  rw [padded, Nat.toString_eq_repr, Nat.toList_repr]

theorem isDigit_of_mem_padded {width n : Nat} {c : Char} (h : c ∈ padded width n) :
    c.isDigit = true := by
  rw [padded_eq] at h
  rcases List.mem_append.1 h with h | h
  · rw [(List.mem_replicate.1 h).2]
    rfl
  · exact Nat.isDigit_of_mem_toDigits (by decide) (by decide) h

theorem digitsValue_padded (width n : Nat) : digitsValue (padded width n) = n := by
  rw [padded_eq, digitsValue_zeros, digitsValue_toDigits]

theorem length_padded {width n : Nat} (short : (Nat.toDigits 10 n).length ≤ width) :
    (padded width n).length = width := by
  rw [padded_eq, List.length_append, List.length_replicate]
  omega

theorem padded_eq_cons (width n : Nat) :
    ∃ c cs, padded width n = c :: cs ∧ c.isDigit = true := by
  have filled : padded width n ≠ [] := by
    rw [padded_eq]
    exact List.append_ne_nil_of_right_ne_nil _ Nat.toDigits_ne_nil
  obtain ⟨c, cs, same⟩ := List.exists_cons_of_ne_nil filled
  exact ⟨c, cs, same, isDigit_of_mem_padded (same ▸ List.mem_cons_self)⟩

/-- A digit is no blank. -/
theorem isBlank_of_isDigit {c : Char} (h : c.isDigit = true) : isBlank c = false := by
  have range : 48 ≤ c.toNat ∧ c.toNat ≤ 57 := by
    simp only [Char.isDigit, Bool.and_eq_true, decide_eq_true_eq] at h
    exact h
  simp only [isBlank, decide_eq_false_iff_not]
  omega

theorem skipBlanks_cons {c : Char} (h : isBlank c = false) (cs : List Char) :
    skipBlanks (c :: cs) = c :: cs := by
  rw [skipBlanks, List.dropWhile_cons_of_neg]
  rw [h]
  exact Bool.false_ne_true

theorem skipBlanks_padded (width n : Nat) (rest : List Char) :
    skipBlanks (padded width n ++ rest) = padded width n ++ rest := by
  obtain ⟨c, cs, same, digit⟩ := padded_eq_cons width n
  rw [same, List.cons_append, skipBlanks_cons (isBlank_of_isDigit digit)]

/-- A number that is padded to its width is read, whatever follows it. -/
theorem number?_padded {width n : Nat} (short : (Nat.toDigits 10 n).length ≤ width)
    (rest : List Char) : number? width (padded width n ++ rest) = some (n, rest) := by
  have length := length_padded short
  have digits : (padded width n).takeWhile Char.isDigit = padded width n := by
    have whole : (padded width n ++ []).takeWhile Char.isDigit =
        padded width n ++ [].takeWhile Char.isDigit :=
      List.takeWhile_append_of_pos fun _ mem => isDigit_of_mem_padded mem
    simpa using whole
  -- a digit in what follows is not looked at, as it is beyond the width
  have front : (padded width n ++ rest).take width = padded width n := List.take_left' length
  have filled : (padded width n).isEmpty = false := by
    obtain ⟨c, cs, same, -⟩ := padded_eq_cons width n
    rw [same]
    rfl
  rw [number?, skipBlanks_padded, front, digits, filled, List.drop_left]
  exact congrArg (fun k => some (k, rest)) (digitsValue_padded width n)

/-- A number of any length is read up to a character that is no digit. -/
theorem number?_long (width n : Nat) {c : Char} (noDigit : c.isDigit = false)
    (rest : List Char) :
    number? (padded width n ++ c :: rest).length (padded width n ++ c :: rest) =
      some (n, c :: rest) := by
  have digits : (padded width n ++ c :: rest).takeWhile Char.isDigit = padded width n := by
    rw [List.takeWhile_append_of_pos fun _ mem => isDigit_of_mem_padded mem,
      List.takeWhile_cons_of_neg (by rw [noDigit]; exact Bool.false_ne_true), List.append_nil]
  have filled : (padded width n).isEmpty = false := by
    obtain ⟨c, cs, same, -⟩ := padded_eq_cons width n
    rw [same]
    rfl
  rw [number?, skipBlanks_padded, List.take_length, digits, filled, List.drop_left]
  exact congrArg (fun k => some (k, c :: rest)) (digitsValue_padded width n)

/-! ### Parts of a time -/

/-- A year is read back, up to the mark that follows it. -/
theorem year?_yearText (year : Int) (rest : List Char) :
    year? (yearText year ++ '-' :: rest) = some (year, '-' :: rest) := by
  obtain ⟨c, cs, same, digit⟩ := padded_eq_cons 4 year.natAbs
  have number := number?_long 4 year.natAbs (c := '-') rfl rest
  rw [same, List.cons_append] at number
  unfold yearText
  -- a year of at most four digits and no minus is written without a sign
  split
  · next range =>
    have width : (Nat.toDigits 10 year.natAbs).length ≤ 4 :=
      (Nat.length_toDigits_le_iff (by decide) (by decide)).2 (by omega)
    have short := number?_padded width ('-' :: rest)
    rw [same, List.cons_append] at short
    rw [year?, same, List.cons_append, skipBlanks_cons (isBlank_of_isDigit digit)]
    have noMinus : c ≠ '-' := by rintro rfl; cases digit
    have noPlus : c ≠ '+' := by rintro rfl; cases digit
    dsimp only
    split
    · next eq => exact absurd (List.cons.inj eq).1 noMinus
    · next eq => exact absurd (List.cons.inj eq).1 noPlus
    · rw [short]
      exact congrArg (fun y => some (y, '-' :: rest)) (by omega)
  · next range =>
    have isDigit : (((c :: (cs ++ '-' :: rest)).head?.map Char.isDigit).getD false) = true := digit
    split
    · next negative =>
      rw [List.cons_append, year?, skipBlanks_cons rfl, same, List.cons_append]
      show (if (((c :: (cs ++ '-' :: rest)).head?.map Char.isDigit).getD false) then
        number? (c :: (cs ++ '-' :: rest)).length (c :: (cs ++ '-' :: rest)) else none).map _ = _
      rw [isDigit, if_pos rfl, number]
      exact congrArg (fun y => some (y, '-' :: rest)) (by omega)
    · next positive =>
      rw [List.cons_append, year?, skipBlanks_cons rfl, same, List.cons_append]
      show (if (((c :: (cs ++ '-' :: rest)).head?.map Char.isDigit).getD false) then
        number? (c :: (cs ++ '-' :: rest)).length (c :: (cs ++ '-' :: rest)) else none).map _ = _
      rw [isDigit, if_pos rfl, number]
      exact congrArg (fun y => some (y, '-' :: rest)) (by omega)

/-- A mark is found in front, where there is no blank. -/
theorem mark?_cons {c : Char} (h : isBlank c = false) (rest : List Char) :
    mark? c (c :: rest) = some rest := by
  rw [mark?, skipBlanks_cons h]
  exact if_pos rfl

/-- Without an offset the time is what has been read. -/
theorem ahead_zero {t : Timestamp} (hour : t.hour ≤ 23) (minute : t.minute ≤ 59) :
    t.ahead 0 = t := by
  have total : ¬ (t.hour * 60 + t.minute - 0 : Int) < 0 := by omega
  have within : ¬ 1440 ≤ (t.hour * 60 + t.minute - 0 : Int) := by omega
  have toNat : (t.hour * 60 + t.minute - 0 : Int).toNat = t.hour * 60 + t.minute := by omega
  have hours : (t.hour * 60 + t.minute) / 60 = t.hour := by omega
  have minutes : (t.hour * 60 + t.minute) % 60 = t.minute := by omega
  rw [ahead]
  dsimp only
  rw [if_neg total, if_neg within, toNat, hours, minutes]

/-- The text of a valid timestamp is read back. -/
theorem parse?_text {t : Timestamp} (valid : t.Valid) : parse? t.text = some t := by
  obtain ⟨-, -, -, month, -, day, hour, minute, second⟩ := id valid
  have lastDay : daysIn t.year t.month ≤ 31 := by
    unfold daysIn
    split
    · split <;> decide
    · split <;> decide
  -- every part but the year has two digits
  have pair {n : Nat} (small : n < 100) (rest : List Char) :
      number? 2 (padded 2 n ++ rest) = some (n, rest) :=
    number?_padded ((Nat.length_toDigits_le_iff (by decide) (by decide)).2 small) rest
  have dash : isBlank '-' = false := rfl
  have colon : isBlank ':' = false := rfl
  have separator (rest : List Char) : separator? ('T' :: rest) = some rest := rfl
  simp only [text, List.append_assoc, List.cons_append]
  rw [parse?, year?_yearText]
  simp only [Option.bind_eq_bind, Option.bind_some]
  -- month, day, hour, minute and second follow, each behind its mark
  rw [mark?_cons dash, Option.bind_some, pair (by omega), Option.bind_some]
  dsimp only
  rw [mark?_cons dash, Option.bind_some, pair (by omega), Option.bind_some]
  dsimp only
  rw [separator, Option.bind_some, pair (by omega), Option.bind_some]
  dsimp only
  rw [mark?_cons colon, Option.bind_some, pair (by omega), Option.bind_some]
  dsimp only
  rw [mark?_cons colon, Option.bind_some, pair (by omega), Option.bind_some]
  have here : (⟨t.year, t.month, t.day, t.hour, t.minute, t.second⟩ : Timestamp) = t := rfl
  show (if (skipBlanks []).isEmpty ∧ Valid ⟨t.year, t.month, t.day, t.hour, t.minute, t.second⟩ ∧
    (ahead ⟨t.year, t.month, t.day, t.hour, t.minute, t.second⟩ 0).Valid then _ else none) = some t
  rw [here, ahead_zero hour minute]
  exact if_pos ⟨rfl, valid, valid⟩

/-- What is read from a text is valid. -/
theorem valid_of_parse? {cs : List Char} {t : Timestamp} (h : parse? cs = some t) : t.Valid := by
  simp only [parse?, Option.bind_eq_bind, Option.bind_eq_some_iff] at h
  obtain ⟨_, -, _, -, _, -, _, -, _, -, _, -, _, -, _, -, _, -, _, -, _, -, _, -, _, -, h⟩ := h
  split at h
  · next ok =>
    cases h
    exact ok.2.2
  · cases h

end Timestamp

end ReplicaSetOperator

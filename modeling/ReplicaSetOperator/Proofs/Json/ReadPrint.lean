import ReplicaSetOperator.Json.Printer
import ReplicaSetOperator.Json.Reread

/-!
# Reading what is printed

The reader, started where a value is due, goes past the printed text of a value and has that value
then (`Reader.run_print`): the same value, but for its numbers, which are those that their texts are
read as. The value must have no broken part, stand inside few enough others, and have numbers whose
texts are read wherever they stand (`Json.Legible`); integers of 64 bits are read as themselves.

A number is not complete before a character that does not continue it. So a value that has been
printed is *settled*, not closed: what follows a value finds it as if it had been closed.
-/

namespace ReplicaSetOperator

namespace Reader

/-- The state after some characters. -/
def run (s : State) (cs : List Char) : State := cs.foldl step s

@[simp] theorem run_nil (s : State) : run s [] = s := rfl

@[simp] theorem run_cons (s : State) (c : Char) (cs : List Char) :
    run s (c :: cs) = run (step s c) cs := rfl

/-- Characters are read one after another. -/
theorem run_append (s : State) (cs ds : List Char) : run s (cs ++ ds) = run (run s cs) ds :=
  List.foldl_append

/-! ### Settled values -/

/-- A value has been read inside some frames, up to the end of its number if it is one. -/
inductive Settled (j : Json) (frames : List Frame) : State → Prop
  | closed : Settled j frames (close j frames)
  | number {phase : Phase} {l : Literal} (complete : phase.complete = true)
    (value : numberValue l = j) : Settled j frames (.number frames phase l)

/-- The characters that follow a value. -/
def isEnding (c : Char) : Bool := c = ',' || c = ']' || c = '}'

theorem extend_ending {c : Char} (phase : Phase) (l : Literal) (ending : isEnding c = true) :
    extend phase l c = none := by
  simp only [isEnding, Bool.or_eq_true, decide_eq_true_eq] at ending
  rcases ending with (rfl | rfl) | rfl <;> cases phase <;> rfl

/-- What follows a settled value finds it closed. -/
theorem Settled.step {j : Json} {frames : List Frame} {s : State} {c : Char}
    (h : Settled j frames s) (ending : isEnding c = true) :
    step s c = stepAfter (close j frames) c := by
  cases h with
  | closed =>
    cases frames with
    | nil => rfl
    | cons frame frames => cases frame <;> rfl
  -- the number that has been read is complete, and the character closes it
  | @number phase l complete value =>
    have noDigit : digit? c = none := by
      simp only [isEnding, Bool.or_eq_true, decide_eq_true_eq] at ending
      rcases ending with (rfl | rfl) | rfl <;> rfl
    rw [Reader.step, extend_ending phase l ending]
    simp [complete, noDigit, value]

/-- The end of the text finds a settled value closed. -/
theorem Settled.finish {j : Json} {frames : List Frame} {s : State} (h : Settled j frames s) :
    finish s = finish (close j frames) := by
  cases h with
  | closed => rfl
  | number complete value =>
    rw [Reader.finish, complete, value]
    cases frames with
    | nil => rfl
    | cons frame frames => cases frame <;> rfl

/-! ### Strings -/

/-- The buffer after characters that stand for themselves. -/
def Buffer.pushAll (b : Buffer) (cs : List Char) : Buffer := cs.foldl Buffer.push b

/-- Characters that stand for themselves are put in front, as the buffer is kept in reverse. -/
theorem Buffer.pushAll_eq (cs chars : List Char) :
    Buffer.pushAll { chars := chars } cs = { chars := cs.reverse ++ chars } := by
  induction cs generalizing chars with
  | nil => rfl
  | cons c cs ih =>
    rw [pushAll, List.foldl_cons]
    exact (ih (c :: chars)).trans (by simp)

/-- The text of the buffer is the one that has been read. -/
theorem Buffer.text?_pushAll (cs : List Char) :
    (Buffer.pushAll {} cs).text? = some (String.ofList cs) := by
  rw [pushAll_eq]
  simp [text?]

/-- A control character is given by its two hexadecimal digits. -/
theorem run_control (frames : List Frame) (name : Option Json.Members) (b : Buffer) {n : Nat}
    (h : n < 32) :
    run (.text frames name b .outside)
        ['\\', 'u', '0', '0', Bytes.hexDigit (n / 16), Bytes.hexDigit (n % 16)] =
      .text frames name (b.push (Char.ofNat n)) .outside := by
  -- there are thirty-two of them, and each is read digit by digit
  iterate 32 rcases n with - | n; · rfl
  omega

/-- The escaped form of a character stands for it. -/
theorem run_escapeChar (frames : List Frame) (name : Option Json.Members) (b : Buffer)
    (c : Char) :
    run (.text frames name b .outside) (Json.escapeChar c) =
      .text frames name (b.push c) .outside := by
  unfold Json.escapeChar
  -- an escape of its own, two hexadecimal digits, or the character itself
  split
  · next h => subst h; rfl
  split
  · next h => subst h; rfl
  split
  · next h => subst h; rfl
  split
  · next h => subst h; rfl
  split
  · next h => subst h; rfl
  split
  · next h => subst h; rfl
  split
  · next h => subst h; rfl
  split
  · next h =>
    have small : c.toNat < 32 := h
    rw [run_control frames name b small, Char.ofNat_toNat]
  · next quote backslash _ _ _ _ _ control =>
    simp [step, stepText, quote, backslash, control]

theorem run_escapeChars (frames : List Frame) (name : Option Json.Members) (b : Buffer)
    (cs : List Char) :
    run (.text frames name b .outside) (cs.flatMap Json.escapeChar) =
      .text frames name (b.pushAll cs) .outside := by
  induction cs generalizing b with
  | nil => rfl
  | cons c cs ih =>
    rw [List.flatMap_cons, run_append, run_escapeChar, ih]
    rfl

/-- A printed string, read as a value or as a name. -/
theorem run_quoted (frames : List Frame) (name : Option Json.Members) (s : String) :
    run (.text frames name {} .outside) (s.toList.flatMap Json.escapeChar ++ ['"']) =
      match name with
      | none => close (.string s) frames
      | some ms => .colon ms s frames := by
  rw [run_append, run_escapeChars, run_cons, run_nil]
  have text := Buffer.text?_pushAll s.toList
  rw [String.ofList_toList] at text
  cases name with
  | none => simp [step, stepText, closeText, text]
  | some ms => simp [step, stepText, closeText, text]

/-! ### Numbers -/

/-- The text of a number is read as a number wherever it stands. -/
def Readable (n : Number) : Prop :=
  ∀ frames opened, Settled (.number n.reread) frames (run (.value frames opened) n.text)

/-- What the text of a number is read as shows in any one place. -/
theorem reread_eq {n m : Number}
    (h : Settled (.number m) [] (run (.value [] false) n.text)) : n.reread = m := by
  have whole : Json.read n.text = (.number m, false) := h.finish
  rw [Number.reread, whole]

/-- A number that is settled as itself in every place is read as itself. -/
theorem readable_of_settled {n m : Number}
    (h : ∀ frames opened, Settled (.number m) frames (run (.value frames opened) n.text)) :
    Readable n := by
  intro frames opened
  rw [reread_eq (h [] false)]
  exact h frames opened

/-- Every digit is read as the number that it stands for. -/
theorem digit?_digitChar {d : Nat} (h : d < 10) : digit? d.digitChar = some d := by
  have all : ∀ d < 10, digit? d.digitChar = some d := by decide
  exact all d h

/-- The digits of a positive number, read from a place where a first digit may stand. -/
theorem run_toDigits {s : State} {frames : List Frame} {l : Literal}
    (first : ∀ d < 10, d ≠ 0 →
      step s d.digitChar = .number frames .whole { l with whole := [d] })
    (n : Nat) (positive : n ≠ 0) :
    ∃ whole, run s (Nat.toDigits 10 n) = .number frames .whole { l with whole := whole } ∧
      Literal.digitsValue whole.reverse = n := by
  induction n using Nat.strongRecOn with
  | _ n ih =>
    -- one digit is read as it is, and more of them come down to all but the last one
    by_cases small : n < 10
    · rw [Nat.toDigits_of_lt_base small]
      exact ⟨[n], first n small positive, by simp [Literal.digitsValue]⟩
    · obtain ⟨whole, state, value⟩ := ih (n / 10) (by omega) (by omega)
      have last : n % 10 < 10 := Nat.mod_lt n (by decide)
      refine ⟨n % 10 :: whole, ?_, ?_⟩
      · rw [Nat.toDigits_of_base_le (by decide) (by omega), run_append, state]
        simp [step, extend, digit?_digitChar last]
      · rw [List.reverse_cons, Literal.digitsValue, List.foldl_append]
        rw [Literal.digitsValue] at value
        simp only [value, List.foldl_cons, List.foldl_nil]
        omega

/-- A first digit may stand where a value is due. -/
theorem step_value_digit (frames : List Frame) (opened : Bool) {d : Nat} (small : d < 10)
    (positive : d ≠ 0) :
    step (.value frames opened) d.digitChar = .number frames .whole { whole := [d] } := by
  iterate 10 rcases d with - | d; · first | rfl | exact absurd rfl positive
  omega

theorem step_sign_digit (frames : List Frame) (l : Literal) {d : Nat} (small : d < 10)
    (positive : d ≠ 0) :
    step (.number frames .sign l) d.digitChar = .number frames .whole { l with whole := [d] } := by
  iterate 10 rcases d with - | d; · first | rfl | exact absurd rfl positive
  omega

/-- An integer of 64 bits, with or without sign, is read as itself. -/
theorem settled_integer {i : Int} (low : -0x8000000000000000 ≤ i) (high : i < 0x10000000000000000)
    (frames : List Frame) (opened : Bool) :
    Settled (.number (.integer i)) frames
      (run (.value frames opened) (Number.integer i).text) := by
  rw [Number.text, Int.toString_eq_repr, Int.repr_eq_if]
  -- without a sign the digits are the number, with one they come after a minus
  by_cases sign : 0 ≤ i
  · rw [if_pos sign, Nat.toList_repr]
    -- zero is written as one digit
    by_cases zero : i.toNat = 0
    · have isZero : i = 0 := by omega
      subst isZero
      exact .number rfl rfl
    · obtain ⟨whole, state, value⟩ :=
        run_toDigits (l := {}) (fun _ => step_value_digit frames opened) i.toNat zero
      rw [state]
      refine .number rfl ?_
      have small : i.toNat < 0x10000000000000000 := by omega
      simp [numberValue, Literal.number?, value, small, Int.toNat_of_nonneg sign]
  · have positive : (-i).toNat ≠ 0 := by omega
    have minus : step (.value frames opened) '-' = .number frames .sign { negative := true } := rfl
    have text : "-".toList ++ Nat.toDigits 10 (-i).toNat = '-' :: Nat.toDigits 10 (-i).toNat := rfl
    rw [if_neg sign, String.toList_append, Nat.toList_repr, text, run_cons, minus]
    obtain ⟨whole, state, value⟩ :=
      run_toDigits (l := { negative := true })
        (fun _ => step_sign_digit frames { negative := true }) (-i).toNat positive
    rw [state]
    refine .number rfl ?_
    have small : (-i).toNat ≤ 0x8000000000000000 := by omega
    have back : -((-i).toNat : Int) = i := by omega
    simp only [numberValue, Literal.number?, value, Bool.false_eq_true, if_false, if_true]
    rw [if_pos ⟨positive, small⟩, back]

/-- So it can be read wherever it stands. -/
theorem readable_integer {i : Int} (low : -0x8000000000000000 ≤ i)
    (high : i < 0x10000000000000000) : Readable (.integer i) :=
  readable_of_settled (settled_integer low high)

/-- And its text is read as itself. -/
theorem reread_integer {i : Int} (low : -0x8000000000000000 ≤ i)
    (high : i < 0x10000000000000000) : (Number.integer i).reread = .integer i :=
  reread_eq (settled_integer low high [] false)

end Reader

/-! ### Values -/

namespace Json

mutual

/-- Whether the text of a value can be read: it has no broken part and only readable numbers. -/
def Legible : Json → Prop
  | .null | .bool _ | .string _ => True
  | .number n => Reader.Readable n
  | .array items => LegibleItems items
  | .object ms => LegibleMembers ms
  | .broken _ => False

/-- Whether the texts of values can be read. -/
def LegibleItems : List Json → Prop
  | [] => True
  | j :: rest => Legible j ∧ LegibleItems rest

/-- Whether the texts of members can be read. -/
def LegibleMembers : Members → Prop
  | [] => True
  | (_, j) :: rest => Legible j ∧ LegibleMembers rest

end

mutual

/-- How many arrays and objects stand inside one another. -/
def depth : Json → Nat
  | .array items => depthItems items + 1
  | .object ms => depthMembers ms + 1
  | _ => 0

/-- The greatest depth of values. -/
def depthItems : List Json → Nat
  | [] => 0
  | j :: rest => max (depth j) (depthItems rest)

/-- The greatest depth of the values of members. -/
def depthMembers : Members → Nat
  | [] => 0
  | (_, j) :: rest => max (depth j) (depthMembers rest)

end

end Json

namespace Reader

/-- There is room for one more frame below the greatest depth. -/
theorem isFull_eq_false {frames : List Frame} (h : frames.length < maxDepth) :
    isFull frames = false := by
  simp only [maxDepth] at h
  simp [isFull, maxDepth]
  omega

mutual

/-- Reading goes past the text of a value and has the value then. -/
theorem run_print {j : Json} (legible : j.Legible) (frames : List Frame) (opened : Bool)
    (room : frames.length + j.depth ≤ maxDepth) :
    Settled j.reread frames (run (.value frames opened) j.print) := by
  -- with `run_printItems` and `run_printMembers`, by recursion on the value
  match j with
  | .null => exact .closed
  | .bool true => exact .closed
  | .bool false => exact .closed
  | .number n =>
    rw [Json.Legible] at legible
    exact legible frames opened
  | .string s =>
    have text : run (.value frames opened) (Json.print (.string s)) = close (.string s) frames :=
      run_quoted frames none s
    rw [text]
    exact .closed
  | .array items =>
    rw [Json.Legible] at legible
    rw [Json.depth] at room
    -- an array may be opened, as there is room for its depth
    have start : step (.value frames opened) '[' = .value (.array [] :: frames) true := by
      have notFull : isFull frames = false := isFull_eq_false (by omega)
      change State.value (.array (if isFull frames then _ else []) :: frames) true = _
      rw [notFull]
      rfl
    have whole : run (.value frames opened) (Json.print (.array items)) =
        close (.array (Json.rereadItems items)) frames := by
      rw [Json.print, List.cons_append, run_cons, start, run_append]
      match items with
      | [] => rfl
      | item :: rest =>
        exact run_printItems legible (List.cons_ne_nil _ _) [] frames true (by omega)
    rw [whole]
    exact .closed
  | .object ms =>
    rw [Json.Legible] at legible
    rw [Json.depth] at room
    -- an object may be opened for the same reason
    have start : step (.value frames opened) '{' = .key [] frames true := by
      have notFull : isFull frames = false := isFull_eq_false (by omega)
      change State.key (if isFull frames then _ else []) frames true = _
      rw [notFull]
      rfl
    have whole : run (.value frames opened) (Json.print (.object ms)) =
        close (.object (Json.rereadMembers ms)) frames := by
      rw [Json.print, List.cons_append, run_cons, start, run_append]
      match ms with
      | [] => rfl
      | m :: rest =>
        exact run_printMembers legible (List.cons_ne_nil _ _) [] frames true (by omega)
    rw [whole]
    exact .closed
  | .broken _ => exact absurd legible (by simp [Json.Legible])

/-- Reading goes past the texts of items and the end of their array. -/
theorem run_printItems {items : List Json} (legible : Json.LegibleItems items)
    (filled : items ≠ []) (before : List Json) (frames : List Frame) (opened : Bool)
    (room : frames.length + 1 + Json.depthItems items ≤ maxDepth) :
    step (run (.value (.array before :: frames) opened) (Json.printItems items)) ']' =
      close (.array (before.reverse ++ Json.rereadItems items)) frames := by
  match items with
  | [] => exact absurd rfl filled
  | [j] =>
    rw [Json.LegibleItems] at legible
    rw [Json.depthItems] at room
    have item := run_print legible.1 (.array before :: frames) opened
      (by rw [List.length_cons]; omega)
    rw [Json.printItems, item.step rfl]
    simp [close, stepAfter, isBlank, Json.rereadItems]
  | j :: k :: rest =>
    rw [Json.LegibleItems] at legible
    rw [Json.depthItems] at room
    have item := run_print legible.1 (.array before :: frames) opened
      (by rw [List.length_cons]; omega)
    -- after the comma the others follow, with the first item read already
    have next := run_printItems legible.2 (List.cons_ne_nil _ _) (j.reread :: before) frames false
      (by omega)
    have comma : stepAfter (close j.reread (.array before :: frames)) ',' =
        .value (.array (j.reread :: before) :: frames) false := rfl
    rw [Json.printItems, run_append, run_cons, item.step rfl, comma, next]
    · simp [Json.rereadItems]
    · exact List.cons_ne_nil _ _

/-- Reading goes past the texts of members and the end of their object. -/
theorem run_printMembers {ms : Json.Members} (legible : Json.LegibleMembers ms) (filled : ms ≠ [])
    (before : Json.Members) (frames : List Frame) (opened : Bool)
    (room : frames.length + 1 + Json.depthMembers ms ≤ maxDepth) :
    step (run (.key before frames opened) (Json.printMembers ms)) '}' =
      close (.object (before.reverse ++ Json.rereadMembers ms)) frames := by
  match ms with
  | [] => exact absurd rfl filled
  | [(k, j)] =>
    rw [Json.LegibleMembers] at legible
    rw [Json.depthMembers] at room
    have member := run_print legible.1 (.member before k :: frames) false
      (by rw [List.length_cons]; omega)
    have name : run (.key before frames opened) (Json.printString k) = .colon before k frames :=
      run_quoted frames (some before) k
    have colon : step (.colon before k frames) ':' = .value (.member before k :: frames) false :=
      rfl
    rw [Json.printMembers, run_append, name, run_cons, colon, member.step rfl]
    simp [close, stepAfter, isBlank, Json.rereadMembers]
  | (k, j) :: m :: rest =>
    rw [Json.LegibleMembers] at legible
    rw [Json.depthMembers] at room
    have member := run_print legible.1 (.member before k :: frames) false
      (by rw [List.length_cons]; omega)
    -- after the comma the others follow, with the first member read already
    have next := run_printMembers legible.2 (List.cons_ne_nil _ _) ((k, j.reread) :: before)
      frames false (by omega)
    have name : run (.key before frames opened) (Json.printString k) = .colon before k frames :=
      run_quoted frames (some before) k
    have colon : step (.colon before k frames) ':' = .value (.member before k :: frames) false :=
      rfl
    have comma : stepAfter (close j.reread (.member before k :: frames)) ',' =
        .key ((k, j.reread) :: before) frames false := rfl
    rw [Json.printMembers, List.append_assoc, run_append, name, List.cons_append, run_cons, colon,
      run_append, run_cons, member.step rfl, comma, next]
    · simp [Json.rereadMembers]
    · exact List.cons_ne_nil _ _

end

end Reader

namespace Json

/-- A value that is printed is read back, but for its numbers, and nothing follows it. -/
theorem read_print {j : Json} (legible : j.Legible) (room : j.depth ≤ Reader.maxDepth) :
    read j.print = (j.reread, false) := by
  have settled := Reader.run_print legible [] false (by simpa using room)
  exact settled.finish

end Json

end ReplicaSetOperator

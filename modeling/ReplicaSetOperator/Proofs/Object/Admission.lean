import Mathlib.Data.List.Basic
import ReplicaSetOperator.Object.Schema
import ReplicaSetOperator.Proofs.Json.Merges
import ReplicaSetOperator.Proofs.Text.Times

/-!
# What a schema admits

Whether a value is one that a schema describes can be computed (`Schema.admits`): it has the type,
all its members are declared and described themselves, those that are required are there, and no two
items of a list agree in their keys. A server takes members away that are not declared
(`Schema.prune`); from what is admitted nothing is taken (`Schema.prune_of_admits`).

Times are admitted in the strict form of RFC 3339 only (`Timestamp.isDateTime`), which has four
digits for the year. The text of a timestamp has that form if its year has no more
(`Timestamp.isDateTime_text`).
-/

namespace ReplicaSetOperator

/-! ### Date-times -/

namespace Timestamp

/-- The number at the front, of exactly as many digits. -/
def digits? (width : Nat) (cs : List Char) : Option (Nat × List Char) :=
  if (cs.take width).length = width ∧ (cs.take width).all Char.isDigit then
    some (digitsValue (cs.take width), cs.drop width)
  else none

/-- The rest after a given character. -/
def exactly? (c : Char) : List Char → Option (List Char)
  | d :: rest => if d = c then some rest else none
  | [] => none

/-- Whether a text is an offset: `Z`, or a sign with hours and minutes. -/
def isOffset : List Char → Bool
  | [] => false
  | sign :: rest =>
    if sign = 'Z' ∨ sign = 'z' then rest.isEmpty
    else if sign = '+' ∨ sign = '-' then
      (do
        let (hour, cs) ← digits? 2 rest
        let cs ← exactly? ':' cs
        let (minute, cs) ← digits? 2 cs
        some (decide (hour ≤ 23 ∧ minute ≤ 59) && cs.isEmpty)).getD false
    else false

/-- Whether a text is a date and a time with an offset, in the form of RFC 3339. -/
def isDateTime (cs : List Char) : Bool :=
  (do
    let (year, cs) ← digits? 4 cs
    let cs ← exactly? '-' cs
    let (month, cs) ← digits? 2 cs
    let cs ← exactly? '-' cs
    let (day, cs) ← digits? 2 cs
    let cs ← (exactly? 'T' cs).or (exactly? 't' cs)
    let (hour, cs) ← digits? 2 cs
    let cs ← exactly? ':' cs
    let (minute, cs) ← digits? 2 cs
    let cs ← exactly? ':' cs
    let (second, cs) ← digits? 2 cs
    let cs ← fraction? cs
    some (decide (1 ≤ month ∧ month ≤ 12 ∧ 1 ≤ day ∧ day ≤ daysIn year month ∧ hour ≤ 23 ∧
      minute ≤ 59 ∧ second ≤ 60) && isOffset cs)).getD false

/-- The year has four digits at most and no sign. -/
def Plain (t : Timestamp) : Prop := 0 ≤ t.year ∧ t.year ≤ 9999

instance (t : Timestamp) : Decidable t.Plain :=
  inferInstanceAs (Decidable (0 ≤ t.year ∧ t.year ≤ 9999))

/-- A number is read off the digits that it is padded to. -/
theorem digits?_padded {width n : Nat} (short : (Nat.toDigits 10 n).length ≤ width)
    (rest : List Char) : digits? width (padded width n ++ rest) = some (n, rest) := by
  have length := length_padded short
  have front : (padded width n ++ rest).take width = padded width n := List.take_left' length
  have digits : (padded width n).all Char.isDigit = true :=
    List.all_eq_true.2 fun c mem => isDigit_of_mem_padded mem
  rw [digits?, front, if_pos ⟨length, digits⟩, digitsValue_padded, List.drop_left' length]

theorem exactly?_cons (c : Char) (rest : List Char) : exactly? c (c :: rest) = some rest :=
  if_pos rfl

/-- The text of a timestamp is a date-time if its year is a plain one. -/
theorem isDateTime_text {t : Timestamp} (valid : t.Valid) (plain : t.Plain) :
    isDateTime t.text = true := by
  obtain ⟨-, -, first, month, firstDay, day, hour, minute, second⟩ := id valid
  obtain ⟨positive, small⟩ := id plain
  have lastDay : daysIn t.year t.month ≤ 31 := by
    unfold daysIn
    split
    · split <;> decide
    · split <;> decide
  -- each part is read off the front of the text, whatever follows
  have pair {n : Nat} (small : n < 100) (rest : List Char) :
      digits? 2 (padded 2 n ++ rest) = some (n, rest) :=
    digits?_padded ((Nat.length_toDigits_le_iff (by decide) (by decide)).2 small) rest
  have year (rest : List Char) :
      digits? 4 (yearText t.year ++ rest) = some (t.year.natAbs, rest) := by
    rw [yearText, if_pos ⟨positive, small⟩]
    exact digits?_padded ((Nat.length_toDigits_le_iff (by decide) (by decide)).2 (by omega)) rest
  -- so the date that is read is that of the timestamp, which is valid
  have whole : (t.year.natAbs : Int) = t.year := Int.natAbs_of_nonneg positive
  have fraction : fraction? ['Z'] = some ['Z'] := rfl
  have offset : isOffset ['Z'] = true := rfl
  simp only [text, List.append_assoc, List.cons_append]
  simp only [isDateTime, Option.bind_eq_bind, year, pair (show t.month < 100 by omega),
    pair (show t.day < 100 by omega), pair (show t.hour < 100 by omega),
    pair (show t.minute < 100 by omega), pair (show t.second < 100 by omega), exactly?_cons,
    Option.some_or, fraction, offset, Option.bind_some, whole, Option.getD_some, Bool.and_true,
    decide_eq_true_eq]
  exact ⟨first, month, firstDay, day, hour, minute, second⟩

/-- The form has no room for a year of five digits. -/
example : isDateTime (text ⟨10000, 1, 1, 0, 0, 0⟩) = false := by decide

end Timestamp

/-! ### Schemas -/

/-- The members of an object, if a value is one. -/
def Json.members? : Json → Option Members
  | .object ms => some ms
  | _ => none

/-- Whether a value is null where null is allowed. -/
def SchemaNotes.allows (n : SchemaNotes) (j : Json) : Bool := n.nullable && decide (j = .null)

/-- Whether an integer has a width. -/
def IntegerWidth.holds : IntegerWidth → Int → Bool
  | .int32, i => decide (-0x80000000 ≤ i ∧ i ≤ 0x7fffffff)
  | .int64, i => decide (-0x8000000000000000 ≤ i ∧ i ≤ 0x7fffffffffffffff)

namespace Schema

mutual

/-- Whether a schema describes a value, with all its parts. -/
def admits : Schema → Json → Bool
  | .text n, j => n.allows j || j.string?.isSome
  | .dateTime n, j => n.allows j || j.string?.any fun s => Timestamp.isDateTime s.toList
  | .boolean n, j => n.allows j || j.bool?.isSome
  | .integer n width, j => n.allows j || j.integer?.any width.holds
  | .keyedList n keys items, j =>
    n.allows j || j.array?.any fun js =>
      js.all (admits items) && decide (js.map fun item => keys.map item.get?).Nodup
  | .object n properties required, j =>
    n.allows j || j.members?.any fun ms =>
      ms.all (admitsMember properties) && required.all fun name => (Json.find? name ms).isSome

/-- Whether a member is declared and described. -/
def admitsMember : List (String × Schema) → String × Json → Bool
  | [], _ => false
  | (name, s) :: rest, m => if m.1 = name then admits s m.2 else admitsMember rest m

end

mutual

/-- A value without the members that are not declared. -/
def prune : Schema → Json → Json
  | .text _, j | .dateTime _, j | .boolean _, j | .integer _ _, j => j
  | .keyedList _ _ items, j =>
    match j with
    | .array js => .array (js.map (prune items))
    | j => j
  | .object _ properties _, j =>
    match j with
    | .object ms => .object (ms.filterMap (pruneMember properties))
    | j => j

/-- A member without what is not declared in it, if it is declared itself. -/
def pruneMember : List (String × Schema) → String × Json → Option (String × Json)
  | [], _ => none
  | (name, s) :: rest, m => if m.1 = name then some (m.1, prune s m.2) else pruneMember rest m

end

/-- The members that a schema declares. -/
def properties : Schema → List (String × Schema)
  | .object _ properties _ => properties
  | _ => []

variable {n : SchemaNotes} {properties : List (String × Schema)} {required keys : List String}
  {items : Schema} {j : Json} {js : List Json} {ms : Json.Members} {m : String × Json}

/-- A member is described exactly if a schema for its name describes its value. -/
theorem admitsMember_iff :
    admitsMember properties m = true ↔ ∃ s, properties.lookup m.1 = some s ∧ s.admits m.2 := by
  induction properties with
  | nil => simp [admitsMember]
  | cons first rest ih =>
    obtain ⟨name, s⟩ := first
    rw [admitsMember, List.lookup_cons]
    by_cases same : m.1 = name
    · simp [same]
    · simp [same, ih, beq_false_of_ne same]

/-- The name of a member that is described is declared. -/
theorem mem_names_of_admitsMember (h : admitsMember properties m = true) :
    m.1 ∈ properties.map Prod.fst := by
  induction properties with
  | nil => cases h
  | cons first rest ih =>
    rw [admitsMember] at h
    split at h
    · next same => exact same ▸ List.mem_cons_self
    · exact List.mem_cons_of_mem _ (ih h)

/-- An object is admitted exactly if each member is described and the required ones are there. -/
theorem admits_object :
    (object n properties required).admits (.object ms) = true ↔
      (∀ m ∈ ms, admitsMember properties m) ∧
        ∀ name ∈ required, ∃ v, Json.find? name ms = some v := by
  simp [admits, SchemaNotes.allows, Json.members?, Option.isSome_iff_exists]

/-- A list is admitted exactly if each item is and no two of them have the same keys. -/
theorem admits_keyedList :
    (keyedList n keys items).admits (.array js) = true ↔
      (∀ item ∈ js, items.admits item) ∧ (js.map fun item => keys.map item.get?).Nodup := by
  simp [admits, SchemaNotes.allows, Json.array?]

/-! What is not null is admitted for its type. -/

theorem admits_text (n : SchemaNotes) (s : String) : (text n).admits (.string s) = true :=
  Bool.or_true _

theorem admits_dateTime (n : SchemaNotes) {s : String}
    (h : Timestamp.isDateTime s.toList = true) : (dateTime n).admits (.string s) = true :=
  Bool.or_eq_true_iff.2 (.inr h)

theorem admits_integer (n : SchemaNotes) {width : IntegerWidth} {i : Int}
    (h : width.holds i = true) : (integer n width).admits (.ofInt i) = true :=
  Bool.or_eq_true_iff.2 (.inr h)

section

variable (solid : n.nullable = false)

include solid

theorem allows_eq_false (j : Json) : n.allows j = false := by
  rw [SchemaNotes.allows, solid, Bool.false_and]

/-- What is admitted as a text is one. -/
theorem exists_of_admits_text (h : (text n).admits j = true) : ∃ s, j = .string s := by
  rw [admits, allows_eq_false solid, Bool.false_or] at h
  cases j with
  | string s => exact ⟨s, rfl⟩
  | _ => cases h

/-- What is admitted as a time is a text of that form. -/
theorem exists_of_admits_dateTime (h : (dateTime n).admits j = true) :
    ∃ s, j = .string s ∧ Timestamp.isDateTime s.toList = true := by
  rw [admits, allows_eq_false solid, Bool.false_or] at h
  cases j with
  | string s => exact ⟨s, rfl, h⟩
  | _ => cases h

/-- What is admitted as a number is one of the width. -/
theorem exists_of_admits_integer {width : IntegerWidth} (h : (integer n width).admits j = true) :
    ∃ i, j = .ofInt i ∧ width.holds i = true := by
  rw [admits, allows_eq_false solid, Bool.false_or] at h
  cases j with
  | number k =>
    cases k with
    | integer i => exact ⟨i, rfl, h⟩
    | _ => cases h
  | _ => cases h

/-- What is admitted as a list is one. -/
theorem exists_of_admits_keyedList (h : (keyedList n keys items).admits j = true) :
    ∃ js, j = .array js := by
  rw [admits, allows_eq_false solid, Bool.false_or] at h
  cases j with
  | array js => exact ⟨js, rfl⟩
  | _ => cases h

/-- What is required is there. -/
theorem exists_of_required (h : (object n properties required).admits j = true) {name : String}
    (mem : name ∈ required) : ∃ v, j.get? name = some v := by
  cases j with
  | object ms => exact (admits_object.1 h).2 name mem
  | _ =>
    rw [admits, allows_eq_false solid, Bool.false_or] at h
    cases h

end

/-- An object may be missing, but nothing else may stand in its place. -/
theorem eq_null_or_object (h : (object n properties required).admits j = true) :
    j = .null ∨ ∃ ms, j = .object ms := by
  cases j with
  | null => exact .inl rfl
  | object ms => exact .inr ⟨ms, rfl⟩
  | _ =>
    rw [admits, SchemaNotes.allows, decide_eq_false (by rintro ⟨⟩), Bool.and_false,
      Bool.false_or] at h
    cases h

/-- What is in a value that is admitted is declared and described. -/
theorem admitsMember_of_mem (h : (object n properties required).admits j = true) :
    ∀ m ∈ j.members, admitsMember properties m = true := by
  cases j with
  | object ms => exact (admits_object.1 h).1
  | _ => exact fun m mem => absurd mem List.not_mem_nil

/-- What is found in a value that is admitted is described under its name. -/
theorem admits_of_get? (h : (object n properties required).admits j = true) {name : String}
    {v : Json} (there : j.get? name = some v) {s : Schema}
    (declared : properties.lookup name = some s) : s.admits v = true := by
  obtain ⟨s', isDeclared, described⟩ :=
    admitsMember_iff.1 (admitsMember_of_mem h (name, v) (Json.mem_of_find? there))
  obtain rfl := Option.some.inj (declared.symm.trans isDeclared)
  exact described

mutual

/-- Nothing is taken from a value that is admitted. -/
theorem prune_of_admits : ∀ (s : Schema) {j : Json}, s.admits j = true → s.prune j = j
  | .text _, _, _ | .dateTime _, _, _ | .boolean _, _, _ | .integer _ _, _, _ => rfl
  | .keyedList n keys items, j, h => by
    -- items and members are pruned one by one, and none of them changes
    cases j with
    | array js =>
      have each : ∀ item ∈ js, items.prune item = item := fun item mem =>
        prune_of_admits items ((admits_keyedList.1 h).1 item mem)
      exact congrArg Json.array ((List.map_congr_left each).trans (List.map_id' js))
    | _ => rfl
  | .object n properties required, j, h => by
    cases j with
    | object ms =>
      have each : ∀ m ∈ ms, pruneMember properties m = some m := fun m mem =>
        pruneMember_of_admitsMember properties ((admits_object.1 h).1 m mem)
      exact congrArg Json.object ((List.filterMap_congr each).trans List.filterMap_some)
    | _ => rfl

theorem pruneMember_of_admitsMember : ∀ (properties : List (String × Schema)) {m : String × Json},
    admitsMember properties m = true → pruneMember properties m = some m
  | [], _, h => by cases h
  | (name, s) :: rest, m, h => by
    rw [admitsMember] at h
    rw [pruneMember]
    split at h
    · next same => rw [if_pos same, prune_of_admits s h]
    · next apart => rw [if_neg apart, pruneMember_of_admitsMember rest h]

end

/-! ### Patches -/

/-- A value without required members stays admitted when members that are declared and described are
merged into it, and others are taken away. -/
theorem admits_merge {changes : List (String × Option Json)} (flat : Json.AllFlat changes)
    (fine : ∀ m ∈ changes, ∀ v ∈ m.2, v ≠ .null → admitsMember properties (m.1, v) = true)
    (h : (object n properties []).admits j = true) :
    (object n properties []).admits ((Json.record changes).merge j) = true := by
  refine admits_object.2 ⟨fun m mem => ?_, fun name mem => absurd mem List.not_mem_nil⟩
  -- flat values are not merged into, so that a member is an old or a new one as a whole
  have flat' : ∀ m ∈ Json.sortMembers (Json.given changes), m.2.Flat := fun m mem =>
    flat _ (Json.mem_given.1 (Json.mem_sortMembers mem)) m.2 rfl
  rcases Json.mem_mergeMembers flat' mem with old | ⟨new, notNull⟩
  · exact admitsMember_of_mem h m old
  · exact fine _ (Json.mem_given.1 (Json.mem_sortMembers new)) m.2 rfl notNull

end Schema

end ReplicaSetOperator

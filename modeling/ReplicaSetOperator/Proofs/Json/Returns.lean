import ReplicaSetOperator.Proofs.Json.Fields

/-!
# Values that come back from their texts

A value *returns* in a format (`Format.Returns`) if what it is written as can be read, without
fault, as the value itself, and does not stand too deep. Values of the basic formats and lists of
values that return do; a record does if its members do.
-/

namespace ReplicaSetOperator

/-- What a value is written as is read as the value, and is at most `depth` deep. -/
structure Format.Returns {α : Type} (f : Format α) (depth : Nat) (a : α) : Prop where
  legible : (f.write a).Legible
  shallow : (f.write a).depth ≤ depth
  fault : f.fault .text (f.write a).reread = none
  read : f.read (f.write a).reread = a

namespace Format

variable {α : Type} {f : Format α} {depth : Nat}

theorem string_returns (s : String) : string.Returns 0 s where
  legible := trivial
  shallow := Nat.le_refl 0
  fault := rfl
  read := rfl

theorem bool_returns (b : Bool) : bool.Returns 0 b where
  legible := trivial
  shallow := Nat.le_refl 0
  fault := rfl
  read := rfl

/-- An integer of 64 bits, signed or not, is the number that its digits are read as. -/
theorem reread_ofInt {i : Int} (low : -0x8000000000000000 ≤ i) (high : i < 0x10000000000000000) :
    (Json.ofInt i).reread = .ofInt i := by
  show Json.number (Number.integer i).reread = _
  rw [Reader.reread_integer low high]
  rfl

/-- The least and the greatest number of 32 bits. -/
theorem int32_bounds (i : Int32) : -0x80000000 ≤ i.toInt ∧ i.toInt ≤ 0x7fffffff := by
  have low := i.le_toInt
  have high := i.toInt_lt
  omega

/-- The least and the greatest number of 64 bits. -/
theorem int64_bounds (i : Int64) :
    -0x8000000000000000 ≤ i.toInt ∧ i.toInt ≤ 0x7fffffffffffffff := by
  have low := i.le_toInt
  have high := i.toInt_lt
  omega

/-- A number within the bounds of a format has no fault in it. -/
theorem integerFault_ofInt {low high i : Int} (h : low ≤ i ∧ i ≤ high) :
    integerFault low high (.ofInt i) = none := by
  rw [integerFault]
  exact if_pos h

theorem int32_returns (i : Int32) : int32.Returns 0 i := by
  have bounds := int32_bounds i
  have same : (int32.write i).reread = .ofInt i.toInt := reread_ofInt (by omega) (by omega)
  refine ⟨Reader.readable_integer (by omega) (by omega), Nat.le_refl 0, ?_, ?_⟩
  · rw [same]
    exact integerFault_ofInt bounds
  · rw [same]
    exact Int32.ofInt_toInt i

theorem int64_returns (i : Int64) : int64.Returns 0 i := by
  have bounds := int64_bounds i
  have same : (int64.write i).reread = .ofInt i.toInt := reread_ofInt (by omega) (by omega)
  refine ⟨Reader.readable_integer (by omega) (by omega), Nat.le_refl 0, ?_, ?_⟩
  · rw [same]
    exact integerFault_ofInt bounds
  · rw [same]
    exact Int64.ofInt_toInt i

theorem uint64_returns (n : UInt64) : uint64.Returns 0 n := by
  have bound := n.toNat_lt
  have same : (uint64.write n).reread = .ofInt n.toNat := reread_ofInt (by omega) (by omega)
  refine ⟨Reader.readable_integer (by omega) (by omega), Nat.le_refl 0, ?_, ?_⟩
  · rw [same]
    exact integerFault_ofInt (by omega)
  · rw [same]
    show UInt64.ofNat (n.toNat : Int).toNat = n
    rw [Int.toNat_natCast, UInt64.ofNat_toNat]

/-- Items that return make a list that does. -/
theorem list_returns {xs : List α} (h : ∀ a ∈ xs, f.Returns depth a) :
    f.list.Returns (depth + 1) xs := by
  have same : (f.list.write xs).reread = .array (xs.map fun a => (f.write a).reread) := by
    show Json.array (Json.rereadItems (xs.map f.write)) = _
    rw [Json.rereadItems_eq, List.map_map]
    rfl
  -- readable, shallow, without fault and read back because each of the items is
  refine ⟨?_, ?_, ?_, ?_⟩
  · show Json.LegibleItems (xs.map f.write)
    rw [Json.legibleItems_iff, List.forall_mem_map]
    exact fun a mem => (h a mem).legible
  · show Json.depthItems (xs.map f.write) + 1 ≤ depth + 1
    rw [Nat.add_le_add_iff_right, Json.depthItems_le, List.forall_mem_map]
    exact fun a mem => (h a mem).shallow
  · rw [same]
    refine List.findSome?_eq_none_iff.2 ?_
    rw [List.forall_mem_map]
    exact fun a mem => (h a mem).fault
  · rw [same]
    show (xs.map fun a => (f.write a).reread).map f.read = xs
    rw [List.map_map]
    exact (List.map_congr_left fun a mem => (h a mem).read).trans (List.map_id' xs)


/-! ### Records -/

/-- A member of a record, if it is there, can be read without fault under the rules of the record,
and is at most `depth` deep. -/
def MemberReturns (rules : List FieldRule) (depth : Nat) (m : String × Option Json) : Prop :=
  ∀ v ∈ m.2, v.Legible ∧ v.depth ≤ depth ∧ Record.Fine rules .text (m.1, v.reread)

variable {rules : List FieldRule}

/-- A member that is left out cannot go wrong. -/
theorem memberReturns_none (name : String) : MemberReturns rules depth (name, none) :=
  fun _ mem => (Option.not_mem_none _ mem).elim

/-- A member whose value returns in the format of its rule. -/
theorem Returns.member {a : α} (h : f.Returns depth a) {name : String} {r : FieldRule} {d : Nat}
    (le : depth ≤ d) (rule : rules.find? (fun r => r.name == name) = some r)
    (fits : r.fault = f.fault) : MemberReturns rules d (name, some (f.write a)) := by
  intro v there
  obtain rfl : f.write a = v := Option.some.inj there
  refine ⟨h.legible, Nat.le_trans h.shallow le, ?_⟩
  rw [Record.Fine, rule]
  show r.fault _ _ = none
  rw [fits]
  exact h.fault

/-- A record whose members return does, if they are read as what was written. -/
theorem record_returns {a : α} {l : List (String × Option Json)} {d : Nat}
    (rulesOf : f.fault = Record.fault rules) (written : f.write a = Record.ordered l)
    (distinct : (l.map Prod.fst).Nodup) (fields : ∀ m ∈ l, MemberReturns rules d m)
    (complete : ∀ r ∈ rules, r.presence = .required → ∃ v, (r.name, some v) ∈ l)
    (read : f.read (Record.ordered (l.map fun m => (m.1, m.2.map Json.reread))) = a) :
    f.Returns (d + 1) a where
  legible := by
    rw [written, Json.legible_ordered]
    exact fun m mem v there => (fields m mem v there).1
  shallow := by
    rw [written, Json.depth_ordered]
    exact fun m mem v there => (fields m mem v there).2.1
  fault := by
    rw [written, Json.reread_ordered, rulesOf]
    refine Record.fault_ordered (by simpa [List.map_map, Function.comp_def] using distinct) ?_ ?_
    · rw [List.forall_mem_map]
      intro m mem v there
      obtain ⟨w, given, rfl⟩ := Option.map_eq_some_iff.1 there
      exact (fields m mem w given).2.2
    -- a required member is there after it has been read, as it was before
    · intro r mem required
      obtain ⟨v, there⟩ := complete r mem required
      exact ⟨v.reread, List.mem_map.2 ⟨_, there, rfl⟩⟩
  read := by
    rw [written, Json.reread_ordered]
    exact read

/-- Reading the texts of members changes none of their names. -/
theorem lookup_reread {members : List (String × Option Json)} (name : String) :
    (members.map fun m => (m.1, m.2.map Json.reread)).lookup name =
      (members.lookup name).map (Option.map Json.reread) := by
  induction members with
  | nil => rfl
  | cons m members ih =>
    obtain ⟨key, v⟩ := m
    rw [List.map_cons, List.lookup_cons, List.lookup_cons]
    dsimp only
    cases name == key with
    | true => rfl
    | false => exact ih

/-- What is read of a member from the record of what the texts of its members are read as. -/
theorem readField_reread {members : List (String × Option Json)} (names : List String)
    (name : String) (absent : α) (distinct : (members.map Prod.fst).Nodup) :
    f.readField names name absent
      (Record.ordered (members.map fun m => (m.1, m.2.map Json.reread))) =
      (((members.lookup name).join.map Json.reread).map f.read).getD absent := by
  rw [readField_ordered f names name absent
    (by simpa [List.map_map, Function.comp_def] using distinct), lookup_reread]
  rcases members.lookup name with - | - | v <;> rfl

end Format

end ReplicaSetOperator

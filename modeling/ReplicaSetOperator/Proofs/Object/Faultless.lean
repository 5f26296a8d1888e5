import ReplicaSetOperator.Object.Condition
import ReplicaSetOperator.Proofs.Json.Returns
import ReplicaSetOperator.Proofs.Object.Secret
import ReplicaSetOperator.Proofs.Text.Times

/-!
# Values without fault

A lenient record has no fault if its members have none (`Lenient.fault_recordWith`), and keeps none
when a member is put into it (`Lenient.fault_set`). What is written has no fault if its parts have
none: times are to be valid, and what is carried along in metadata is to be what it has been read as
(`ObjectMeta.Sound`).
-/

namespace ReplicaSetOperator

namespace Lenient

variable {rules : List LenientRule} {source : Source} {ms : Json.Members}

/-! ### Members -/

/-- A member has the fault of its rule. -/
theorem memberFault_of_rule {r : LenientRule} {name : String} {v : Json}
    (found : rules.find? (fun r => r.name == name) = some r) (fine : r.fault source v = none) :
    memberFault rules source (name, v) = none := by
  rw [memberFault]
  dsimp only
  rw [found]
  dsimp only
  split
  · rfl
  · exact fine

/-- A member that is not null and has no fault has none for its rule. -/
theorem fault_of_memberFault {r : LenientRule} {name : String} {v : Json}
    (found : rules.find? (fun r => r.name == name) = some r) (apart : v ≠ .null)
    (fine : memberFault rules source (name, v) = none) : r.fault source v = none := by
  rw [memberFault] at fine
  dsimp only at fine
  rw [found] at fine
  dsimp only at fine
  rwa [if_neg fun both => apart both.1] at fine

/-- Each member of a record without fault has none. -/
theorem memberFault_of_fault {m : String × Json}
    (h : fault rules source (.object ms) = none) (mem : m ∈ ms) :
    memberFault rules source m = none := by
  rw [fault, Option.or_eq_none_iff] at h
  exact List.findSome?_eq_none_iff.1 h.1 m mem

/-- A record has no fault if its members have none and the strict ones are there. -/
theorem fault_object (fine : ∀ m ∈ ms, memberFault rules source m = none)
    (complete : ∀ r ∈ rules, r.need = .strict → (Json.find? r.name ms).isSome) :
    fault rules source (.object ms) = none := by
  rw [fault, Option.or_eq_none_iff]
  refine ⟨List.findSome?_eq_none_iff.2 fine, ?_⟩
  rw [Option.map_eq_none_iff, List.find?_eq_none]
  intro r mem
  simp only [decide_eq_true_eq, not_and, Bool.not_eq_true, Option.isNone_eq_false_iff]
  exact complete r mem

/-- What is found in a record without fault has none, unless it is null. -/
theorem fault_of_get? {r : LenientRule} {j v : Json} {name : String}
    (h : fault rules source j = none)
    (found : rules.find? (fun r => r.name == name) = some r) (there : j.get? name = some v)
    (apart : v ≠ .null) : r.fault source v = none := by
  cases j with
  | object ms =>
    exact fault_of_memberFault found apart (memberFault_of_fault h (Json.mem_of_find? there))
  | _ => cases h

/-- A member that has to be there is found in a record without fault. -/
theorem get?_of_strict {r : LenientRule} {j : Json} (h : fault rules source j = none)
    (mem : r ∈ rules) (isStrict : r.need = .strict) : ∃ v, j.get? r.name = some v := by
  cases j with
  | object ms =>
    rw [fault, Option.or_eq_none_iff, Option.map_eq_none_iff, List.find?_eq_none] at h
    refine Option.isSome_iff_exists.1 (Option.isSome_iff_ne_none.2 fun absent => ?_)
    exact h.2 r mem (decide_eq_true ⟨isStrict, by rw [Option.isNone_iff_eq_none]; exact absent⟩)
  | _ => cases h

/-- Such a member has no fault, even if it is null. -/
theorem fault_of_strict {r : LenientRule} {j v : Json} {name : String}
    (h : fault rules source j = none)
    (found : rules.find? (fun r => r.name == name) = some r) (isStrict : r.need = .strict)
    (there : j.get? name = some v) : r.fault source v = none := by
  cases j with
  | object ms =>
    have fine := memberFault_of_fault h (Json.mem_of_find? there)
    rw [memberFault] at fine
    dsimp only at fine
    rw [found] at fine
    dsimp only at fine
    rwa [if_neg fun both => by rw [isStrict] at both; cases both.2] at fine
  | _ => cases h

/-- A record without fault is an object. -/
theorem eq_object_of_fault {j : Json} (h : fault rules source j = none) :
    ∃ ms, j = .object ms := by
  cases j with
  | object ms => exact ⟨ms, rfl⟩
  | _ => cases h

/-- Putting a member without fault into a record makes none. -/
theorem fault_set {j : Json} {name : String} {v : Json} (h : fault rules source j = none)
    (fine : memberFault rules source (name, v) = none) :
    fault rules source (j.set name v) = none := by
  obtain ⟨ms, rfl⟩ := eq_object_of_fault h
  refine fault_object (fun m mem => ?_) fun r mem isStrict => ?_
  · rcases Json.mem_insertMember mem with rfl | mem
    · exact fine
    · exact memberFault_of_fault h mem
  -- no name gets lost, so that what has to be there still is
  · rw [Json.find?_insertMember]
    split
    · rfl
    · rw [fault, Option.or_eq_none_iff, Option.map_eq_none_iff, List.find?_eq_none] at h
      simpa [isStrict, Option.isSome_iff_ne_none] using h.2 r mem

/-! ### Records that are written -/

/-- The members that are there have no fault. -/
def Fits (rules : List LenientRule) (source : Source) (members : List (String × Option Json)) :
    Prop :=
  ∀ m ∈ members, ∀ v ∈ m.2, memberFault rules source (m.1, v) = none

theorem fits_nil : Fits rules source [] := fun _ mem => absurd mem List.not_mem_nil

theorem fits_cons {name : String} {value : Option Json} {members : List (String × Option Json)}
    {r : LenientRule} (found : rules.find? (fun r => r.name == name) = some r)
    (fine : ∀ v ∈ value, r.fault source v = none) (rest : Fits rules source members) :
    Fits rules source ((name, value) :: members) :=
  List.forall_mem_cons.2 ⟨fun v there => memberFault_of_rule found (fine v there), rest⟩

variable {members : List (String × Option Json)} {other : Json.Members}

/-- A record has no fault if what is looked into has none, and neither has what is carried along. -/
theorem fault_recordWith (fits : Fits rules source members)
    (carried : fault rules source (.object other) = none) :
    fault rules source (Json.recordWith members other) = none := by
  -- each member is one that was written or one that is carried along
  refine fault_object (fun m mem => ?_) fun r mem isStrict => ?_
  · obtain ⟨name, v⟩ := m
    rcases Json.mem_recordWith mem with mem | mem
    · exact fits (name, some v) mem v rfl
    · exact memberFault_of_fault carried mem
  · rw [fault, Option.or_eq_none_iff, Option.map_eq_none_iff, List.find?_eq_none] at carried
    -- what has to be there is among the members that are carried along
    have there : (Json.find? r.name other).isSome = true := by
      simpa [isStrict, Option.isSome_iff_ne_none] using carried.2 r mem
    obtain ⟨v, isMember⟩ := Option.isSome_iff_exists.1 there
    have last : (Json.find? r.name other.reverse).isSome = true := by
      rw [Option.isSome_iff_ne_none, Ne, Json.find?, List.lookup_eq_none_iff]
      intro absent
      have apart := absent (r.name, v) (List.mem_reverse.2 (Json.mem_of_find? isMember))
      simp at apart
    rw [Json.find?_sortMembers, List.reverse_append, Json.find?_append, Option.isSome_or, last,
      Bool.true_or]

/-- A record of such members alone has no fault if an empty one has none. -/
theorem fault_record (fits : Fits rules source members)
    (empty : fault rules source (.object []) = none) :
    fault rules source (Json.record members) = none := by
  have whole : Json.recordWith members [] = Json.record members := by
    rw [Json.recordWith_eq, List.append_nil, Json.record_eq]
  rw [← whole]
  exact fault_recordWith fits empty

/-- A record in which some members have to be there. -/
theorem fault_record_strict (distinct : (members.map Prod.fst).Nodup)
    (fits : Fits rules source members)
    (complete : ∀ r ∈ rules, r.need = .strict → (members.lookup r.name).join.isSome = true) :
    fault rules source (Json.record members) = none := by
  refine fault_object (fun m mem => ?_) fun r mem isStrict => ?_
  · obtain ⟨name, v⟩ := m
    exact fits (name, some v) (Json.mem_record mem) v rfl
  · have found : Json.find? r.name _ = _ := Json.get?_record r.name distinct
    exact (congrArg Option.isSome found).trans (complete r mem isStrict)

end Lenient

namespace Format

/-! ### Values of a format -/

/-- What a value is written as has no fault. -/
def Faultless {α : Type} (f : Format α) (a : α) : Prop := f.fault .value (f.write a) = none

variable {α : Type} {f : Format α}

theorem string_faultless (s : String) : string.Faultless s := rfl

theorem bool_faultless (b : Bool) : bool.Faultless b := rfl

theorem int32_faultless (i : Int32) : int32.Faultless i := integerFault_ofInt (int32_bounds i)

theorem int64_faultless (i : Int64) : int64.Faultless i := integerFault_ofInt (int64_bounds i)

/-- A text is a time if it can be read as one. -/
theorem fault_time (s : String) : time.fault .value (.string s) =
    if (Timestamp.parse? s.toList).isSome then none else some .mismatch := rfl

theorem time_faultless {t : Timestamp} (valid : t.Valid) : time.Faultless t := by
  have isText : time.write t = .string (String.ofList t.text) := rfl
  rw [Faultless, isText, fault_time, String.toList_ofList, Timestamp.parse?_text valid]
  rfl

/-- A time that is read without fault is valid. -/
theorem valid_of_fault {j : Json} (h : time.fault .value j = none) : (time.read j).Valid := by
  cases j with
  | string s =>
    rw [fault_time] at h
    -- the time that is read is one that could be read, and those are valid
    cases isTime : Timestamp.parse? s.toList with
    | none =>
      rw [isTime] at h
      cases h
    | some t =>
      have value : time.read (.string s) = t := by
        show (Timestamp.parse? s.toList).getD default = t
        rw [isTime]
        rfl
      rw [value]
      exact Timestamp.valid_of_parse? isTime
  | _ => cases h

/-- A text stands for octets if it can be decoded. -/
theorem fault_bytes (s : String) : bytes.fault .value (.string s) =
    if (Base64.decode? s.toList).isSome then none else some .mismatch := rfl

theorem bytes_faultless (b : Bytes) : bytes.Faultless b := by
  have isText : bytes.write b = .string (String.ofList (Base64.encode b)) := rfl
  rw [Faultless, isText, fault_bytes, String.toList_ofList, Base64.decode?_encode]
  rfl

/-- A list is written without fault if its items are. -/
theorem list_faultless {xs : List α} (h : ∀ a ∈ xs, f.Faultless a) : f.list.Faultless xs := by
  show (xs.map f.write).findSome? (f.fault .value) = none
  rw [List.findSome?_eq_none_iff]
  intro j mem
  obtain ⟨a, there, rfl⟩ := List.mem_map.1 mem
  exact h a there

theorem dictionary_faultless {xs : List (String × α)} (h : ∀ m ∈ xs, f.Faultless m.2) :
    f.dictionary.Faultless xs := by
  show (xs.map fun m => (m.1, f.write m.2)).findSome? (fun m => f.fault .value m.2) = none
  rw [List.findSome?_eq_none_iff]
  intro j mem
  obtain ⟨m, there, rfl⟩ := List.mem_map.1 mem
  exact h m there

theorem labels_faultless (labels : Labels) : Format.labels.Faultless labels :=
  dictionary_faultless fun m _ => string_faultless m.2

theorem secretData_faultless (d : SecretData) : secretData.Faultless d :=
  dictionary_faultless fun m _ => bytes_faultless m.2

/-- A member that is there is written without fault. -/
theorem Faultless.member {a? : Option α} (h : ∀ a ∈ a?, f.Faultless a) :
    ∀ v ∈ a?.map f.write, f.fault .value v = none := by
  intro v there
  obtain ⟨a, mem, rfl⟩ := Option.map_eq_some_iff.1 there
  exact h a mem

theorem text_faultless (s? : Option String) :
    ∀ v ∈ s?.map Json.string, string.fault .value v = none :=
  Faultless.member fun s _ => string_faultless s

theorem flag_faultless (b? : Option Bool) : ∀ v ∈ b?.map Json.bool, bool.fault .value v = none :=
  Faultless.member fun b _ => bool_faultless b

/-- A member that is always there is written without fault. -/
theorem Faultless.always {a : α} (h : f.Faultless a) :
    ∀ v ∈ some (f.write a), f.fault .value v = none := by
  rintro v ⟨⟩
  exact h

end Format

end ReplicaSetOperator

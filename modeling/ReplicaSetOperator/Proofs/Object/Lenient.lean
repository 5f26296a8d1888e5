import ReplicaSetOperator.Object.Lenient
import ReplicaSetOperator.Proofs.Json.Members

/-!
# Members of lenient records

What is read of a member of a lenient record depends on that member only, and a member that is
written as something else than null is read. Lists and dictionaries of values that are read as they
were written are so too.
-/

namespace ReplicaSetOperator

namespace Lenient

/-- A member that is there and is not null counts as present. -/
theorem present?_of_get? {name : String} {j v : Json} (there : j.get? name = some v)
    (apart : v ≠ .null) : present? name j = some v := by
  unfold present?
  rw [there]
  split
  · next same => exact absurd (Option.some.inj same) apart
  · rfl

/-- Nothing else does. -/
theorem get?_of_present? {name : String} {j v : Json} (h : present? name j = some v) :
    j.get? name = some v ∧ v ≠ .null := by
  rw [present?] at h
  split at h
  · cases h
  · next notNull =>
    refine ⟨h, ?_⟩
    rintro rfl
    exact notNull h

/-- A member that is not there does not. -/
theorem present?_of_absent {name : String} {j : Json} (absent : j.get? name = none) :
    present? name j = none := by
  unfold present?
  rw [absent]

/-- Only the member of the name counts. -/
theorem present?_congr {name : String} {i j : Json} (same : i.get? name = j.get? name) :
    present? name i = present? name j := by
  unfold present?
  rw [same]

end Lenient

namespace Format

variable {α : Type}

/-- What is read of a member depends on that member alone. -/
theorem present?_congr (f : Format α) {name : String} {i j : Json}
    (same : i.get? name = j.get? name) : f.present? name i = f.present? name j := by
  unfold present?
  rw [Lenient.present?_congr same]

/-- What is written as something else than null is read. -/
theorem present?_of_get? {f : Format α} {name : String} {j v : Json}
    (there : j.get? name = some v) (apart : v ≠ .null) : f.present? name j = some (f.read v) := by
  rw [present?, Lenient.present?_of_get? there apart]
  rfl

/-- What is read of a member comes from a value that is there and is not null. -/
theorem get?_of_present? {f : Format α} {name : String} {j : Json} {a : α}
    (h : f.present? name j = some a) : ∃ v, j.get? name = some v ∧ v ≠ .null ∧ f.read v = a := by
  obtain ⟨v, there, same⟩ := Option.map_eq_some_iff.1 h
  obtain ⟨isMember, apart⟩ := Lenient.get?_of_present? there
  exact ⟨v, isMember, apart, same⟩

/-- Nothing is read of a member that is not there. -/
theorem present?_of_absent {f : Format α} {name : String} {j : Json}
    (absent : j.get? name = none) : f.present? name j = none := by
  rw [present?, Lenient.present?_of_absent absent]
  rfl

/-- A member that stands as something is written is read as what is read of that. -/
theorem present?_of_written {f : Format α} {name : String} {j : Json} {a? : Option α}
    (there : j.get? name = a?.map f.write) (proper : ∀ a, f.write a ≠ .null) :
    f.present? name j = a?.map fun a => f.read (f.write a) := by
  cases a? with
  | none => exact present?_of_absent there
  | some a => exact present?_of_get? there (proper a)

/-! ### Values that are read as they were written -/

/-- A member that stands as a value is written is read as the value. -/
theorem present?_of_same {f : Format α} {name : String} {j : Json} {a? : Option α}
    (there : j.get? name = a?.map f.write) (proper : ∀ a, f.write a ≠ .null)
    (returns : ∀ a, f.read (f.write a) = a) : f.present? name j = a? := by
  rw [present?_of_written there proper, funext returns, Option.map_id']

/-- A list is read as it was written if its items are. -/
theorem list_read_write {f : Format α} (returns : ∀ a, f.read (f.write a) = a) (xs : List α) :
    f.list.read (f.list.write xs) = xs := by
  show (xs.map f.write).map f.read = xs
  rw [List.map_map]
  exact (List.map_congr_left fun a _ => returns a).trans (List.map_id xs)

theorem dictionary_read_write {f : Format α} (returns : ∀ a, f.read (f.write a) = a)
    (xs : List (String × α)) : f.dictionary.read (f.dictionary.write xs) = xs := by
  show (xs.map fun m => (m.1, f.write m.2)).map (fun m => (m.1, f.read m.2)) = xs
  rw [List.map_map]
  conv => rhs; rw [← List.map_id xs]
  exact List.map_congr_left fun m _ => congrArg (Prod.mk m.1) (returns m.2)

end Format

end ReplicaSetOperator

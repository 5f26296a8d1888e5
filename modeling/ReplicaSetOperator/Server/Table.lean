import ReplicaSetOperator.Api.Request

/-!
# The table of objects

The objects that a server holds, by kind, namespace and name, in ascending order.
-/

namespace ReplicaSetOperator

/-- What identifies an object. -/
structure ObjectKey where
  kind : String
  «namespace» : String
  name : String
deriving DecidableEq, Inhabited

/-- The parts of a key in the order in which they are compared. -/
def ObjectKey.parts (k : ObjectKey) : List String := [k.kind, k.namespace, k.name]

/-- Objects by their keys, in ascending order. -/
abbrev ObjectTable := List (ObjectKey × Json)

namespace ObjectTable

/-- The object of a key. -/
def find? (t : ObjectTable) (key : ObjectKey) : Option Json := t.lookup key

/-- Puts an object under a key, in place of the one there. -/
def put (key : ObjectKey) (object : Json) : ObjectTable → ObjectTable
  | [] => [(key, object)]
  | (k, j) :: rest =>
    if key = k then (key, object) :: rest
    else if key.parts < k.parts then (key, object) :: (k, j) :: rest
    else (k, j) :: put key object rest

/-- Takes the object of a key away. -/
def erase (t : ObjectTable) (key : ObjectKey) : ObjectTable := t.filter fun entry => entry.1 != key

@[simp] theorem find?_nil (k : ObjectKey) : find? [] k = none := rfl

theorem find?_cons (k key : ObjectKey) (object : Json) (t : ObjectTable) :
    find? ((key, object) :: t) k = if k = key then some object else find? t k := by
  unfold find?
  by_cases h : k = key
  · simp [h]
  · simp [List.lookup_cons, beq_false_of_ne h, h]

/-- Finding after a write: the new object under its key, and all else as before. -/
theorem find?_put (k key : ObjectKey) (object : Json) (t : ObjectTable) :
    find? (put key object t) k = if k = key then some object else find? t k := by
  induction t with
  | nil => simp [put, find?_cons]
  | cons entry rest ih =>
    obtain ⟨name, j⟩ := entry
    unfold put
    split
    · next same =>
      subst same
      simp only [find?_cons]
      split <;> rfl
    · split
      · rw [find?_cons]
      · next differ _ =>
        simp only [find?_cons, ih]
        grind

/-- Finding after an erasure: nothing under that key, and all else as before. -/
theorem find?_erase (k key : ObjectKey) (t : ObjectTable) :
    find? (erase t key) k = if k = key then none else find? t k := by
  induction t with
  | nil => simp [erase]
  | cons entry rest ih =>
    obtain ⟨name, j⟩ := entry
    unfold erase at ih ⊢
    by_cases same : name = key
    · rw [List.filter_cons_of_neg (by simp [same]), ih, find?_cons]
      grind
    · rw [List.filter_cons_of_pos (by simp [same]), find?_cons, find?_cons, ih]
      grind

end ObjectTable

end ReplicaSetOperator

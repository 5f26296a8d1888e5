import ReplicaSetOperator.Proofs.Json.Fields

/-!
# Merge patches

What a merge patch makes of the members of an object (`Json.find?_mergeMembers`): those that it
names are changed one by one, all else stays. A patch of values that are none of objects puts them
in place of what was there (`Json.get?_merge_record`), and a strict record whose members may be
absent keeps its form (`Record.fault_merge`).
-/

namespace ReplicaSetOperator

namespace Json

/-- What a change in a patch makes of a member. -/
def afterChange : Option Json → Option Json → Option Json
  | none, old => old
  | some .null, _ => none
  | some change, old => some (change.merge (old.getD .null))

/-- Unless it is null, a change is merged into what was there, or into nothing. -/
theorem afterChange_of_ne_null {change : Json} (there : change ≠ .null) (old : Option Json) :
    afterChange (some change) old = some (change.merge (old.getD .null)) := by
  cases change with
  | null => exact absurd rfl there
  | _ => rfl

variable {changes ms : Members}

/-- Finding after a merge: each change once, and all else as before. -/
theorem find?_mergeMembers (k : String) (distinct : (changes.map Prod.fst).Nodup) :
    find? k (mergeMembers changes ms) = afterChange (find? k changes) (find? k ms) := by
  induction changes generalizing ms with
  | nil => rfl
  | cons m rest ih =>
    obtain ⟨key, change⟩ := m
    obtain ⟨fresh, others⟩ := List.nodup_cons.1 distinct
    -- a null takes its member away, and anything else is merged into it
    by_cases isNull : change = .null
    · rw [isNull, mergeMembers_null, ih others, find?_cons, find?_eraseMember]
      by_cases same : k = key
      -- the names are distinct, so that no later change is about this one
      · rw [if_pos same, if_pos same, find?_eq_none (same ▸ fresh)]
        rfl
      · rw [if_neg same, if_neg same]
    · rw [mergeMembers_cons rest ms isNull, ih others, find?_cons, find?_insertMember]
      by_cases same : k = key
      · rw [if_pos same, if_pos same, find?_eq_none (same ▸ fresh), afterChange_of_ne_null isNull,
          same]
        rfl
      · rw [if_neg same, if_neg same]

/-- Members stay in order when others are merged into them. -/
theorem Ascending.mergeMembers (h : Ascending ms) (changes : Members) :
    Ascending (mergeMembers changes ms) := by
  induction changes generalizing ms with
  | nil => exact h
  | cons m rest ih =>
    obtain ⟨key, change⟩ := m
    by_cases isNull : change = .null
    · rw [isNull, mergeMembers_null]
      exact ih (h.eraseMember key)
    · rw [mergeMembers_cons rest ms isNull]
      exact ih (h.insertMember key _)

/-- A value that takes the place of whatever it is merged into. -/
def Flat (j : Json) : Prop := ∀ old : Json, j.merge old = j

theorem flat_null : Flat .null := fun _ => rfl

theorem flat_string (s : String) : Flat (.string s) := fun _ => rfl

theorem flat_ofInt (i : Int) : Flat (.ofInt i) := fun _ => rfl

theorem flat_array (items : List Json) : Flat (.array items) := fun _ => rfl

/-- What a change to a flat value makes of a member. -/
theorem afterChange_of_flat {change : Json} (flat : change.Flat) (old : Option Json) :
    afterChange (some change) old = if change = .null then none else some change := by
  by_cases isNull : change = .null
  · rw [isNull, if_pos rfl]
    rfl
  · rw [afterChange_of_ne_null isNull, flat, if_neg isNull]

/-- A member that is there after a merge of flat values was there before, or is one of them. -/
theorem mem_mergeMembers (flat : ∀ m ∈ changes, m.2.Flat)
    {m : String × Json} (mem : m ∈ mergeMembers changes ms) :
    m ∈ ms ∨ m ∈ changes ∧ m.2 ≠ .null := by
  induction changes generalizing ms with
  | nil => exact .inl mem
  | cons change rest ih =>
    obtain ⟨key, value⟩ := change
    obtain ⟨first, others⟩ := List.forall_mem_cons.1 flat
    by_cases isNull : value = .null
    · -- null only takes a member out
      rw [isNull, mergeMembers_null] at mem
      rcases ih others mem with old | ⟨new, notNull⟩
      · exact .inl (List.mem_filter.1 old).1
      · exact .inr ⟨.tail _ new, notNull⟩
    · -- any other flat value is put in as it is
      rw [mergeMembers_cons rest ms isNull, first] at mem
      rcases ih others mem with old | ⟨new, notNull⟩
      · rcases mem_insertMember old with rfl | old
        · exact .inr ⟨.head _, isNull⟩
        · exact .inl old
      · exact .inr ⟨.tail _ new, notNull⟩

/-- The members of a patch, each of a flat value. -/
def AllFlat (members : List (String × Option Json)) : Prop :=
  ∀ m ∈ members, ∀ v ∈ m.2, v.Flat

variable {members : List (String × Option Json)}

/-- Of the members of a patch the ones that are given are found by their names. -/
theorem find?_sortMembers_given (k : String) (distinct : (members.map Prod.fst).Nodup) :
    find? k (sortMembers (given members)) = (members.lookup k).join := by
  rw [find?_sortMembers, find?_reverse k (nodup_given distinct), find?_given k distinct]

/-- A patch is merged member by member. -/
theorem get?_merge_record (j : Json) (k : String) (distinct : (members.map Prod.fst).Nodup) :
    ((record members).merge j).get? k = afterChange (members.lookup k).join (j.get? k) := by
  show find? k (mergeMembers (sortMembers (given members)) j.members) = _
  rw [find?_mergeMembers k (ascending_sortMembers _).nodup, find?_sortMembers_given k distinct]
  rfl

end Json

namespace Record

variable {rules : List FieldRule} {source : Source} {ms : Json.Members}

/-- A record keeps its form when a member without fault is put into it. -/
theorem fault_insertMember (ascending : Json.Ascending ms)
    (h : fault rules source (.object ms) = none) {name : String} {v : Json}
    (fine : Fine rules source (name, v)) :
    fault rules source (.object (Json.insertMember name v ms)) = none := by
  obtain ⟨fines, complete⟩ := (fault_object ascending.nodup).1 h
  refine (fault_object (ascending.insertMember name v).nodup).2 ⟨?_, ?_⟩
  -- the members are those from before and the new one, and no name has been lost
  · intro m mem
    rcases Json.mem_insertMember mem with rfl | mem
    · exact fine
    · exact fines m mem
  · intro r mem required
    exact Json.mem_names_insertMember.2 (.inr (complete r mem required))

/-- A record whose members may be absent keeps its form when flat values without fault are merged
into it. -/
theorem fault_merge (mild : ∀ r ∈ rules, r.presence ≠ .required)
    (ascending : Json.Ascending ms) (h : fault rules source (.object ms) = none)
    {members : List (String × Option Json)} (distinct : (members.map Prod.fst).Nodup)
    (flat : Json.AllFlat members)
    (fine : ∀ m ∈ members, ∀ v ∈ m.2, v ≠ .null → Fine rules source (m.1, v)) :
    fault rules source ((Json.record members).merge (.object ms)) = none := by
  obtain ⟨fines, -⟩ := (fault_object ascending.nodup).1 h
  have nodup := (ascending.mergeMembers (Json.sortMembers (Json.given members))).nodup
  refine (fault_object nodup).2 ⟨?_, fun r mem required => absurd required (mild r mem)⟩
  rintro ⟨k, v⟩ mem
  have found := (Json.find?_of_mem nodup mem).symm.trans
    (Json.get?_merge_record (.object ms) k distinct)
  -- what is found under a name is what was there, or what the patch has put there
  cases change : (members.lookup k).join with
  | none =>
    rw [change] at found
    exact fines (k, v) (Json.mem_of_find? found.symm)
  | some w =>
    have there : (k, some w) ∈ members :=
      Json.mem_given.1 (Json.mem_of_find? ((Json.find?_given k distinct).trans change))
    rw [change, Json.afterChange_of_flat (flat _ there w rfl)] at found
    split at found
    · cases found
    · next isValue =>
      obtain rfl := Option.some.inj found
      exact fine _ there v rfl isValue

end Record

/-- What is read from a record that a patch has been merged into. -/
theorem Format.readField_merge {α : Type} (f : Format α) (names : List String) (name : String)
    (absent : α) {members : List (String × Option Json)} (distinct : (members.map Prod.fst).Nodup)
    (j : Json) :
    f.readField names name absent ((Json.record members).merge j) =
      ((Json.afterChange (members.lookup name).join (j.get? name)).map f.read).getD absent := by
  rw [← Json.get?_merge_record j name distinct]
  rfl

end ReplicaSetOperator

import ReplicaSetOperator.Json.Format
import ReplicaSetOperator.Object.Lenient

/-!
# Members of built values

What is found in the values that `Json.record`, `Json.recordWith` and `Record.ordered` build, and
in a value after a merge or a change at a path. Sorting members loses none but those that a later
one of the same name replaces (`Json.find?_sortMembers`), so under distinct names every one of these
values has exactly the members it was built from (`Json.get?_record`,
`Json.get?_recordWith_of_notMem`, `Record.field?_ordered`).
-/

namespace ReplicaSetOperator

namespace Json

/-! ### Sorted members -/

/-- In two lists of members a name is looked for in the first one before the second one. -/
theorem find?_append (k : String) (ms ns : Members) :
    find? k (ms ++ ns) = (find? k ms).or (find? k ns) := by
  induction ms with
  | nil => rfl
  | cons m ms ih =>
    obtain ⟨name, j⟩ := m
    rw [List.cons_append, find?_cons, find?_cons, ih]
    split <;> rfl

/-- A name that is not among the names of members is not found. -/
theorem find?_eq_none {k : String} {ms : Members} (h : k ∉ ms.map Prod.fst) :
    find? k ms = none := by
  induction ms with
  | nil => rfl
  | cons m ms ih =>
    obtain ⟨name, j⟩ := m
    rw [List.map_cons, List.mem_cons, not_or] at h
    rw [find?_cons, if_neg h.1, ih h.2]

/-- What is found under a name is one of the members. -/
theorem mem_of_find? {k : String} {j : Json} {ms : Members} (h : find? k ms = some j) :
    (k, j) ∈ ms := by
  induction ms with
  | nil => cases h
  | cons m ms ih =>
    obtain ⟨name, i⟩ := m
    rw [find?_cons] at h
    split at h
    · next same =>
      cases h
      exact same ▸ List.mem_cons_self
    · exact List.mem_cons_of_mem _ (ih h)

/-- Under distinct names every member is the one that is found. -/
theorem find?_of_mem {k : String} {j : Json} {ms : Members} (distinct : (ms.map Prod.fst).Nodup)
    (h : (k, j) ∈ ms) : find? k ms = some j := by
  induction ms with
  | nil => cases h
  | cons m ms ih =>
    obtain ⟨name, i⟩ := m
    rw [List.map_cons, List.nodup_cons] at distinct
    rw [find?_cons]
    -- the first member is the one, or none of its name stands before the one
    cases h with
    | head => rw [if_pos rfl]
    | tail _ h =>
      have differ : k ≠ name := fun same =>
        distinct.1 (List.mem_map.2 ⟨(k, j), h, same⟩)
      rw [if_neg differ, ih distinct.2 h]

/-- Under distinct names the order does not matter. -/
theorem find?_reverse {ms : Members} (k : String) (distinct : (ms.map Prod.fst).Nodup) :
    find? k ms.reverse = find? k ms := by
  induction ms with
  | nil => rfl
  | cons m ms ih =>
    obtain ⟨name, j⟩ := m
    rw [List.map_cons, List.nodup_cons] at distinct
    rw [List.reverse_cons, find?_append, ih distinct.2, find?_cons, find?_cons, find?_nil]
    by_cases same : k = name
    · subst same
      rw [find?_eq_none distinct.1, if_pos rfl]
      rfl
    · rw [if_neg same, if_neg same, Option.or_none]

/-- A member that is there after an insertion is the new one, or was there before. -/
theorem mem_insertMember {m : String × Json} {key : String} {value : Json} {ms : Members}
    (h : m ∈ insertMember key value ms) : m = (key, value) ∨ m ∈ ms := by
  induction ms with
  | nil => simpa [insertMember] using h
  | cons n ms ih =>
    obtain ⟨name, j⟩ := n
    unfold insertMember at h
    split at h
    · rcases List.mem_cons.1 h with h | h
      · exact .inl h
      · exact .inr (List.mem_cons_of_mem _ h)
    · split at h
      · exact List.mem_cons.1 h
      · rcases List.mem_cons.1 h with h | h
        · exact .inr (h ▸ List.mem_cons_self)
        · exact (ih h).imp_right (List.mem_cons_of_mem _)

/-- Inserting members one after another: what is found is the last one of the name. -/
theorem find?_foldl_insertMember (k : String) (ms sorted : Members) :
    find? k (ms.foldl (fun sorted m => insertMember m.1 m.2 sorted) sorted) =
      (find? k ms.reverse).or (find? k sorted) := by
  induction ms generalizing sorted with
  | nil => rfl
  | cons m ms ih =>
    obtain ⟨name, j⟩ := m
    rw [List.foldl_cons, ih, List.reverse_cons, find?_append, find?_insertMember, find?_cons,
      find?_nil, Option.or_assoc]
    split <;> rfl

/-- Of the members of one name the last one is left when they are sorted. -/
theorem find?_sortMembers (k : String) (ms : Members) :
    find? k (sortMembers ms) = find? k ms.reverse := by
  rw [sortMembers, find?_foldl_insertMember, find?_nil, Option.or_none]

/-- Sorting adds no member. -/
theorem mem_sortMembers {m : String × Json} {ms : Members} (h : m ∈ sortMembers ms) : m ∈ ms := by
  -- they are inserted one by one into what has been sorted so far
  have general : ∀ sorted : Members,
      m ∈ ms.foldl (fun sorted m => insertMember m.1 m.2 sorted) sorted → m ∈ ms ∨ m ∈ sorted := by
    clear h
    induction ms with
    | nil => exact fun _ h => .inr h
    | cons n ms ih =>
      intro sorted h
      rcases ih _ h with h | h
      · exact .inl (List.mem_cons_of_mem _ h)
      · rcases mem_insertMember h with h | h
        · exact .inl (h ▸ List.mem_cons_self)
        · exact .inr h
  simpa using general [] h

/-! ### Members that are there -/

/-- Those of the given members that are there. -/
def given (members : List (String × Option Json)) : Members :=
  members.filterMap fun m => m.2.map (m.1, ·)

theorem record_eq (members : List (String × Option Json)) :
    record members = .object (sortMembers (given members)) := rfl

theorem recordWith_eq (members : List (String × Option Json)) (other : Members) :
    recordWith members other = .object (sortMembers (given members ++ other)) := rfl

/-- The members that are there are those that are given a value. -/
theorem mem_given {k : String} {j : Json} {members : List (String × Option Json)} :
    (k, j) ∈ given members ↔ (k, some j) ∈ members := by
  simp only [given, List.mem_filterMap, Prod.exists]
  constructor
  · rintro ⟨name, v, h, same⟩
    cases v with
    | none => cases same
    | some v => cases same; exact h
  · exact fun h => ⟨k, some j, h, rfl⟩

/-- The order of the members stays when those that are not there are left out. -/
theorem given_sublist (members : List (String × Option Json)) :
    ((given members).map Prod.fst).Sublist (members.map Prod.fst) := by
  induction members with
  | nil => exact .slnil
  | cons m members ih =>
    obtain ⟨name, v⟩ := m
    cases v with
    | none => exact .cons _ ih
    | some v => exact .cons_cons _ ih

/-- And so their names stay distinct. -/
theorem nodup_given {members : List (String × Option Json)}
    (distinct : (members.map Prod.fst).Nodup) : ((given members).map Prod.fst).Nodup :=
  (given_sublist members).nodup distinct

/-- Of members with distinct names those that are there are found. -/
theorem find?_given {members : List (String × Option Json)} (k : String)
    (distinct : (members.map Prod.fst).Nodup) :
    find? k (given members) = (members.lookup k).join := by
  induction members with
  | nil => rfl
  | cons m members ih =>
    obtain ⟨name, v⟩ := m
    rw [List.map_cons, List.nodup_cons] at distinct
    by_cases same : k = name
    · subst same
      have absent : find? k (given members) = none :=
        find?_eq_none fun h => distinct.1 ((given_sublist members).subset h)
      -- the member of the name has a value, or there is none
      cases v with
      | none => simpa [given] using absent
      | some v => simp [given, find?_cons]
    · have lookup : ((name, v) :: members).lookup k = members.lookup k := by
        simp [List.lookup_cons, beq_false_of_ne same]
      cases v with
      | none => exact lookup ▸ ih distinct.2
      | some v =>
        rw [lookup, ← ih distinct.2]
        exact (find?_cons k name v _).trans (if_neg same)

/-- A record has the members it was built from. -/
theorem get?_record {members : List (String × Option Json)} (k : String)
    (distinct : (members.map Prod.fst).Nodup) :
    (record members).get? k = (members.lookup k).join := by
  rw [get?, record_eq, members_object, find?_sortMembers, find?_reverse k (nodup_given distinct),
    find?_given k distinct]

/-- A record has no members but those that it was built from. -/
theorem mem_record {k : String} {j : Json} {members : List (String × Option Json)}
    (h : (k, j) ∈ (record members).members) : (k, some j) ∈ members :=
  mem_given.1 (mem_sortMembers h)

/-- What is carried along under other names does not count. -/
theorem get?_recordWith_of_notMem {members : List (String × Option Json)} {other : Members}
    {k : String} (distinct : (members.map Prod.fst).Nodup) (apart : k ∉ other.map Prod.fst) :
    (recordWith members other).get? k = (members.lookup k).join := by
  have absent : find? k other.reverse = none := find?_eq_none (by simpa using apart)
  calc (recordWith members other).get? k
      = find? k (given members ++ other).reverse := by
        rw [get?, recordWith_eq, members_object, find?_sortMembers]
    _ = find? k (given members).reverse := by
        rw [List.reverse_append, find?_append, absent, Option.none_or]
    _ = (members.lookup k).join := by
        rw [find?_reverse k (nodup_given distinct), find?_given k distinct]

/-- With what is carried along it has those as well. -/
theorem mem_recordWith {k : String} {j : Json} {members : List (String × Option Json)}
    {other : Members} (h : (k, j) ∈ (recordWith members other).members) :
    (k, some j) ∈ members ∨ (k, j) ∈ other := by
  rcases List.mem_append.1 (mem_sortMembers h) with h | h
  · exact .inl (mem_given.1 h)
  · exact .inr h

end Json

namespace Record

theorem ordered_eq (members : List (String × Option Json)) :
    ordered members = .object (Json.given members) := rfl

/-- A record in the order of declaration has the members it was built from. -/
theorem field?_ordered {members : List (String × Option Json)} (names : List String) (k : String)
    (distinct : (members.map Prod.fst).Nodup) :
    field? names k (ordered members) = (members.lookup k).join :=
  Json.find?_given k distinct

end Record

/-! ### Paths and merges -/

namespace Json

@[simp] theorem at?_nil (j : Json) : j.at? [] = some j := rfl

/-- Only objects have members. -/
theorem eq_object_of_get? {j v : Json} {k : String} (h : j.get? k = some v) :
    ∃ ms, j = .object ms := by
  cases j with
  | object ms => exact ⟨ms, rfl⟩
  | _ => cases h

theorem at?_cons (j : Json) (k : String) (path : List String) :
    j.at? (k :: path) = (j.get? k).bind (·.at? path) := rfl

/-- A path of two names leads through the part of the first one. -/
theorem at?_pair (j : Json) (outer inner : String) :
    j.at? [outer, inner] = (j.get? outer).bind (·.get? inner) := by
  rw [at?_cons]
  cases j.get? outer with
  | none => rfl
  | some part =>
    rw [Option.bind_some, Option.bind_some, at?_cons]
    exact Option.bind_fun_some _

/-- What is put at the end of a path of two names is found there, and all else is as before. -/
theorem get?_setAt_pair (j : Json) (k outer inner : String) (value : Json) :
    (j.setAt [outer, inner] value).get? k =
      if k = outer then some (((j.get? outer).getD .null).set inner value) else j.get? k :=
  get?_set j k outer _

theorem merge_object (changes : Members) (j : Json) :
    (object changes).merge j = .object (mergeMembers changes j.members) := rfl

@[simp] theorem mergeMembers_nil (ms : Members) : mergeMembers [] ms = ms := rfl

theorem mergeMembers_null (key : String) (rest ms : Members) :
    mergeMembers ((key, .null) :: rest) ms = mergeMembers rest (eraseMember key ms) := rfl

/-- Any change but null is merged into the member of its name. -/
theorem mergeMembers_cons {key : String} {change : Json} (rest ms : Members)
    (there : change ≠ .null) :
    mergeMembers ((key, change) :: rest) ms =
      mergeMembers rest (insertMember key (change.merge ((find? key ms).getD .null)) ms) := by
  cases change with
  | null => exact absurd rfl there
  | bool _ => rfl
  | number _ => rfl
  | string _ => rfl
  | array _ => rfl
  | object _ => rfl
  | broken _ => rfl

/-- A change of one member of an object, merged into a value. -/
theorem get?_merge_singleton (j : Json) (k key : String) {change : Json} (there : change ≠ .null) :
    ((object [(key, change)]).merge j).get? k =
      if k = key then some (change.merge ((j.get? key).getD .null)) else j.get? k := by
  rw [merge_object, mergeMembers_cons _ _ there]
  exact find?_insertMember k key _ _

/-- A null takes the member away that it stands under. -/
theorem get?_merge_null (j : Json) (k key : String) :
    ((object [(key, .null)]).merge j).get? k = if k = key then none else j.get? k :=
  find?_eraseMember k key _

end Json

end ReplicaSetOperator

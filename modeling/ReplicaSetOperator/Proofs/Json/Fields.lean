import ReplicaSetOperator.Proofs.Json.Ascending
import ReplicaSetOperator.Proofs.Json.ReadPrint

/-!
# Strict records

A strict record whose names are distinct has no fault exactly if none of its members has one and
the required ones are there (`Record.fault_object`), in whatever order they stand. What follows for
the values that `Json.record` and `Record.ordered` build: their faults, what is read from them, and
what their texts are read as.
-/

namespace ReplicaSetOperator

namespace Record

variable {rules : List FieldRule} {source : Source} {ms : Json.Members}

/-- A member without fault: that of its rule, or what is passed over where there is none. -/
def Fine (rules : List FieldRule) (source : Source) (m : String × Json) : Prop :=
  match rules.find? fun r => r.name == m.1 with
  | none => m.2.passed = none
  | some r => r.fault source m.2 = none

/-! ### The walk over the members -/

/-- A walk that comes to an end has met no fault. -/
theorem fine_of_walk {seen known : List String} (h : walk rules source seen ms = .ok known) :
    ∀ m ∈ ms, Fine rules source m := by
  induction ms generalizing seen with
  | nil => exact fun _ mem => absurd mem List.not_mem_nil
  | cons m rest ih =>
    obtain ⟨key, v⟩ := m
    rw [walk] at h
    refine List.forall_mem_cons.2 ?_
    rw [Fine]
    -- a member without a rule has to be passed over without fault, one with a rule must fit it
    split at h
    · next unknown =>
      rw [unknown]
      split at h
      · cases h
      · next passed => exact ⟨passed, ih h⟩
    · next r isKnown =>
      rw [isKnown]
      split at h
      · cases h
      · split at h
        · cases h
        · next fine => exact ⟨fine, ih h⟩

/-- What is in a record without fault has none. -/
theorem fine_of_fault (h : fault rules source (.object ms) = none) :
    ∀ m ∈ ms, Fine rules source m := by
  rw [fault] at h
  split at h
  · cases h
  · next known walked => exact fine_of_walk walked

/-- What a walk that comes to an end has seen: the known names. -/
theorem mem_of_walk {seen known : List String} (h : walk rules source seen ms = .ok known)
    (name : String) :
    name ∈ known ↔ name ∈ seen ∨ name ∈ ms.map Prod.fst ∧ ∃ r ∈ rules, r.name = name := by
  -- by induction on the members: a known name joins those that have been seen
  induction ms generalizing seen with
  | nil =>
    rw [walk] at h
    obtain rfl := Except.ok.inj h
    simp
  | cons m rest ih =>
    obtain ⟨key, v⟩ := m
    rw [walk] at h
    split at h
    · next unknown =>
      split at h
      · cases h
      · rw [ih h]
        -- no field has the name of this member
        have apart (r : FieldRule) (mem : r ∈ rules) : r.name ≠ key := by
          simpa using List.find?_eq_none.1 unknown r mem
        constructor
        · exact Or.imp_right (And.imp_left (List.mem_cons_of_mem _))
        · rintro (old | ⟨there, r, mem, same⟩)
          · exact .inl old
          · rcases List.mem_cons.1 there with eq | there
            · exact absurd (same.trans eq) (apart r mem)
            · exact .inr ⟨there, r, mem, same⟩
    · next r isKnown =>
      have mem : r ∈ rules := List.mem_of_find?_eq_some isKnown
      have same : r.name = key := by simpa using List.find?_some isKnown
      split at h
      · cases h
      · split at h
        · cases h
        · rw [ih h, List.mem_cons]
          constructor
          · rintro ((rfl | old) | ⟨there, known⟩)
            · exact .inr ⟨List.mem_cons_self, r, mem, same⟩
            · exact .inl old
            · exact .inr ⟨List.mem_cons_of_mem _ there, known⟩
          · rintro (old | ⟨there, known⟩)
            · exact .inl (.inr old)
            · rcases List.mem_cons.1 there with eq | there
              · exact .inl (.inl eq)
              · exact .inr ⟨there, known⟩

/-- A walk over distinct names comes to an end if it meets no fault. -/
theorem walk_of_fine {seen : List String} (distinct : (ms.map Prod.fst).Nodup)
    (fresh : ∀ name ∈ ms.map Prod.fst, name ∉ seen) (fine : ∀ m ∈ ms, Fine rules source m) :
    ∃ known, walk rules source seen ms = .ok known := by
  induction ms generalizing seen with
  | nil => exact ⟨seen, rfl⟩
  | cons m rest ih =>
    obtain ⟨key, v⟩ := m
    obtain ⟨first, others⟩ := List.nodup_cons.1 distinct
    obtain ⟨fine, fines⟩ := List.forall_mem_cons.1 fine
    rw [Fine] at fine
    rw [walk]
    split
    · next unknown =>
      rw [unknown] at fine
      dsimp only at fine
      rw [fine]
      exact ih others (fun name mem => fresh name (List.mem_cons_of_mem _ mem)) fines
    · next r isKnown =>
      rw [isKnown] at fine
      dsimp only at fine
      -- the names are distinct, so that none has been seen before
      rw [if_neg (fresh key List.mem_cons_self), fine]
      refine ih others (fun name mem => ?_) fines
      rw [List.mem_cons, not_or]
      refine ⟨?_, fresh name (List.mem_cons_of_mem _ mem)⟩
      rintro rfl
      exact first mem

/-- No required name is missing if all of them have been seen. -/
theorem missing_eq_none {seen : List String} :
    missing rules seen = none ↔ ∀ r ∈ rules, r.presence = .required → r.name ∈ seen := by
  rw [missing, Option.map_eq_none_iff, List.find?_eq_none]
  refine forall_congr' fun r => forall_congr' fun mem => ?_
  simp only [decide_eq_true_eq, not_and, Decidable.not_not]

/-- A record with distinct names has no fault exactly if its members have none and the required ones
are there. -/
theorem fault_object (distinct : (ms.map Prod.fst).Nodup) :
    fault rules source (.object ms) = none ↔
      (∀ m ∈ ms, Fine rules source m) ∧
        ∀ r ∈ rules, r.presence = .required → r.name ∈ ms.map Prod.fst := by
  rw [fault]
  constructor
  -- from a walk that has come to its end, by what it has seen
  · intro h
    split at h
    · cases h
    · next known walked =>
      refine ⟨fine_of_walk walked, fun r mem required => ?_⟩
      have seen := missing_eq_none.1 h r mem required
      rcases (mem_of_walk walked r.name).1 seen with old | ⟨there, -⟩
      · exact absurd old List.not_mem_nil
      · exact there
  · rintro ⟨fine, complete⟩
    obtain ⟨known, walked⟩ := walk_of_fine distinct (fun _ _ => List.not_mem_nil) fine
    rw [walked]
    refine missing_eq_none.2 fun r mem required => ?_
    exact (mem_of_walk walked r.name).2 (.inr ⟨complete r mem required, r, mem, rfl⟩)

/-! ### Built records -/

variable {members : List (String × Option Json)}

/-- A member that is given is there under its name. -/
theorem mem_names_given {name : String} {v : Json} (h : (name, some v) ∈ members) :
    name ∈ (Json.given members).map Prod.fst :=
  List.mem_map.2 ⟨(name, v), Json.mem_given.2 h, rfl⟩

/-- A record in the order of declaration has no fault if its members have none and the required ones
are given. -/
theorem fault_ordered (distinct : (members.map Prod.fst).Nodup)
    (fine : ∀ m ∈ members, ∀ v ∈ m.2, Fine rules source (m.1, v))
    (complete : ∀ r ∈ rules, r.presence = .required → ∃ v, (r.name, some v) ∈ members) :
    fault rules source (ordered members) = none := by
  rw [ordered_eq, fault_object (Json.nodup_given distinct)]
  refine ⟨fun m mem => fine (m.1, some m.2) (Json.mem_given.1 mem) m.2 rfl, ?_⟩
  intro r mem required
  obtain ⟨v, there⟩ := complete r mem required
  exact mem_names_given there

/-- A record in the order of names has no fault under the same conditions. -/
theorem fault_record (distinct : (members.map Prod.fst).Nodup)
    (fine : ∀ m ∈ members, ∀ v ∈ m.2, Fine rules source (m.1, v))
    (complete : ∀ r ∈ rules, r.presence = .required → ∃ v, (r.name, some v) ∈ members) :
    fault rules source (Json.record members) = none := by
  have sorted := (Json.ascending_sortMembers (Json.given members)).nodup
  -- sorting changes the order of the members and nothing else
  rw [Json.record_eq, fault_object sorted]
  have same (m : String × Json) : m ∈ Json.sortMembers (Json.given members) ↔
      m ∈ Json.given members := Json.mem_sortMembers_iff (Json.nodup_given distinct)
  constructor
  · intro m mem
    exact fine (m.1, some m.2) (Json.mem_given.1 ((same m).1 mem)) m.2 rfl
  · intro r mem required
    obtain ⟨v, there⟩ := complete r mem required
    exact List.mem_map.2 ⟨(r.name, v), (same _).2 (Json.mem_given.2 there), rfl⟩

end Record

namespace Format

variable {α : Type} {members : List (String × Option Json)}

/-- What is read of a member of a built record. -/
theorem readField_ordered (f : Format α) (names : List String) (name : String) (absent : α)
    (distinct : (members.map Prod.fst).Nodup) :
    f.readField names name absent (Record.ordered members) =
      (((members.lookup name).join).map f.read).getD absent := by
  rw [readField, Record.field?_ordered names name distinct]

/-- Nor does the order of the members matter to what is read of one of them. -/
theorem readField_record (f : Format α) (names : List String) (name : String) (absent : α)
    (distinct : (members.map Prod.fst).Nodup) :
    f.readField names name absent (Json.record members) =
      (((members.lookup name).join).map f.read).getD absent := by
  have there : Record.field? names name (Json.record members) = (members.lookup name).join :=
    Json.get?_record name distinct
  rw [readField, there]

end Format

namespace Json

/-! ### Texts of built records -/

/-- Items can be read if each of them can. -/
theorem legibleItems_iff (items : List Json) :
    LegibleItems items ↔ ∀ j ∈ items, j.Legible := by
  induction items with
  | nil => simp [LegibleItems]
  | cons j items ih => simp [LegibleItems, ih]

theorem legibleMembers_iff (ms : Members) :
    LegibleMembers ms ↔ ∀ m ∈ ms, m.2.Legible := by
  induction ms with
  | nil => simp [LegibleMembers]
  | cons m ms ih =>
    obtain ⟨key, j⟩ := m
    simp [LegibleMembers, ih]

/-- The depth of items is bounded if that of each of them is. -/
theorem depthItems_le {d : Nat} (items : List Json) :
    depthItems items ≤ d ↔ ∀ j ∈ items, j.depth ≤ d := by
  induction items with
  | nil => simp [depthItems]
  | cons j items ih => rw [depthItems, Nat.max_le, ih, List.forall_mem_cons]

theorem depthMembers_le {d : Nat} (ms : Members) :
    depthMembers ms ≤ d ↔ ∀ m ∈ ms, m.2.depth ≤ d := by
  induction ms with
  | nil => simp [depthMembers]
  | cons m ms ih =>
    obtain ⟨key, j⟩ := m
    rw [depthMembers, Nat.max_le, ih, List.forall_mem_cons]

/-- The texts of items are read one by one. -/
theorem rereadItems_eq (items : List Json) : rereadItems items = items.map reread := by
  induction items with
  | nil => rfl
  | cons j items ih => rw [rereadItems, ih, List.map_cons]

theorem rereadMembers_eq (ms : Members) :
    rereadMembers ms = ms.map fun m => (m.1, m.2.reread) := by
  induction ms with
  | nil => rfl
  | cons m ms ih =>
    obtain ⟨key, j⟩ := m
    rw [rereadMembers, ih, List.map_cons]

variable {members : List (String × Option Json)}

/-- A record can be read if the members that are given can. -/
theorem legible_ordered :
    (Record.ordered members).Legible ↔ ∀ m ∈ members, ∀ v ∈ m.2, v.Legible := by
  rw [Record.ordered_eq, Legible, legibleMembers_iff]
  constructor
  · rintro h ⟨name, v⟩ mem j there
    obtain rfl : v = some j := there
    exact h (name, j) (mem_given.2 mem)
  · exact fun h m mem => h (m.1, some m.2) (mem_given.1 mem) m.2 rfl

/-- A record is one deeper than its members. -/
theorem depth_ordered {d : Nat} :
    (Record.ordered members).depth ≤ d + 1 ↔ ∀ m ∈ members, ∀ v ∈ m.2, v.depth ≤ d := by
  rw [Record.ordered_eq, depth, Nat.add_le_add_iff_right, depthMembers_le]
  constructor
  · rintro h ⟨name, v⟩ mem j there
    obtain rfl : v = some j := there
    exact h (name, j) (mem_given.2 mem)
  · exact fun h m mem => h (m.1, some m.2) (mem_given.1 mem) m.2 rfl

/-- What the text of a record is read as: the record of what the texts of its members are. -/
theorem reread_ordered :
    (Record.ordered members).reread =
      Record.ordered (members.map fun m => (m.1, m.2.map reread)) := by
  rw [Record.ordered_eq, reread, rereadMembers_eq, Record.ordered_eq]
  refine congrArg object ?_
  -- a member that is not given is not printed either
  induction members with
  | nil => rfl
  | cons m members ih =>
    obtain ⟨name, v⟩ := m
    cases v with
    | none => exact ih
    | some v => exact congrArg ((name, v.reread) :: ·) ih

end Json

end ReplicaSetOperator

import ReplicaSetOperator.Proofs.Json.Members

/-!
# Members in ascending order

Members in strictly ascending order of their names (`Json.Ascending`) have each name once, and stay
in that order when one is inserted or erased. Inserting what is there already changes nothing
(`Json.insertMember_of_find?`).
-/

namespace ReplicaSetOperator

namespace Json

/-- The names stand in strictly ascending order. -/
def Ascending (ms : Members) : Prop := ms.Pairwise fun m n => m.1 < n.1

variable {ms : Members}

/-- Of two names that differ one comes before the other. -/
theorem lt_of_not {k key : String} (differ : key ≠ k) (notLess : ¬ key < k) : k < key := by
  refine String.not_le.1 fun le => differ ?_
  exact String.le_antisymm le (String.not_lt.1 notLess)

/-- No name comes twice in ascending order. -/
theorem Ascending.nodup (h : Ascending ms) : (ms.map Prod.fst).Nodup := by
  refine List.pairwise_map.2 (h.imp fun less same => ?_)
  rw [same] at less
  exact String.lt_irrefl _ less

/-- Members stay in order when one is inserted. -/
theorem Ascending.insertMember (h : Ascending ms) (key : String) (value : Json) :
    Ascending (insertMember key value ms) := by
  induction ms with
  | nil => exact List.pairwise_singleton _ _
  | cons m rest ih =>
    obtain ⟨k, v⟩ := m
    obtain ⟨first, others⟩ := List.pairwise_cons.1 h
    unfold Json.insertMember
    -- the new member takes the place of its name, comes first, or goes into the rest
    split
    · next same =>
      subst same
      exact List.pairwise_cons.2 ⟨first, others⟩
    · next differ =>
      split
      · next less =>
        -- the new name comes first
        refine List.pairwise_cons.2 ⟨fun n mem => ?_, h⟩
        rcases List.mem_cons.1 mem with rfl | mem
        · exact less
        · exact String.lt_trans less (first n mem)
      · next notLess =>
        -- it comes further on, after the first one that there is
        refine List.pairwise_cons.2 ⟨fun n mem => ?_, ih others⟩
        rcases mem_insertMember mem with rfl | mem
        · exact lt_of_not differ notLess
        · exact first n mem

theorem Ascending.eraseMember (h : Ascending ms) (key : String) :
    Ascending (eraseMember key ms) :=
  h.filter _

theorem ascending_nil : Ascending [] := List.Pairwise.nil

/-- Sorted members are in order. -/
theorem ascending_sortMembers (ms : Members) : Ascending (sortMembers ms) := by
  -- each of them is inserted into what has been sorted so far
  have general : ∀ sorted : Members, Ascending sorted →
      Ascending (ms.foldl (fun sorted m => Json.insertMember m.1 m.2 sorted) sorted) := by
    induction ms with
    | nil => exact fun _ h => h
    | cons m ms ih => exact fun sorted h => ih _ (h.insertMember m.1 m.2)
  exact general [] ascending_nil

/-- Of members with distinct names sorting loses none. -/
theorem mem_sortMembers_iff {m : String × Json} (distinct : (ms.map Prod.fst).Nodup) :
    m ∈ sortMembers ms ↔ m ∈ ms := by
  refine ⟨mem_sortMembers, fun mem => ?_⟩
  obtain ⟨k, v⟩ := m
  apply mem_of_find?
  rw [find?_sortMembers, find?_reverse k distinct]
  exact find?_of_mem distinct mem

/-- Names are found again after an insertion. -/
theorem mem_names_insertMember {k key : String} {value : Json} :
    k ∈ (Json.insertMember key value ms).map Prod.fst ↔ k = key ∨ k ∈ ms.map Prod.fst := by
  induction ms with
  | nil => simp [Json.insertMember]
  | cons m rest ih =>
    obtain ⟨name, v⟩ := m
    -- the name is that of the first member, comes before it, or goes into the rest
    unfold Json.insertMember
    split
    · next same =>
      subst same
      simp
    · split
      · simp
      · rw [List.map_cons, List.mem_cons, ih, List.map_cons, List.mem_cons]
        exact or_left_comm

end Json

end ReplicaSetOperator

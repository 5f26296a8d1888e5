import ReplicaSetOperator.Proofs.Cluster.Stored

/-!
# Patches of the status

A patch of the status turns the status that is read into another one (`ClusterStatus.Turns`): the
members that it names are set, and all others are left (`ClusterStatus.turns_phase`,
`ClusterStatus.turns_members`, `ClusterStatus.turns_conditions`). Merged into a cluster, it does
nothing else (`ClusterStatus.Turns.whole`).
-/

namespace ReplicaSetOperator

theorem Format.int32_read_write (i : Int32) : int32.read (int32.write i) = i :=
  Int32.ofInt_toInt i

namespace ClusterStatus

/-- The rules of the members of a status. -/
def rules : List FieldRule :=
  [Condition.format.list.rule "conditions" .defaulted,
   Format.string.option.rule "phase" .optional,
   Format.int32.option.rule "currentMongodbMembers" .optional,
   Format.int64.option.rule "version" .optional, Format.string.option.rule "message" .optional]

/-- No member of a status is required. -/
theorem mild_rules : ∀ r ∈ rules, r.presence ≠ .required := by
  intro r mem
  simp only [rules, List.mem_cons, List.not_mem_nil, or_false] at mem
  rcases mem with rfl | rfl | rfl | rfl | rfl <;> rintro ⟨⟩

/-- Merging members into a status turns it into another one. -/
structure Turns (members : List (String × Option Json)) (f : ClusterStatus → ClusterStatus) :
    Prop where
  distinct : (members.map Prod.fst).Nodup
  flat : Json.AllFlat members
  fine : ∀ m ∈ members, ∀ v ∈ m.2, v ≠ .null → Record.Fine rules .value (m.1, v)
  read : ∀ ms : Json.Members,
    format.read ((Json.record members).merge (.object ms)) = f (format.read (.object ms))

variable {members : List (String × Option Json)} {f : ClusterStatus → ClusterStatus}

/-- A patch of the status of a cluster does nothing else. -/
theorem Turns.whole (turns : Turns members f) {object : Json} (h : Cluster.Whole object) :
    Cluster.Whole ((Status.changing members).merge object) ∧
      Cluster.format.read ((Status.changing members).merge object) =
        { Cluster.format.read object with
          status := some (f ((Cluster.format.read object).status.getD {})) } := by
  obtain ⟨old, isOld⟩ : ∃ j, (object.get? "status").getD .null = j := ⟨_, rfl⟩
  have eq : (Status.changing members).merge object =
      object.set "status" ((Json.record members).merge old) := by
    rw [Status.changing, Json.merge_member _ (by rintro ⟨⟩), isOld]
  -- Where there is no status, the patch is merged into an empty one.
  obtain ⟨ms, ascending, fine, merge, read⟩ : ∃ ms : Json.Members, Json.Ascending ms ∧
      format.fault .value (.object ms) = none ∧
      (Json.record members).merge old = (Json.record members).merge (.object ms) ∧
      format.read old = format.read (.object ms) := by
    by_cases isNull : old = .null
    · rw [isNull]
      exact ⟨[], Json.ascending_nil, rfl, rfl, rfl⟩
    · have there : object.get? "status" = some old := by
        cases found : object.get? "status" with
        | none =>
          rw [found] at isOld
          exact absurd isOld.symm isNull
        | some v =>
          rw [found] at isOld
          exact congrArg some isOld
      obtain ⟨ms, rfl, ascending⟩ := h.status old there isNull
      exact ⟨ms, ascending, h.fault_status there isNull, rfl, rfl⟩
  obtain ⟨whole, set⟩ := h.set_status ⟨_, rfl, ascending.mergeMembers _⟩
    (Record.fault_merge mild_rules ascending fine turns.distinct turns.flat turns.fine)
  rw [eq, merge, h.status_eq, isOld, read, ← turns.read ms]
  exact ⟨whole, set⟩

/-! ### The patches of the operator -/

/-- What is read of a status into which members have been merged. -/
theorem read_merge (distinct : (members.map Prod.fst).Nodup) (ms : Json.Members) :
    format.read ((Json.record members).merge (.object ms)) =
      { conditions := ((Json.afterChange (members.lookup "conditions").join
          (Json.find? "conditions" ms)).map Condition.format.list.read).getD []
        phase := ((Json.afterChange (members.lookup "phase").join
          (Json.find? "phase" ms)).map Format.string.option.read).getD none
        currentMembers := ((Json.afterChange (members.lookup "currentMongodbMembers").join
          (Json.find? "currentMongodbMembers" ms)).map Format.int32.option.read).getD none
        version := ((Json.afterChange (members.lookup "version").join
          (Json.find? "version" ms)).map Format.int64.option.read).getD none
        message := ((Json.afterChange (members.lookup "message").join
          (Json.find? "message" ms)).map Format.string.option.read).getD none } := by
  show ClusterStatus.mk _ _ _ _ _ = _
  simp only [Format.readField_merge _ _ _ _ distinct]
  rfl

/-- A patch of the phase sets the message as well, or takes it away. -/
theorem turns_phase (phase : Phase) (message : Option String) :
    Turns [("phase", some (.string phase.label)),
        ("message", some (Format.string.option.write message))]
      fun s => { s with phase := some phase.label, message := message } where
  distinct := by simp
  -- a text is put in place of what was there, and no message takes it away
  flat := by
    intro m mem v there
    simp only [List.mem_cons, List.not_mem_nil, or_false] at mem
    rcases mem with rfl | rfl
    · obtain rfl := Option.some.inj there
      exact Json.flat_string _
    · obtain rfl := Option.some.inj there
      cases message with
      | none => exact Json.flat_null
      | some text => exact Json.flat_string text
  fine := by
    intro m mem v there apart
    simp only [List.mem_cons, List.not_mem_nil, or_false] at mem
    rcases mem with rfl | rfl
    · obtain rfl := Option.some.inj there
      rfl
    · obtain rfl := Option.some.inj there
      cases message with
      | none => exact absurd rfl apart
      | some text => rfl
  read ms := by
    rw [read_merge (by simp)]
    cases message with
    | none => rfl
    | some text => rfl

/-- A patch of the members sets their number together with the version of the document. -/
theorem turns_members (members : Int32) (version : Int64) :
    Turns [("currentMongodbMembers", some (Format.int32.write members)),
        ("version", some (Format.int64.write version))]
      fun s => { s with currentMembers := some members, version := some version } where
  distinct := by simp
  flat := by
    intro m mem v there
    simp only [List.mem_cons, List.not_mem_nil, or_false] at mem
    rcases mem with rfl | rfl <;> obtain rfl := Option.some.inj there <;>
      exact Json.flat_ofInt _
  fine := by
    intro m mem v there _
    simp only [List.mem_cons, List.not_mem_nil, or_false] at mem
    rcases mem with rfl | rfl
    · obtain rfl := Option.some.inj there
      exact Format.int32_faultless members
    · obtain rfl := Option.some.inj there
      exact Format.int64_faultless version
  read ms := by
    rw [read_merge (by simp)]
    show ClusterStatus.mk _ _ (some (Format.int32.read (Format.int32.write members)))
      (some (Format.int64.read (Format.int64.write version))) _ = _
    rw [Format.int32_read_write, Format.int64_read_write]
    rfl

/-- A patch of the conditions puts a list in the place of the one that is there. -/
theorem turns_conditions {cs : List Condition} (valid : ∀ c ∈ cs, c.lastTransitionTime.Valid) :
    Turns [("conditions", some (Condition.format.list.write cs))]
      fun s => { s with conditions := cs } where
  distinct := by simp
  flat := by
    intro m mem v there
    obtain rfl := List.mem_singleton.1 mem
    obtain rfl := Option.some.inj there
    exact Json.flat_array _
  fine := by
    intro m mem v there _
    obtain rfl := List.mem_singleton.1 mem
    obtain rfl := Option.some.inj there
    exact Format.list_faultless fun c inside => Condition.faultless (valid c inside)
  read ms := by
    rw [read_merge (by simp)]
    show ClusterStatus.mk (Condition.format.list.read (Condition.format.list.write cs)) _ _ _ _ = _
    rw [Condition.list_read_write valid]
    rfl

/-- The conditions of a status without fault were set at times that exist. -/
theorem valid_conditions {ms : Json.Members} (h : format.fault .value (.object ms) = none) :
    ∀ c ∈ (format.read (.object ms)).conditions, c.lastTransitionTime.Valid := by
  intro c mem
  change c ∈ ((Json.find? "conditions" ms).map Condition.format.list.read).getD [] at mem
  cases there : Json.find? "conditions" ms with
  | none =>
    rw [there] at mem
    cases mem
  | some v =>
    rw [there] at mem
    -- the conditions are a member, which has no fault either
    have fine : Condition.format.list.fault .value v = none :=
      Record.fine_of_fault h _ (Json.mem_of_find? there)
    cases v with
    | array items =>
      obtain ⟨item, inside, rfl⟩ := List.mem_map.1 mem
      exact Condition.valid_of_fault (List.findSome?_eq_none_iff.1 fine item inside)
    | _ => cases fine

end ClusterStatus

/-- The conditions of a whole cluster were set at times that exist, if there is a status at all. -/
theorem Cluster.Whole.valid_conditions {object : Json} (h : Whole object) :
    ∀ c ∈ ((format.read object).status.getD {}).conditions, c.lastTransitionTime.Valid := by
  rw [h.status_eq]
  cases there : object.get? "status" with
  -- a status that is not there, or null, has no conditions
  | none => exact fun _ mem => absurd mem List.not_mem_nil
  | some v =>
    by_cases isNull : v = .null
    · rw [isNull]
      exact fun _ mem => absurd mem List.not_mem_nil
    · obtain ⟨ms, rfl, -⟩ := h.status v there isNull
      exact ClusterStatus.valid_conditions (h.fault_status there isNull)

end ReplicaSetOperator

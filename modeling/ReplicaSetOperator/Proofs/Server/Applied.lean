import ReplicaSetOperator.Proofs.Object.Sound
import ReplicaSetOperator.Proofs.Server.Objects

/-!
# Applied objects

What an object is once it has been applied: what was sent, with the status that was there and a
generation that counts the changes of what it should be (`Json.appliedGeneration`). It keeps the
form that it was sent in (`Lenient.fault_appliedOver`).
-/

namespace ReplicaSetOperator

namespace Json

variable {object old : Json} {before : Option Json}

/-- The generation of an object that is applied over an old one. -/
def appliedGeneration (object : Json) : Option Json → Int
  | none => 1
  | some old => old.generation + if object.get? "spec" ≠ old.get? "spec" then 1 else 0

/-- The part of an object that is not its generation, applied over an old one. -/
def keepingStatus (object : Json) (before : Option Json) : Json :=
  ((before.bind (·.get? "status")).map (object.set "status")).getD object

/-- Keeping the status leaves all other members. -/
theorem get?_keepingStatus {name : String} (apart : name ≠ "status") :
    (object.keepingStatus before).get? name = object.get? name := by
  rw [keepingStatus]
  cases before.bind (·.get? "status") with
  | none => rfl
  | some status => exact (get?_set object name "status" status).trans (if_neg apart)

/-- What is applied keeps the status that is there and gets a generation. -/
theorem appliedOver_eq (object : Json) (before : Option Json) :
    object.appliedOver before =
      (object.keepingStatus before).setAt ["metadata", "generation"]
        (.ofInt (object.appliedGeneration before)) := by
  cases before with
  | none => rfl
  | some old =>
    have spec := @get?_keepingStatus object (some old) "spec" (by decide)
    rw [keepingStatus, Option.bind_some] at spec ⊢
    rw [appliedOver, appliedGeneration]
    cases status : old.get? "status" with
    | none => rfl
    | some status =>
      rw [status] at spec
      dsimp only [Option.map_some, Option.getD_some] at spec ⊢
      rw [spec]

/-- Nothing else of it is changed. -/
theorem get?_appliedOver {name : String} (apart : name ∉ ["metadata", "status"]) :
    (object.appliedOver before).get? name = object.get? name := by
  rw [List.mem_cons, List.mem_singleton, not_or] at apart
  rw [appliedOver_eq, get?_setAt_pair, if_neg apart.1, get?_keepingStatus apart.2]

/-- The metadata are those that were sent, with the generation. -/
theorem get?_appliedOver_metadata :
    (object.appliedOver before).get? "metadata" =
      some (((object.get? "metadata").getD .null).set "generation"
        (.ofInt (object.appliedGeneration before))) := by
  rw [appliedOver_eq, get?_setAt_pair, if_pos rfl, get?_keepingStatus (by decide)]

/-- What has been found as a generation is one. -/
theorem generation_of_at? {g : Int} (bounds : -0x8000000000000000 ≤ g ∧ g ≤ 0x7fffffffffffffff)
    (h : object.at? ["metadata", "generation"] = some (.ofInt g)) : object.generation = g := by
  rw [generation, h]
  show ((some g).filter _).getD 0 = g
  rw [Option.filter_some, if_pos (decide_eq_true bounds)]
  rfl

/-- A generation fits into 64 bits, as what does not is read as zero. -/
theorem generation_bounds (object : Json) :
    -0x8000000000000000 ≤ object.generation ∧ object.generation ≤ 0x7fffffffffffffff := by
  rw [generation]
  cases (object.at? ["metadata", "generation"]).bind integer? with
  | none => decide
  | some i =>
    rw [Option.filter_some]
    split
    · next bounds => exact of_decide_eq_true bounds
    · decide

/-- There is room for another generation of an object, if there is to be one. -/
def Room (object : Json) (before : Option Json) : Prop :=
  ∀ old ∈ before, object.get? "spec" ≠ old.get? "spec" → old.generation < 0x7fffffffffffffff

/-- With room for it the next generation fits as well. -/
theorem Room.bounds (h : object.Room before) :
    -0x8000000000000000 ≤ object.appliedGeneration before ∧
      object.appliedGeneration before ≤ 0x7fffffffffffffff := by
  cases before with
  | none =>
    rw [appliedGeneration]
    omega
  | some old =>
    have bounds := old.generation_bounds
    rw [appliedGeneration]
    split
    · next changed =>
      -- only a change of what is wanted takes another number
      have room := h old rfl changed
      omega
    · omega

/-- The generation stays as it is where the same is applied again. -/
theorem appliedGeneration_of_same (same : object.get? "spec" = old.get? "spec") :
    object.appliedGeneration (some old) = old.generation := by
  rw [appliedGeneration, if_neg (not_not_intro same), Int.add_zero]

/-- An object as it is stored, with another status if one is given. -/
def reporting (object : Json) (status : Option Json) : Json :=
  (status.map (object.set "status")).getD object

theorem get?_reporting {name : String} (apart : name ≠ "status") (status : Option Json) :
    (object.reporting status).get? name = object.get? name := by
  cases status with
  | none => rfl
  | some v => exact (get?_set object name "status" v).trans (if_neg apart)

/-- What is stored of an object that is applied. -/
def applied (object : Json) (before status : Option Json) : Json :=
  ((object.appliedOver before).reporting status).stamped before

variable {status : Option Json}

/-- What is applied and reports a status is otherwise what was sent. -/
theorem get?_applied {name : String} (apart : name ∉ ["metadata", "status"]) :
    (object.applied before status).get? name = object.get? name := by
  have others := apart
  rw [List.mem_cons, List.mem_singleton, not_or] at others
  -- neither version nor status nor generation is this member
  rw [applied, get?_stamped, if_neg others.1, get?_reporting others.2, get?_appliedOver apart]

/-- It has the generation that it was applied with. -/
theorem generation_applied (room : object.Room before) :
    (object.applied before status).generation = object.appliedGeneration before := by
  refine generation_of_at? room.bounds ?_
  rw [applied, at?_stamped_metadata _ _ (by decide), at?_pair, get?_reporting (by decide),
    get?_appliedOver_metadata, Option.bind_some, get?_set, if_pos rfl]

/-- Applying an object adds one to its generation at most. -/
theorem generation_applied_le {n : Int} (bounds : 0 ≤ n ∧ n < 0x7fffffffffffffff)
    (old : ∀ j ∈ before, j.generation ≤ n) :
    (object.applied before status).generation ≤ n + 1 := by
  rw [generation_applied fun j mem _ => Int.lt_of_le_of_lt (old j mem) bounds.2]
  cases before with
  | none =>
    rw [appliedGeneration]
    omega
  | some j =>
    have bound := old j rfl
    rw [appliedGeneration]
    split <;> omega

/-- Applying the same again asks for no further generation. -/
theorem room_applied (object : Json) (before status : Option Json) :
    object.Room (some (object.applied before status)) := by
  rintro old ⟨⟩ changed
  exact absurd (get?_applied (by decide)).symm changed

end Json

namespace Lenient

variable {rules : List LenientRule} {object metadata : Json} {before : Option Json}

/-- An object that is applied keeps its form, if the status that it is given has no fault. -/
theorem fault_appliedOver (h : fault rules .value object = none)
    (isMetadata : rules.find? (fun r => r.name == "metadata") =
      some (ObjectMeta.format.lenient "metadata"))
    (there : object.get? "metadata" = some metadata) (apart : metadata ≠ .null)
    (room : object.Room before)
    (status : ∀ v, before.bind (·.get? "status") = some v →
      memberFault rules .value ("status", v) = none) :
    fault rules .value (object.appliedOver before) = none := by
  have kept : fault rules .value (object.keepingStatus before) = none := by
    rw [Json.keepingStatus]
    cases isStatus : before.bind (·.get? "status") with
    | none => exact h
    | some v => exact fault_set h (status v isStatus)
  rw [Json.appliedOver_eq]
  refine fault_setAt_metadata kept isMetadata ?_ apart rfl ?_
  · rw [Json.get?_keepingStatus (by decide), there]
  · exact Format.integerFault_ofInt room.bounds

/-- A status without fault makes none. -/
theorem fault_reporting (h : fault rules .value object = none) {status : Option Json}
    (fine : ∀ v ∈ status, memberFault rules .value ("status", v) = none) :
    fault rules .value (object.reporting status) = none := by
  cases status with
  | none => exact h
  | some v => exact fault_set h (fine v rfl)

/-- What is found in a record without fault has none. -/
theorem memberFault_of_get? {source : Source} {j v : Json} {name : String}
    (h : fault rules source j = none) (there : j.get? name = some v) :
    memberFault rules source (name, v) = none := by
  obtain ⟨ms, rfl⟩ := eq_object_of_fault h
  exact memberFault_of_fault h (Json.mem_of_find? there)

/-- What has been applied has no fault if what was sent, what was there and the status have none. -/
theorem fault_applied (h : fault rules .value object = none)
    (isMetadata : rules.find? (fun r => r.name == "metadata") =
      some (ObjectMeta.format.lenient "metadata"))
    (there : object.get? "metadata" = some metadata) (apart : metadata ≠ .null)
    (room : object.Room before) (old : ∀ j ∈ before, fault rules .value j = none)
    {status : Option Json} (fine : ∀ v ∈ status, memberFault rules .value ("status", v) = none) :
    fault rules .value (object.applied before status) = none := by
  have carried : ∀ v, before.bind (·.get? "status") = some v →
      memberFault rules .value ("status", v) = none := by
    intro v isStatus
    obtain ⟨j, isOld, isStatus⟩ := Option.bind_eq_some_iff.1 isStatus
    exact memberFault_of_get? (old j isOld) isStatus
  have whole := fault_reporting (fault_appliedOver h isMetadata there apart room carried) fine
  have metadata := (Json.get?_reporting (by decide) status).trans
    (@Json.get?_appliedOver_metadata object before)
  exact fault_stamped whole isMetadata metadata (by rintro ⟨⟩) before

end Lenient

end ReplicaSetOperator

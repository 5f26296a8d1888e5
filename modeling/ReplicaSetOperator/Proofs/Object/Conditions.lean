import ReplicaSetOperator.Cluster.Report
import ReplicaSetOperator.Proofs.Object.Faultless

/-!
# Lists of conditions

Conditions are read as they were written (`Condition.read_write`). Bringing a list up to date makes
it say what was to be reported (`Condition.says_setIn`) and leaves the conditions of other types
(`Condition.find?_setIn_of_ne`). Nothing changes exactly if the list says it already
(`Condition.unchanged_iff`).
-/

namespace ReplicaSetOperator

namespace Format

theorem time_read_write {t : Timestamp} (valid : t.Valid) : time.read (time.write t) = t := by
  simp only [time, Json.string?, Option.bind_some, String.toList_ofList,
    Timestamp.parse?_text valid, Option.getD_some]

theorem int64_read_write (i : Int64) : int64.read (int64.write i) = i := Int64.ofInt_toInt i

end Format

namespace Condition

/-- The members that a condition is written with. -/
def written (c : Condition) : List (String × Option Json) :=
  [("lastTransitionTime", some (Format.time.write c.lastTransitionTime)),
   ("message", some (.string c.message)),
   ("observedGeneration", c.observedGeneration.map Format.int64.write),
   ("reason", some (.string c.reason)), ("status", some (.string c.status)),
   ("type", some (.string c.type))]

theorem nodup_written (c : Condition) : (c.written.map Prod.fst).Nodup := by simp [written]

variable {c old new : Condition}

/-- What is found in a written condition is what was written under the name. -/
theorem get?_write (c : Condition) (name : String) :
    (format.write c).get? name = (c.written.lookup name).join :=
  Json.get?_record name c.nodup_written

/-- A condition with a time that exists is read as it was written. -/
theorem read_write (valid : c.lastTransitionTime.Valid) : format.read (format.write c) = c := by
  -- each member stands as it was written, so that it is read by its own format
  have text {name s : String} (there : (format.write c).get? name = some (.string s)) :
      Format.string.presentD name "" (format.write c) = s := by
    rw [Format.presentD, Format.present?_of_get? there (by rintro ⟨⟩)]
    rfl
  have time : Format.time.presentD "lastTransitionTime" default (format.write c) =
      c.lastTransitionTime := by
    rw [Format.presentD, Format.present?_of_get? (c.get?_write _) (by rintro ⟨⟩)]
    exact Format.time_read_write valid
  have generation : Format.int64.present? "observedGeneration" (format.write c) =
      c.observedGeneration := by
    have there := c.get?_write "observedGeneration"
    cases observed : c.observedGeneration with
    | none => exact Format.present?_of_absent (there.trans (by rw [written, observed]; rfl))
    | some i =>
      rw [written, observed] at there
      rw [Format.present?_of_get? there (by rintro ⟨⟩)]
      exact congrArg some (Format.int64_read_write i)
  show Condition.mk _ _ _ _ _ _ = c
  rw [time, generation, text (c.get?_write "message"), text (c.get?_write "reason"),
    text (c.get?_write "status"), text (c.get?_write "type")]

/-- A condition with a time that exists is written without fault. -/
theorem faultless (valid : c.lastTransitionTime.Valid) : format.Faultless c := by
  refine Lenient.fault_record_strict c.nodup_written ?_ ?_
  · refine Lenient.fits_cons rfl (Format.time_faultless valid).always ?_
    refine Lenient.fits_cons rfl (Format.string_faultless _).always ?_
    refine Lenient.fits_cons rfl (Format.Faultless.member fun i _ => Format.int64_faultless i) ?_
    refine Lenient.fits_cons rfl (Format.string_faultless _).always ?_
    refine Lenient.fits_cons rfl (Format.string_faultless _).always ?_
    exact Lenient.fits_cons rfl (Format.string_faultless _).always Lenient.fits_nil
  · intro r mem isStrict
    simp only [List.mem_cons, List.not_mem_nil, or_false] at mem
    rcases mem with rfl | rfl | rfl | rfl | rfl | rfl <;> cases isStrict
    rfl

theorem list_read_write {cs : List Condition} (valid : ∀ c ∈ cs, c.lastTransitionTime.Valid) :
    format.list.read (format.list.write cs) = cs := by
  show (cs.map format.write).map format.read = cs
  rw [List.map_map]
  exact (List.map_congr_left fun c mem => read_write (valid c mem)).trans (List.map_id cs)

/-- A condition that is read without fault has a time that exists. -/
theorem valid_of_fault {j : Json} (h : format.fault .value j = none) :
    (format.read j).lastTransitionTime.Valid := by
  obtain ⟨t, there⟩ := Lenient.get?_of_strict h (List.mem_cons_self ..) rfl
  have fine : Format.time.fault .value t = none := Lenient.fault_of_strict h rfl rfl there
  -- The rule of times holds of null too, which is no time.
  have apart : t ≠ .null := by
    rintro rfl
    cases fine
  show (Format.time.presentD "lastTransitionTime" default j).Valid
  rw [Format.presentD, Format.present?_of_get? there apart]
  exact Format.valid_of_fault fine

/-! ### What a list says -/

/-- The first condition of a type in a list says what is reported at a generation. -/
def Says (type : String) (report : Report) (generation : Option Int64) (cs : List Condition) :
    Prop :=
  ∃ c, find? type cs = some c ∧ c.status = (if report.holds then "True" else "False") ∧
    c.reason = report.reason.label ∧ c.message = report.message ∧
    c.observedGeneration = generation

variable {cs : List Condition} {type : String} {report : Report} {generation : Option Int64}
  {now : Timestamp}

/-- A condition says the same exactly if status, reason, message and generation are the same. -/
theorem differs_eq_false (old new : Condition) : old.differs new = false ↔
    old.status = new.status ∧ old.reason = new.reason ∧ old.message = new.message ∧
      old.observedGeneration = new.observedGeneration := by
  rw [differs, Bool.or_eq_false_iff, Bool.or_eq_false_iff, Bool.or_eq_false_iff, and_assoc,
    and_assoc]
  simp only [decide_eq_false_iff_not, ne_eq, Decidable.not_not]

/-- A list has the first of its conditions of a type. -/
theorem find?_cons (type : String) (c : Condition) (cs : List Condition) :
    find? type (c :: cs) = if c.type = type then some c else find? type cs := by
  rw [find?, List.find?_cons]
  by_cases same : c.type = type
  · simp only [same, BEq.rfl, if_true]
  · rw [if_neg same, beq_false_of_ne same]
    rfl

/-- What is set comes first of its type, with all that the new condition says. -/
theorem find?_setIn (new : Condition) (cs : List Condition) :
    ∃ c, find? new.type (setIn new cs).1 = some c ∧ c.differs new = false := by
  induction cs with
  | nil => exact ⟨new, by rw [setIn, find?_cons, if_pos rfl], by simp [differs]⟩
  | cons old rest ih =>
    -- the first condition of the type is changed in place, and no other one
    unfold setIn
    by_cases same : old.type = new.type
    · rw [if_pos same]
      refine ⟨old.updatedBy new, ?_, by simp [differs, updatedBy]⟩
      exact (find?_cons _ _ _).trans (if_pos same)
    · rw [if_neg same]
      dsimp only
      rwa [find?_cons, if_neg same]

/-- What the list says of another type stays. -/
theorem find?_setIn_of_ne (new : Condition) (apart : new.type ≠ type) (cs : List Condition) :
    find? type (setIn new cs).1 = find? type cs := by
  induction cs with
  | nil => rw [setIn, find?_cons, if_neg apart]
  | cons old rest ih =>
    unfold setIn
    by_cases same : old.type = new.type
    · have other : old.type ≠ type := fun h => apart (same.symm.trans h)
      rw [if_pos same, find?_cons, find?_cons, if_neg other]
      exact if_neg other
    · rw [if_neg same]
      dsimp only
      rw [find?_cons, find?_cons, ih]

/-- Something changes unless the first condition of the type says the same already. -/
theorem snd_setIn (new : Condition) (cs : List Condition) :
    (setIn new cs).2 = ((find? new.type cs).map fun old => old.differs new).getD true := by
  induction cs with
  | nil => rfl
  | cons old rest ih =>
    unfold setIn
    by_cases same : old.type = new.type
    · rw [if_pos same, find?_cons, if_pos same]
      rfl
    · rw [if_neg same, find?_cons, if_neg same]
      exact ih

/-- A list says what is reported exactly if its condition does not differ from the one reported. -/
theorem says_iff : Says type report generation cs ↔
    ∃ c, find? type cs = some c ∧ c.differs (report.condition type now generation) = false := by
  simp only [differs_eq_false]
  rfl

/-- After a condition has been set the list says it. -/
theorem says_setIn (cs : List Condition) :
    Says type report generation ((report.condition type now generation).setIn cs).1 :=
  says_iff.2 (find?_setIn (report.condition type now generation) cs)

theorem says_congr {cs' : List Condition} (same : find? type cs' = find? type cs) :
    Says type report generation cs' ↔ Says type report generation cs := by
  rw [Says, Says, same]

theorem isTrue_congr {cs' : List Condition} (same : find? type cs' = find? type cs) :
    isTrue type cs' = isTrue type cs := by
  rw [isTrue, isTrue, same]

/-- A condition is true in a list exactly if that is what the list says. -/
theorem Says.isTrue (h : Says type report generation cs) : isTrue type cs = report.holds := by
  obtain ⟨c, found, status, -⟩ := h
  rw [Condition.isTrue, found, Option.any_some, status]
  cases report.holds with
  | true => rfl
  | false => rfl

/-- Nothing changes exactly if the list says it already. -/
theorem unchanged_iff : ((report.condition type now generation).setIn cs).2 = false ↔
    Says type report generation cs := by
  rw [snd_setIn, @says_iff cs type report generation now]
  change ((find? type cs).map fun old =>
    old.differs (report.condition type now generation)).getD true = false ↔ _
  cases find? type cs with
  | none => simp
  | some c => simp

/-- A condition that says the same already stays as it is. -/
theorem updatedBy_of_same (h : old.differs new = false) : old.updatedBy new = old := by
  obtain ⟨status, reason, message, generation⟩ := (differs_eq_false old new).1 h
  rw [updatedBy, if_pos status, ← status, ← reason, ← message, ← generation]

/-- A list in which nothing changes stays as it is. -/
theorem setIn_of_unchanged (h : (setIn new cs).2 = false) : (setIn new cs).1 = cs := by
  induction cs with
  | nil => cases h
  | cons old rest ih =>
    unfold setIn at h ⊢
    by_cases same : old.type = new.type
    · rw [if_pos same] at h ⊢
      exact congrArg (· :: rest) (updatedBy_of_same h)
    · rw [if_neg same] at h ⊢
      exact congrArg (old :: ·) (ih h)

/-- What holds of all times of a list and of a new one still does when the list is brought up to
date. -/
theorem times_setIn {holds : Timestamp → Prop} {new : Condition}
    (now : holds new.lastTransitionTime) (each : ∀ c ∈ cs, holds c.lastTransitionTime) :
    ∀ c ∈ (setIn new cs).1, holds c.lastTransitionTime := by
  induction cs with
  | nil => simpa [setIn] using now
  | cons old rest ih =>
    obtain ⟨first, others⟩ := List.forall_mem_cons.1 each
    unfold setIn
    split
    · refine List.forall_mem_cons.2 ⟨?_, others⟩
      -- the time is that of the old condition, or the new one
      show holds (if old.status = new.status then old.lastTransitionTime
        else new.lastTransitionTime)
      split
      · exact first
      · exact now
    · exact List.forall_mem_cons.2 ⟨first, ih others⟩

end Condition

end ReplicaSetOperator

import ReplicaSetOperator.Proofs.Object.Faultless
import ReplicaSetOperator.Server.Basic

/-!
# What is carried along

A part of an object that nothing looks into is checked when it is read, brought into its normal form
and, when it is sent, read again from its text. All that leaves it without fault
(`Passive.Stable`), so metadata that has been read without fault can be sent back
(`ObjectMeta.sound_read`, `ObjectMeta.faultless`), and with it a secret.
-/

namespace ReplicaSetOperator

namespace Json

/-! ### Reading back -/

mutual

/-- Reading a value again changes nothing about where it breaks off. -/
theorem firstBroken_reread (strict : Bool) : ∀ j : Json,
    j.reread.firstBroken strict = j.firstBroken strict
  | .null => rfl
  | .bool _ => rfl
  | .number _ => rfl
  | .string _ => rfl
  | .array items => firstBrokenItem_reread strict items
  | .object ms => firstBrokenMember_reread strict ms
  | .broken _ => rfl

theorem firstBrokenItem_reread (strict : Bool) : ∀ items : List Json,
    firstBrokenItem strict (rereadItems items) = firstBrokenItem strict items
  | [] => rfl
  | j :: rest => by
    rw [rereadItems, firstBrokenItem, firstBrokenItem, firstBroken_reread strict j,
      firstBrokenItem_reread strict rest]

theorem firstBrokenMember_reread (strict : Bool) : ∀ ms : Members,
    firstBrokenMember strict (rereadMembers ms) = firstBrokenMember strict ms
  | [] => rfl
  | (key, j) :: rest => by
    rw [rereadMembers, firstBrokenMember, firstBrokenMember, firstBroken_reread strict j,
      firstBrokenMember_reread strict rest]

end

/-- Who passes over a value passes over what its text is read as. -/
theorem passed_reread {j : Json} (h : j.passed = none) : j.reread.passed = none := by
  cases j with
  | broken flaw => exact h
  | array items => exact (firstBrokenItem_reread false items).trans h
  | object ms => exact (firstBrokenMember_reread false ms).trans h
  | _ => rfl

end Json

namespace Passive

/-- Values without fault have none in their normal form, and neither does what their texts are read
as. -/
structure Stable (p : Passive) : Prop where
  normal : ∀ j, p.fault .value j = none → p.fault .value (p.normal j) = none
  reread : ∀ j, p.fault .value j = none → p.fault .value j.reread = none

/-- A part is stable if what its format reads is written without fault. -/
theorem ofFormat_stable {α : Type} {f : Format α} {blank : α}
    (written : ∀ j, f.fault .value j = none → f.Faultless (f.read j))
    (reread : ∀ j, f.fault .value j = none → f.fault .value j.reread = none) :
    (ofFormat f blank).Stable :=
  ⟨written, reread⟩

/-- Texts are stable. -/
theorem text_stable : text.Stable := by
  refine ofFormat_stable (fun j _ => Format.string_faultless _) fun j h => ?_
  cases j with
  | string s => rfl
  | _ => cases h

/-- Times are stable, as no other time is read than a valid one. -/
theorem time_stable : time.Stable := by
  refine ofFormat_stable (fun j h => Format.time_faultless (Format.valid_of_fault h)) fun j h => ?_
  cases j with
  | string s => exact h
  | _ => cases h

/-- What is not looked into at all is stable. -/
theorem any_stable : any.Stable where
  normal _ h := h
  reread j h := (Json.firstBroken_reread true j).trans h

/-- A list is stable if its items are. -/
theorem list_stable {p : Passive} (h : p.Stable) : p.list.Stable where
  normal j fine := by
    cases j with
    | array items =>
      have each := List.findSome?_eq_none_iff.1 fine
      show (items.map p.normal).findSome? (p.fault .value) = none
      rw [List.findSome?_eq_none_iff]
      -- the normal form of the list consists of that of its items
      intro j mem
      obtain ⟨i, there, rfl⟩ := List.mem_map.1 mem
      exact h.normal i (each i there)
    | _ => cases fine
  reread j fine := by
    cases j with
    | array items =>
      have each := List.findSome?_eq_none_iff.1 fine
      show (Json.rereadItems items).findSome? (p.fault .value) = none
      rw [Json.rereadItems_eq, List.findSome?_eq_none_iff]
      intro j mem
      -- and what its text is read as, of what theirs are
      obtain ⟨i, there, rfl⟩ := List.mem_map.1 mem
      exact h.reread i (each i there)
    | _ => cases fine

/-! ### Records -/

variable {fields : List PassiveField}

/-- The rule for a member is found under its name. -/
theorem rule_of_mem (distinct : (fields.map (·.name)).Nodup) {f : PassiveField}
    (mem : f ∈ fields) :
    (rules fields).find? (fun r => r.name == f.name) = some ⟨f.name, .optional, f.part.fault⟩ := by
  induction fields with
  | nil => cases mem
  | cons g rest ih =>
    obtain ⟨first, others⟩ := List.nodup_cons.1 distinct
    rw [rules, List.map_cons]
    rcases List.mem_cons.1 mem with rfl | mem
    · exact List.find?_cons_of_pos (by simp)
    · have apart : g.name ≠ f.name := fun same =>
        first (List.mem_map.2 ⟨f, mem, same.symm⟩)
      rw [List.find?_cons_of_neg (by simpa using apart)]
      exact ih others mem

/-- Nothing that is carried along has to be there. -/
theorem mild_rules : ∀ r ∈ rules fields, r.need ≠ .strict := by
  intro r mem
  obtain ⟨f, -, rfl⟩ := List.mem_map.1 mem
  rintro ⟨⟩

/-- What is carried along out of a record without fault has none. -/
theorem memberFault_of_mem_collect (distinct : (fields.map (·.name)).Nodup)
    (spare : ∀ f ∈ fields, f.required = false) (stable : ∀ f ∈ fields, f.part.Stable)
    {ms : Json.Members}
    (fine : ∀ f ∈ fields, ∀ v, (f.name, v) ∈ ms → v ≠ .null → f.part.fault .value v = none) :
    ∀ m ∈ collect fields (.object ms), Lenient.memberFault (rules fields) .value m = none := by
  intro m mem
  obtain ⟨f, there, same⟩ := List.mem_filterMap.1 (Json.mem_sortMembers mem)
  split at same
  · next v isPresent =>
    cases same
    obtain ⟨isMember, apart⟩ := Lenient.get?_of_present? isPresent
    exact Lenient.memberFault_of_rule (rule_of_mem distinct there)
      ((stable f there).normal v (fine f there v (Json.mem_of_find? isMember) apart))
  · rw [spare f there, if_neg Bool.false_ne_true] at same
    cases same

/-- A member without fault has none when it is read again. -/
theorem memberFault_reread (stable : ∀ f ∈ fields, f.part.Stable) {m : String × Json}
    (h : Lenient.memberFault (rules fields) .value m = none) :
    Lenient.memberFault (rules fields) .value (m.1, m.2.reread) = none := by
  obtain ⟨name, v⟩ := m
  rw [Lenient.memberFault] at h ⊢
  dsimp only at h ⊢
  -- a member without a rule is passed over, and one with a rule is stable or null
  split
  · next unknown =>
    rw [unknown] at h
    exact Json.passed_reread h
  · next r known =>
    rw [known] at h
    dsimp only at h
    obtain ⟨f, there, rfl⟩ := List.mem_map.1 (List.mem_of_find?_eq_some known)
    by_cases isNull : v = .null
    · subst isNull
      exact if_pos ⟨rfl, rfl⟩
    · rw [if_neg fun both => isNull both.1] at h
      split
      · rfl
      · exact (stable f there).reread v h

/-- A record is stable if its members are. -/
theorem record_stable (distinct : (fields.map (·.name)).Nodup)
    (spare : ∀ f ∈ fields, f.required = false) (stable : ∀ f ∈ fields, f.part.Stable) :
    (record fields).Stable where
  normal j fine := by
    obtain ⟨ms, rfl⟩ := Lenient.eq_object_of_fault fine
    refine Lenient.fault_object (memberFault_of_mem_collect distinct spare stable ?_)
      fun r mem isStrict => absurd isStrict (mild_rules r mem)
    -- in the normal form only members are left that were there
    intro f there v mem apart
    exact Lenient.fault_of_memberFault (rule_of_mem distinct there) apart
      (Lenient.memberFault_of_fault fine mem)
  reread j fine := by
    obtain ⟨ms, rfl⟩ := Lenient.eq_object_of_fault fine
    show Lenient.fault (rules fields) .value (.object (Json.rereadMembers ms)) = none
    rw [Json.rereadMembers_eq]
    refine Lenient.fault_object (fun m mem => ?_) fun r mem isStrict =>
      absurd isStrict (mild_rules r mem)
    -- read again, each member is one that was there, by its name
    obtain ⟨n, there, rfl⟩ := List.mem_map.1 mem
    exact memberFault_reread stable (Lenient.memberFault_of_fault fine there)

/-- Managed fields are stable. -/
theorem managedFields_stable : managedFields.Stable := by
  refine record_stable (by decide) (by decide) ?_
  intro f mem
  simp only [fields, field, List.map_cons, List.map_nil, List.cons_append, List.nil_append,
    List.mem_cons, List.not_mem_nil, or_false] at mem
  -- one line for each member, in their order
  rcases mem with rfl | rfl | rfl | rfl | rfl | rfl | rfl
  · exact text_stable
  · exact text_stable
  · exact text_stable
  · exact text_stable
  · exact text_stable
  · exact any_stable
  · exact time_stable

end Passive

/-! ### Metadata -/

theorem OwnerReference.faultless (o : OwnerReference) : format.Faultless o := by
  refine Lenient.fault_record ?_ rfl
  refine Lenient.fits_cons rfl (Format.string_faultless _).always ?_
  refine Lenient.fits_cons rfl (Format.flag_faultless _) ?_
  refine Lenient.fits_cons rfl (Format.flag_faultless _) ?_
  refine Lenient.fits_cons rfl (Format.string_faultless _).always ?_
  refine Lenient.fits_cons rfl (Format.string_faultless _).always ?_
  exact Lenient.fits_cons rfl (Format.string_faultless _).always Lenient.fits_nil

namespace ObjectMeta

/-- The rules of the members that are looked into. -/
def ownRules : List LenientRule :=
  [Format.labels.lenient "annotations", Format.time.lenient "creationTimestamp",
   Format.int64.lenient "deletionGracePeriodSeconds", Format.time.lenient "deletionTimestamp",
   Format.string.list.lenient "finalizers", Format.string.lenient "generateName",
   Format.int64.lenient "generation", Format.labels.lenient "labels",
   Format.string.lenient "name", Format.string.lenient "namespace",
   OwnerReference.format.list.lenient "ownerReferences",
   Format.string.lenient "resourceVersion", Format.string.lenient "uid"]

/-- The rules of all members. -/
def rules : List LenientRule := ownRules ++ Passive.rules otherFields

/-- No member of metadata has to be there. -/
theorem mild_rules : ∀ r ∈ rules, r.need ≠ .strict := by
  intro r mem
  rcases List.mem_append.1 mem with mem | mem
  · simp only [ownRules, List.mem_cons, List.not_mem_nil, or_false] at mem
    rcases mem with rfl | rfl | rfl | rfl | rfl | rfl | rfl | rfl | rfl | rfl | rfl | rfl | rfl
    all_goals rintro ⟨⟩
  · exact Passive.mild_rules r mem

/-- What metadata carries along is stable. -/
theorem stable_otherFields : ∀ f ∈ otherFields, f.part.Stable := by
  intro f mem
  simp only [otherFields, List.mem_cons, List.not_mem_nil, or_false] at mem
  rcases mem with rfl | rfl
  · exact Passive.list_stable Passive.managedFields_stable
  · exact Passive.text_stable

/-- Metadata that can be written: its times are valid, and what is carried along is what such
members are read as. -/
structure Sound (m : ObjectMeta) : Prop where
  created : ∀ t ∈ m.creationTimestamp, t.Valid
  deleted : ∀ t ∈ m.deletionTimestamp, t.Valid
  tidy : m.Tidy
  carried : ∀ x ∈ m.other, Lenient.memberFault (Passive.rules otherFields) .value x = none

/-- Metadata that has just been made is sound. -/
theorem sound_of_new {m : ObjectMeta} (created : m.creationTimestamp = none)
    (deleted : m.deletionTimestamp = none) (other : m.other = []) : m.Sound where
  created := by
    rw [created]
    exact fun _ mem => (Option.not_mem_none _ mem).elim
  deleted := by
    rw [deleted]
    exact fun _ mem => (Option.not_mem_none _ mem).elim
  tidy := tidy_of_other_eq_nil other
  carried := by
    rw [other]
    exact fun _ mem => absurd mem List.not_mem_nil

/-- Metadata that has been read without fault is sound. -/
theorem sound_read {j : Json} (h : format.fault .value j = none) : (format.read j).Sound where
  created t mem := by
    obtain ⟨v, there, apart, rfl⟩ := Format.get?_of_present? mem
    exact Format.valid_of_fault (Lenient.fault_of_get? h rfl there apart)
  deleted t mem := by
    obtain ⟨v, there, apart, rfl⟩ := Format.get?_of_present? mem
    exact Format.valid_of_fault (Lenient.fault_of_get? h rfl there apart)
  tidy := tidy_read j
  carried := by
    obtain ⟨ms, rfl⟩ := Lenient.eq_object_of_fault h
    refine Passive.memberFault_of_mem_collect (by decide) (by decide) stable_otherFields ?_
    -- whatever is carried along was there, without fault
    intro f mem v there apart
    have fine := Lenient.memberFault_of_fault h there
    simp only [otherFields, List.mem_cons, List.not_mem_nil, or_false] at mem
    rcases mem with rfl | rfl
    · exact Lenient.fault_of_memberFault rfl apart fine
    · exact Lenient.fault_of_memberFault rfl apart fine

/-- It stays so when it is read again. -/
theorem Sound.reread {m : ObjectMeta} (h : m.Sound) : m.reread.Sound where
  created := h.created
  deleted := h.deleted
  tidy := h.tidy.reread
  carried := by
    show ∀ x ∈ Json.rereadMembers m.other, _
    rw [Json.rereadMembers_eq]
    intro x mem
    obtain ⟨y, there, rfl⟩ := List.mem_map.1 mem
    exact Passive.memberFault_reread stable_otherFields (h.carried y there)

/-- Only the rules of what is carried along count for it. -/
theorem Sound.memberFault {m : ObjectMeta} (h : m.Sound) :
    ∀ x ∈ m.other, Lenient.memberFault rules .value x = none := by
  intro x mem
  have name := h.tidy x.1 (List.mem_map.2 ⟨x, mem, rfl⟩)
  have same : Lenient.memberFault rules .value x =
      Lenient.memberFault (Passive.rules otherFields) .value x := by
    obtain ⟨key, v⟩ := x
    simp only [List.mem_cons, List.not_mem_nil, or_false] at name
    rcases name with rfl | rfl <;> rfl
  rw [same]
  exact h.carried x mem

/-- Sound metadata is written without fault. -/
theorem Sound.faultless {m : ObjectMeta} (h : m.Sound) : format.Faultless m := by
  refine Lenient.fault_recordWith ?_ (Lenient.fault_object h.memberFault fun r mem isStrict =>
    absurd isStrict (mild_rules r mem))
  have labels (l? : Option Labels) :
      ∀ v ∈ l?.map Format.labels.write, Format.labels.fault .value v = none :=
    Format.Faultless.member fun l _ => Format.labels_faultless l
  have numbers (i? : Option Int64) :
      ∀ v ∈ i?.map Format.int64.write, Format.int64.fault .value v = none :=
    Format.Faultless.member fun i _ => Format.int64_faultless i
  -- one line for each field, in their order
  refine Lenient.fits_cons rfl (labels _) ?_
  refine Lenient.fits_cons rfl
    (Format.Faultless.member fun t mem => Format.time_faultless (h.created t mem)) ?_
  refine Lenient.fits_cons rfl (numbers _) ?_
  refine Lenient.fits_cons rfl
    (Format.Faultless.member fun t mem => Format.time_faultless (h.deleted t mem)) ?_
  refine Lenient.fits_cons rfl (Format.Faultless.member fun names _ =>
    Format.list_faultless fun s _ => Format.string_faultless s) ?_
  refine Lenient.fits_cons rfl (Format.text_faultless _) ?_
  refine Lenient.fits_cons rfl (numbers _) ?_
  refine Lenient.fits_cons rfl (labels _) ?_
  refine Lenient.fits_cons rfl (Format.text_faultless _) ?_
  refine Lenient.fits_cons rfl (Format.text_faultless _) ?_
  refine Lenient.fits_cons rfl (Format.Faultless.member fun owners _ =>
    Format.list_faultless fun o _ => OwnerReference.faultless o) ?_
  refine Lenient.fits_cons rfl (Format.text_faultless _) ?_
  exact Lenient.fits_cons rfl (Format.text_faultless _) Lenient.fits_nil

end ObjectMeta

/-! ### Metadata inside an object -/

/-- Changing a member of metadata makes no fault, if there is none in the member. -/
theorem ObjectMeta.fault_set {m v : Json} {name : String} {r : LenientRule}
    (h : format.fault .value m = none) (found : rules.find? (fun r => r.name == name) = some r)
    (fine : r.fault .value v = none) : format.fault .value (m.set name v) = none :=
  Lenient.fault_set h (Lenient.memberFault_of_rule found fine)

namespace Lenient

variable {rules : List LenientRule} {object metadata : Json}

/-- Changing a member of the metadata of an object makes no fault, if there is none in the
member. -/
theorem fault_setAt_metadata {name : String} {v : Json} {r : LenientRule}
    (h : fault rules .value object = none)
    (isMetadata : rules.find? (fun r => r.name == "metadata") =
      some (ObjectMeta.format.lenient "metadata"))
    (there : object.get? "metadata" = some metadata) (apart : metadata ≠ .null)
    (found : ObjectMeta.rules.find? (fun r => r.name == name) = some r)
    (fine : r.fault .value v = none) :
    fault rules .value (object.setAt ["metadata", name] v) = none := by
  have inside : ObjectMeta.format.fault .value metadata = none :=
    fault_of_get? h isMetadata there apart
  show fault rules .value (object.set "metadata"
    (((object.get? "metadata").getD .null).set name v)) = none
  rw [there]
  exact fault_set h (memberFault_of_rule isMetadata (ObjectMeta.fault_set inside found fine))

/-- An object that is stored keeps its form. -/
theorem fault_stamped (h : fault rules .value object = none)
    (isMetadata : rules.find? (fun r => r.name == "metadata") =
      some (ObjectMeta.format.lenient "metadata"))
    (there : object.get? "metadata" = some metadata) (apart : metadata ≠ .null)
    (old : Option Json) : fault rules .value (object.stamped old) = none :=
  fault_setAt_metadata h isMetadata there apart rfl rfl

end Lenient

/-! ### Secrets -/

namespace Secret

/-- A secret with sound metadata is written without fault. -/
theorem faultless {s : Secret} (sound : s.metadata.Sound) : format.Faultless s := by
  refine Lenient.fault_record ?_ rfl
  refine Lenient.fits_cons rfl ?_ ?_
  -- version and kind are texts
  · rintro v ⟨⟩
    rfl
  refine Lenient.fits_cons rfl ?_ ?_
  · rintro v ⟨⟩
    rfl
  refine Lenient.fits_cons rfl sound.faultless.always ?_
  refine Lenient.fits_cons rfl (Format.Faultless.member fun d _ =>
    Format.secretData_faultless d) ?_
  refine Lenient.fits_cons rfl (Format.flag_faultless _) ?_
  refine Lenient.fits_cons rfl (Format.Faultless.member fun l _ => Format.labels_faultless l) ?_
  exact Lenient.fits_cons rfl (Format.text_faultless _) Lenient.fits_nil

/-- A secret without fault has none when it is stored. -/
theorem fault_stamped {j metadata : Json} (h : format.fault .value j = none)
    (there : j.get? "metadata" = some metadata) (apart : metadata ≠ .null) (old : Option Json) :
    format.fault .value (j.stamped old) = none :=
  Lenient.fault_stamped h rfl there apart old

/-- The metadata of a secret that has been read without fault is sound. -/
theorem sound_read {j : Json} (h : format.fault .value j = none) :
    (format.read j).metadata.Sound := by
  show (ObjectMeta.format.presentD "metadata" {} j).Sound
  rw [Format.presentD]
  cases present : ObjectMeta.format.present? "metadata" j with
  | none => exact ObjectMeta.sound_of_new rfl rfl rfl
  | some m =>
    obtain ⟨v, there, apart, rfl⟩ := Format.get?_of_present? present
    exact ObjectMeta.sound_read (Lenient.fault_of_get? h rfl there apart)

end Secret

end ReplicaSetOperator

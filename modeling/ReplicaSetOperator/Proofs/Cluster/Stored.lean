import ReplicaSetOperator.Proofs.Json.Merges
import ReplicaSetOperator.Proofs.Object.Conditions
import ReplicaSetOperator.Proofs.Operator.Demands
import ReplicaSetOperator.Proofs.Object.Sound

/-!
# Clusters as a server keeps them

A cluster that a server keeps decodes and has its members in order (`Cluster.Whole`). It stays so,
and is read as one would expect, when its metadata or its status is replaced
(`Cluster.Whole.set_metadata`, `Cluster.Whole.set_status`); every patch of the operator and every
new resource version comes down to that.
-/

namespace ReplicaSetOperator

/-- An object whose members are in order. -/
def Json.Sorted (j : Json) : Prop := ∃ ms, j = .object ms ∧ Ascending ms

/-- A patch of one member puts that member into an object. -/
theorem Json.merge_member (key : String) {change : Json} (there : change ≠ .null) (j : Json) :
    (record [(key, some change)]).merge j =
      j.set key (change.merge ((j.get? key).getD .null)) := by
  show Json.object (mergeMembers [(key, change)] j.members) = _
  rw [mergeMembers_cons [] _ there]
  rfl

/-- An object stays in order when a member is set. -/
theorem Json.Sorted.set {j : Json} (h : j.Sorted) (key : String) (v : Json) :
    (j.set key v).Sorted := by
  obtain ⟨ms, rfl, ascending⟩ := h
  exact ⟨_, rfl, ascending.insertMember key v⟩

namespace Record

variable {rules : List FieldRule} {source : Source} {j v : Json} {name : String}

/-- What is found in a record without fault has none. -/
theorem fine_of_get? (sorted : j.Sorted) (h : fault rules source j = none)
    (there : j.get? name = some v) : Fine rules source (name, v) := by
  obtain ⟨ms, rfl, ascending⟩ := sorted
  exact ((fault_object ascending.nodup).1 h).1 _ (Json.mem_of_find? there)

/-- A member that is required is there. -/
theorem get?_of_required {r : FieldRule} (sorted : j.Sorted) (h : fault rules source j = none)
    (mem : r ∈ rules) (required : r.presence = .required) : ∃ v, j.get? r.name = some v := by
  obtain ⟨ms, rfl, ascending⟩ := sorted
  obtain ⟨m, isMember, same⟩ :=
    List.mem_map.1 (((fault_object ascending.nodup).1 h).2 r mem required)
  exact ⟨m.2, Json.find?_of_mem ascending.nodup (same ▸ isMember)⟩

/-- A member without fault makes none where it is set. -/
theorem fault_set (sorted : j.Sorted) (h : fault rules source j = none)
    (fine : Fine rules source (name, v)) : fault rules source (j.set name v) = none := by
  obtain ⟨ms, rfl, ascending⟩ := sorted
  exact fault_insertMember ascending h fine

/-- Of members in order none has another name that is read before its own. -/
theorem field?_of_sorted (names : List String) (sorted : j.Sorted) :
    field? names name j = j.get? name := by
  obtain ⟨ms, rfl, -⟩ := sorted
  rfl

end Record

namespace Cluster

/-- The rules of the members of a cluster. -/
def rules : List FieldRule :=
  [ObjectMeta.format.rule "metadata", ClusterSpec.format.rule "spec",
   ClusterStatus.format.option.rule "status" .optional]

/-- The status of a cluster is read from its part; it is empty where there is none. -/
theorem status_read (ms : Json.Members) : (format.read (.object ms)).status.getD {} =
    ClusterStatus.format.read (((Json.object ms).get? "status").getD .null) := by
  show (((Json.find? "status" ms).map ClusterStatus.format.option.read).getD none).getD {} =
    ClusterStatus.format.read ((Json.find? "status" ms).getD .null)
  cases Json.find? "status" ms with
  | none => rfl
  | some v =>
    show (if v = .null then none else some (ClusterStatus.format.read v)).getD {} = _
    by_cases isNull : v = .null
    · rw [isNull]
      rfl
    · rw [if_neg isNull]
      rfl

/-- A cluster as a server keeps it. -/
structure Whole (object : Json) : Prop where
  sorted : object.Sorted
  fine : format.fault .value object = none
  status : ∀ v, object.get? "status" = some v → v ≠ .null → v.Sorted

/-- A cluster without the version under which it is stored. -/
def unversioned (c : Cluster) : Cluster :=
  { c with metadata := { c.metadata with resourceVersion := none } }

namespace Whole

variable {object v : Json} (h : Whole object)

include h

/-- A whole cluster has metadata, and they decode. -/
theorem metadata : ∃ m, object.get? "metadata" = some m ∧
    ObjectMeta.format.fault .value m = none := by
  obtain ⟨m, there⟩ := Record.get?_of_required h.sorted h.fine (List.mem_cons_self ..) rfl
  exact ⟨m, there, Record.fine_of_get? h.sorted h.fine there⟩

/-- A cluster is read from its members. -/
theorem read_eq {m : Json} (there : object.get? "metadata" = some m) :
    format.read object =
      { metadata := ObjectMeta.format.read m
        spec := ((object.get? "spec").map ClusterSpec.format.read).getD {}
        status := ((object.get? "status").map ClusterStatus.format.option.read).getD none } := by
  show Cluster.mk _ _ _ = _
  simp only [Format.readField, Record.field?_of_sorted _ h.sorted, there]
  rfl

/-- The status of a cluster without one is empty. -/
theorem status_eq : (format.read object).status.getD {} =
    ClusterStatus.format.read ((object.get? "status").getD .null) := by
  obtain ⟨ms, rfl, -⟩ := h.sorted
  exact status_read ms

/-- If it has a status, that decodes. -/
theorem fault_status (there : object.get? "status" = some v) (apart : v ≠ .null) :
    ClusterStatus.format.fault .value v = none := by
  have fine : (if v = .null then none else ClusterStatus.format.fault .value v) = none :=
    Record.fine_of_get? h.sorted h.fine there
  rwa [if_neg apart] at fine

/-- Other metadata take the place of those that it has, and its other members are read as before. -/
theorem set_metadata {m : Json} (fine : ObjectMeta.format.fault .value m = none) :
    Whole (object.set "metadata" m) ∧
      format.read (object.set "metadata" m) =
        { format.read object with metadata := ObjectMeta.format.read m } := by
  have set (name : String) := Json.get?_set object name "metadata" m
  obtain ⟨old, there, -⟩ := h.metadata
  have whole : Whole (object.set "metadata" m) :=
    ⟨h.sorted.set _ _, Record.fault_set h.sorted h.fine fine, fun v there =>
      h.status v ((set "status").symm.trans there)⟩
  refine ⟨whole, ?_⟩
  rw [whole.read_eq (set "metadata"), h.read_eq there, set "spec", set "status"]
  rfl

/-- Another status takes the place of the one that it has, if it has one. -/
theorem set_status (sorted : v.Sorted) (fine : ClusterStatus.format.fault .value v = none) :
    Whole (object.set "status" v) ∧
      format.read (object.set "status" v) =
        { format.read object with status := some (ClusterStatus.format.read v) } := by
  have set (name : String) := Json.get?_set object name "status" v
  obtain ⟨m, there, -⟩ := h.metadata
  -- a status that has members is there
  have apart : v ≠ .null := by
    obtain ⟨ms, rfl, -⟩ := sorted
    rintro ⟨⟩
  have fits : Record.Fine rules .value ("status", v) :=
    show (if v = .null then none else ClusterStatus.format.fault .value v) = none from
      (if_neg apart).trans fine
  have whole : Whole (object.set "status" v) := by
    refine ⟨h.sorted.set _ _, Record.fault_set h.sorted h.fine fits, fun w there _ => ?_⟩
    obtain rfl := Option.some.inj ((set "status").symm.trans there)
    exact sorted
  refine ⟨whole, ?_⟩
  rw [whole.read_eq ((set "metadata").trans there), h.read_eq there, set "spec", set "status"]
  show Cluster.mk _ _ (if v = .null then none else some (ClusterStatus.format.read v)) = _
  rw [if_neg apart]
  rfl

/-- Storing a cluster gives it a new version and changes nothing else. -/
theorem stamped (old : Option Json) :
    Whole (object.stamped old) ∧
      (format.read (object.stamped old)).unversioned = (format.read object).unversioned := by
  obtain ⟨m, there, fine⟩ := h.metadata
  have eq : object.stamped old = object.set "metadata"
      (m.set "resourceVersion" (.string (Json.nextResourceVersion old))) := by
    show object.set "metadata" (((object.get? "metadata").getD .null).set _ _) = _
    rw [there]
    rfl
  have fits : ObjectMeta.format.fault .value
      (m.set "resourceVersion" (.string (Json.nextResourceVersion old))) = none :=
    ObjectMeta.fault_set fine rfl (Format.string_faultless (Json.nextResourceVersion old))
  obtain ⟨whole, read⟩ := h.set_metadata fits
  rw [eq]
  refine ⟨whole, ?_⟩
  rw [read, ObjectMeta.read_set_resourceVersion, h.read_eq there]
  rfl

end Whole

/-! ### The rollout marker -/

/-- The annotations of an object with the marker set or cleared. -/
def markedAnnotations (complete : Bool) (old : Json) : Json :=
  (Json.record [(rolloutMarker, some (if complete then .string "true" else .null))]).merge old

/-- The marker is a member of the annotations that is set or erased. -/
theorem members_markedAnnotations (complete : Bool) (old : Json) :
    markedAnnotations complete old = .object
      (if complete then Json.insertMember rolloutMarker (.string "true") old.members
      else Json.eraseMember rolloutMarker old.members) := by
  cases complete with
  | true => rfl
  | false => rfl

/-- Annotations stay a dictionary of texts, whether there were any or not. -/
theorem fault_markedAnnotations (complete : Bool) {old : Json}
    (fine : old = .null ∨ Format.labels.fault .value old = none) :
    Format.labels.fault .value (markedAnnotations complete old) = none := by
  -- where there are no annotations, there are no members to go wrong
  have members : ∀ m ∈ old.members, Format.string.fault .value m.2 = none := by
    rcases fine with rfl | fine
    · exact fun m mem => absurd mem List.not_mem_nil
    · cases old with
      | object ms => exact List.findSome?_eq_none_iff.1 fine
      | _ => cases fine
  rw [members_markedAnnotations]
  refine List.findSome?_eq_none_iff.2 fun m mem => ?_
  cases complete with
  | true =>
    rcases Json.mem_insertMember mem with rfl | mem
    · rfl
    · exact members m mem
  | false => exact members m (List.mem_filter.1 mem).1

/-- The labels that are read say whether the marker is there. -/
theorem lookup_markedAnnotations (complete : Bool) (old : Json) :
    (Format.labels.read (markedAnnotations complete old)).lookup rolloutMarker =
      if complete then some "true" else none := by
  -- to look up a label is to look up the member
  have look (ms : Json.Members) : (Format.labels.read (.object ms)).lookup rolloutMarker =
      (Json.find? rolloutMarker ms).map Format.string.read := by
    induction ms with
    | nil => rfl
    | cons m ms ih =>
      rw [Json.find?_cons]
      show List.lookup _ ((m.1, Format.string.read m.2) :: _) = _
      rw [List.lookup_cons]
      by_cases same : rolloutMarker = m.1
      · rw [if_pos same, beq_iff_eq.2 same]
        rfl
      · rw [if_neg same, beq_false_of_ne same]
        exact ih
  rw [members_markedAnnotations, look]
  cases complete with
  | true =>
    rw [if_pos rfl, Json.find?_insertMember, if_pos rfl]
    rfl
  | false =>
    rw [if_neg (by simp), Json.find?_eraseMember, if_pos rfl]
    rfl

/-- Annotations with or without the marker are there, if only as an empty dictionary. -/
theorem markedAnnotations_ne_null (complete : Bool) (old : Json) :
    markedAnnotations complete old ≠ .null := by
  rw [members_markedAnnotations]
  rintro ⟨⟩

/-- The patch that sets the marker or clears it goes to the annotations in the metadata. -/
theorem merge_marking {object m : Json} (there : object.get? "metadata" = some m)
    (complete : Bool) :
    (marking complete).merge object = object.set "metadata"
      (m.set "annotations" (markedAnnotations complete ((m.get? "annotations").getD .null))) := by
  rw [marking, Json.merge_member _ (by rintro ⟨⟩), there, Option.getD_some,
    Json.merge_member _ (by rintro ⟨⟩)]
  rfl

/-- Setting or clearing the marker changes the annotations and nothing else. -/
theorem Whole.mark {object : Json} (h : Whole object) (complete : Bool) :
    Whole ((marking complete).merge object) ∧
      ∃ annotations, format.read ((marking complete).merge object) =
          { format.read object with
            metadata := { (format.read object).metadata with annotations := some annotations } } ∧
        annotations.lookup rolloutMarker = if complete then some "true" else none := by
  obtain ⟨m, there, fine⟩ := h.metadata
  obtain ⟨past, isPast⟩ : ∃ j, (m.get? "annotations").getD .null = j := ⟨_, rfl⟩
  have eq := merge_marking there complete
  rw [isPast] at eq
  -- annotations that are there can be read, as the object is whole
  have pastFine : past = .null ∨ Format.labels.fault .value past = none := by
    cases found : m.get? "annotations" with
    | none => exact .inl (by rw [← isPast, found]; rfl)
    | some v =>
      obtain rfl : v = past := by rwa [found] at isPast
      by_cases isNull : v = .null
      · exact .inl isNull
      · exact .inr (Lenient.fault_of_get? (r := Format.labels.lenient "annotations") fine rfl found
          isNull)
  have fits : ObjectMeta.format.fault .value
      (m.set "annotations" (markedAnnotations complete past)) = none :=
    ObjectMeta.fault_set fine rfl (fault_markedAnnotations complete pastFine)
  obtain ⟨whole, read⟩ := h.set_metadata fits
  rw [eq]
  refine ⟨whole, Format.labels.read (markedAnnotations complete past), ?_,
    lookup_markedAnnotations complete past⟩
  rw [read, ObjectMeta.read_set_annotations _ (markedAnnotations_ne_null complete past),
    h.read_eq there]

end Cluster

end ReplicaSetOperator
